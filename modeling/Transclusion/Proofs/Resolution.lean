import Transclusion.Resolution
import Transclusion.Proofs.BlockOrigins
import Transclusion.Proofs.PairedRuns

/-!
Resolution is a search through the whole archive. The query only passes over documents
that have nothing to give, so what is found is what a walk over all viewable documents
finds, and the archive is asked at most once for each language.
-/

namespace Transclusion

namespace Lookup

/-- The contents that a walk over documents collects, without a query: all of them, or
those of the first document that has any. -/
def walk (lookup : Lookup) (name : Text) (fields : List String) (language : String) :
    List Document → List Text
  | [] => []
  | document :: rest =>
      let here :=
        if document.viewable then
          lookup.inDocument Grammar.standard name fields language document
        else []
      if lookup.multi || here.isEmpty then here ++ lookup.walk name fields language rest else here

variable (lookup : Lookup) (name : Text) (fields : List String) (language : String)

theorem inDocuments_eq_walk (documents : List Document) :
    lookup.inDocuments Grammar.standard name fields language documents =
      lookup.walk name fields language documents := by
  induction documents with
  | nil => simp [inDocuments, choose, walk]
  | cons document documents ih =>
    rw [walk, ← ih]
    cases viewable : document.viewable with
    | false => simp only [inDocuments, List.filter_cons, viewable, if_false, Bool.false_eq_true,
        List.isEmpty_nil, Bool.or_true, if_true, List.nil_append]
    | true =>
      simp only [inDocuments, choose, List.filter_cons, viewable, if_true, List.map_cons]
      cases multi : lookup.multi with
      | true => simp
      | false =>
        cases lookup.inDocument Grammar.standard name fields language document with
        | nil => simp
        | cons content contents => simp

-- A document that the query passes over has nothing to give.
theorem inDocument_eq_nil {document : Document}
    (passed : document.contains fields (Grammar.standard.startTag name lookup.multi) = false) :
    lookup.inDocument Grammar.standard name fields language document = [] := by
  rw [inDocument, List.filterMap_eq_nil_iff]
  intro field enabled
  by_contra found
  have isSome := Option.isSome_iff_ne_none.mpr found
  have member := Document.mem_textsOf_of_ne_nil (Extraction.ne_nil_of_lookup isSome)
  rw [Document.contains_of_lookup enabled member isSome] at passed
  cases passed

theorem walk_filter (documents : List Document) :
    lookup.walk name fields language (documents.filter fun document =>
        document.contains fields (Grammar.standard.startTag name lookup.multi)) =
      lookup.walk name fields language documents := by
  induction documents with
  | nil => rfl
  | cons document documents ih =>
    cases passed : document.contains fields (Grammar.standard.startTag name lookup.multi) with
    | true => simp [passed, walk, ih]
    | false =>
      have nothing := lookup.inDocument_eq_nil name fields language passed
      simp [passed, walk, nothing, ih]

theorem walk_without_name (documents : List Document) :
    lookup.walk [] fields language documents = [] := by
  induction documents with
  | nil => rfl
  | cons document documents ih =>
    simp [walk, inDocument, Extraction.lookup_nil, ih]

theorem walk_without_fields (documents : List Document) :
    lookup.walk name [] language documents = [] := by
  induction documents with
  | nil => rfl
  | cons document documents ih => simp [walk, inDocument, ih]

variable {name fields} in
theorem walk_of_absent (absent : name = [] ∨ fields = []) (documents : List Document) :
    lookup.walk name fields language documents = [] := by
  rcases absent with rfl | rfl
  · exact lookup.walk_without_name fields language documents
  · exact lookup.walk_without_fields name language documents

end Lookup

namespace Engine

variable {engine : Engine} {session : Session Archive} {documents : List Document}
  (lookup : Lookup) (name : Text) (fields : List String)

/-- What the archive is asked for. -/
def queryFor (lookup : Lookup) (name : Text) (fields : List String) : Query :=
  ⟨fields, Grammar.standard.startTag name lookup.multi⟩

/-- A search fails as the archive does, and else finds what a walk over its documents finds. -/
theorem find_runFrom_eq (standard : engine.grammar = Grammar.standard) (language : String) :
    (engine.find lookup name fields language).runFrom session =
      (if session.store.refuses (queryFor lookup name fields) then .error (.storage .unavailable)
        else session.store.documents.map (lookup.walk name fields language),
      session.asked (queryFor lookup name fields)) := by
  have searched := Archive.search_runFrom session (queryFor lookup name fields) true
  rw [find, standard]
  by_cases refused : session.store.refuses (queryFor lookup name fields) = true
  · rw [if_pos refused] at searched ⊢
    exact ArchiveWork.runFrom_bind_error searched _
  · rw [if_neg refused, Archive.matching] at searched
    rw [if_neg refused]
    cases stored : session.store.documents with
    | error fault =>
      rw [stored] at searched
      exact ArchiveWork.runFrom_bind_error searched _
    | ok documents =>
      rw [stored] at searched
      apply (ArchiveWork.runFrom_bind searched _).trans
      simp only [Bool.true_or, Bool.true_and, ArchiveWork.runFrom_pure,
        Lookup.inDocuments_eq_walk, Except.map]
      rw [queryFor, Lookup.walk_filter]

theorem find_run (standard : engine.grammar = Grammar.standard)
    (holds : session.store.Holds documents) (language : String) :
    (engine.find lookup name fields language).runFrom session =
      (.ok (lookup.walk name fields language documents),
        session.asked (queryFor lookup name fields)) := by
  rw [engine.find_runFrom_eq lookup name fields standard, holds.answers,
    if_neg Bool.false_ne_true, holds.documents_eq]
  rfl

theorem findWithFallback_run (standard : engine.grammar = Grammar.standard)
    (holds : session.store.Holds documents) (language : Language) :
    (engine.findWithFallback lookup name fields language).runFrom session =
      if (lookup.walk name fields language.current documents).isEmpty && !language.isFallback then
        (.ok (lookup.walk name fields language.fallback documents),
          ((session.asked (queryFor lookup name fields)).noted
            ⟨.debug, resolutionSource, fallbackMessage name language⟩).asked
              (queryFor lookup name fields))
      else
        (.ok (lookup.walk name fields language.current documents),
          session.asked (queryFor lookup name fields)) := by
  rw [findWithFallback]
  rw [ArchiveWork.runFrom_bind (engine.find_run lookup name fields standard holds language.current)]
  split
  · have again : (((session.asked (queryFor lookup name fields)).noted
        ⟨.debug, resolutionSource, fallbackMessage name language⟩)).store.Holds documents :=
      holds.asked _
    rw [ArchiveWork.runFrom_bind (Session.note_run _ _ _ _)]
    exact engine.find_run lookup name fields standard again language.fallback
  · rfl

section Resolve

variable {format : Text → Act Archive Text} {code : Option String} {requested : Text}

theorem resolve_nothing
    (absent : sanitize requested = [] ∨ engine.scope lookup session.store = []) :
    (engine.resolve lookup code format requested).runFrom session =
      (.ok (lookup.shape []), session) := by
  rw [resolve]
  refine (ArchiveWork.runFrom_bind ArchiveWork.runFrom_get _).trans ?_
  rw [if_pos (by simpa using absent)]
  rfl

-- With a name and a field the search comes first.
theorem resolve_present
    (present : ¬ (sanitize requested = [] ∨ engine.scope lookup session.store = [])) :
    (engine.resolve lookup code format requested).runFrom session =
      (engine.findWithFallback lookup (sanitize requested) (engine.scope lookup session.store)
        (engine.language.withCurrent code) >>=
          engine.resolveFound lookup format (sanitize requested)).runFrom session := by
  rw [resolve]
  apply (ArchiveWork.runFrom_bind ArchiveWork.runFrom_get _).trans
  rw [if_neg (by simpa using present)]
  rfl

-- Without an override the content is what the search found.
theorem resolve_found (plain : engine.override = none) {found : List Text}
    {after : Session Archive} (fields : List String)
    (inScope : engine.scope lookup session.store = fields)
    (present : ¬ (sanitize requested = [] ∨ fields = []))
    (searched : (engine.findWithFallback lookup (sanitize requested) fields
      (engine.language.withCurrent code)).runFrom session = (.ok found, after)) :
    (engine.resolve lookup code format requested).runFrom session =
      (.ok (lookup.shape found), after) := by
  subst inScope
  rw [resolve_present lookup present, ArchiveWork.runFrom_bind searched, resolveFound]
  split
  · rfl
  · next joined =>
    obtain ⟨itemized, _⟩ : lookup.itemized = false ∧ found.isEmpty = false := by
      simpa using joined
    rw [applyOverride, plain, Lookup.shape, itemized]
    rfl

end Resolve

/-- What a search with a fallback language finds. -/
def hitsOf (hits : String → List Text) (language : Language) : List Text :=
  if hits language.current ≠ [] then hits language.current else hits language.fallback

theorem hitsOf_of_once {hits : String → List Text} {language : Language}
    (once : hits language.current ≠ [] ∨ language.current = language.fallback) :
    hitsOf hits language = hits language.current := by
  rcases once with found | same
  · exact if_pos found
  · rw [hitsOf, ← same, ite_self]

-- A search goes on where nothing was found and another language is left.
theorem searchesAgain_iff {found : List Text} {language : Language} :
    (found.isEmpty && !language.isFallback) = true ↔
      ¬ (found ≠ [] ∨ language.current = language.fallback) := by
  simp [Language.isFallback]

/-- The queries of a search with a fallback language. -/
def queriesOf (hits : String → List Text) (language : Language) (query : Query) : List Query :=
  if hits language.current ≠ [] ∨ language.current = language.fallback then [query]
  else [query, query]

theorem findWithFallback_finds (standard : engine.grammar = Grammar.standard)
    (holds : session.store.Holds documents) (language : Language) {hits : String → List Text}
    (walk : ∀ code, hits code = lookup.walk name fields code documents) :
    ∃ noted, (engine.findWithFallback lookup name fields language).runFrom session =
      (.ok (hitsOf hits language),
        { session with
          store := { session.store with
            queries := session.store.queries ++
              queriesOf hits language (queryFor lookup name fields) }
          records := session.records ++ noted }) := by
  rw [findWithFallback_run lookup name fields standard holds, ← walk, ← walk]
  by_cases once : hits language.current ≠ [] ∨ language.current = language.fallback
  -- one search is enough
  · have stays : ¬ ((hits language.current).isEmpty && !language.isFallback) = true :=
      fun again => searchesAgain_iff.mp again once
    refine ⟨[], ?_⟩
    rw [if_neg stays, hitsOf_of_once once, queriesOf, if_pos once, List.append_nil]
    rfl
  -- nothing was found and another language is left, so the same query is asked once more
  · have again := searchesAgain_iff.mpr once
    have missed : ¬ hits language.current ≠ [] := fun found => once (Or.inl found)
    refine ⟨[⟨.debug, resolutionSource, fallbackMessage name language⟩], ?_⟩
    rw [if_pos again, hitsOf, if_neg missed, queriesOf, if_neg once]
    simp [Session.asked, Session.noted]

-- Without an override, resolution gives what a walk finds, and the archive keeps its documents.
theorem resolve_finds (standard : engine.grammar = Grammar.standard) (plain : engine.override = none)
    (holds : session.store.Holds documents) (code : Option String)
    (format : Text → Act Archive Text) (requested : Text) :
    ∃ asked noted, (engine.resolve lookup code format requested).runFrom session =
      (.ok (lookup.shape (hitsOf (fun language => lookup.walk (sanitize requested)
          (engine.scope lookup session.store) language documents)
            (engine.language.withCurrent code))),
        { session with
          store := { session.store with queries := session.store.queries ++ asked }
          records := session.records ++ noted }) := by
  by_cases absent : sanitize requested = [] ∨ engine.scope lookup session.store = []
  · refine ⟨[], [], ?_⟩
    rw [resolve_nothing lookup absent, hitsOf, lookup.walk_of_absent _ absent,
      lookup.walk_of_absent _ absent, ite_self, List.append_nil, List.append_nil]
  · obtain ⟨noted, searched⟩ := findWithFallback_finds lookup (sanitize requested)
      (engine.scope lookup session.store) standard holds (engine.language.withCurrent code)
      fun _ => rfl
    exact ⟨_, noted, resolve_found lookup plain _ rfl absent searched⟩

end Engine

end Transclusion
