import Mathlib.Data.List.Perm.Basic
import Transclusion.Proofs.HiddenDocuments
import Transclusion.Proofs.Resolution
import Transclusion.Uniqueness

/-!
The order of documents. A walk through documents of which one at most has something to give
comes to the same in any order, and a walk that collects from all of them collects the same
contents. So a single-value block that is unique across the languages is found alike in every
order of the archive, in the reader's language or in the fallback language.
-/

namespace Transclusion

open Act

namespace Lookup

section Walks

variable (lookup : Lookup) (name : Text) (fields : List String) (language : String)
  {documents others : List Document}

/-- What a walk takes from one document. -/
def given (document : Document) : List Text :=
  if document.viewable then lookup.inDocument Grammar.standard name fields language document
  else []

variable {lookup name fields language}

theorem walk_cons (document : Document) :
    lookup.walk name fields language (document :: documents) =
      if lookup.multi || (lookup.given name fields language document).isEmpty then
        lookup.given name fields language document ++ lookup.walk name fields language documents
      else lookup.given name fields language document := rfl

theorem walk_eq_flatMap (multi : lookup.multi = true) :
    lookup.walk name fields language documents =
      documents.flatMap (lookup.given name fields language) := by
  induction documents with
  | nil => rfl
  | cons document documents ih =>
    rw [walk_cons, multi, Bool.true_or, if_pos rfl, ih, List.flatMap_cons]

theorem walk_eq_nil (none : ∀ document ∈ documents, lookup.given name fields language document = []) :
    lookup.walk name fields language documents = [] := by
  induction documents with
  | nil => rfl
  | cons document documents ih =>
    have first := none document List.mem_cons_self
    have later := ih fun other member => none other (List.mem_cons_of_mem document member)
    rw [walk_cons, first, later]
    simp

-- The first document with something to give settles the walk, and all that have something
-- to give would settle it alike.
theorem walk_eq_given (single : lookup.multi = false) {document : Document}
    (stored : document ∈ documents) (gives : lookup.given name fields language document ≠ [])
    (alone : ∀ other ∈ documents, lookup.given name fields language other ≠ [] →
      lookup.given name fields language other = lookup.given name fields language document) :
    lookup.walk name fields language documents = lookup.given name fields language document := by
  induction documents with
  | nil => cases stored
  | cons first documents ih =>
    rw [walk_cons, single, Bool.false_or]
    by_cases nothing : lookup.given name fields language first = []
    · have later : document ∈ documents := by
        rcases List.mem_cons.mp stored with rfl | later
        · exact absurd nothing gives
        · exact later
      rw [nothing, List.isEmpty_nil, if_pos rfl, List.nil_append]
      exact ih later fun other member => alone other (List.mem_cons_of_mem first member)
    · rw [if_neg (by simpa using nothing)]
      exact alone first List.mem_cons_self nothing

/-- Where all documents with something to give give the same, their order does not matter. -/
theorem walk_eq_of_perm (single : lookup.multi = false) (permuted : documents.Perm others)
    (alone : ∀ first ∈ documents, ∀ second ∈ documents,
      lookup.given name fields language first ≠ [] → lookup.given name fields language second ≠ [] →
      lookup.given name fields language first = lookup.given name fields language second) :
    lookup.walk name fields language documents = lookup.walk name fields language others := by
  by_cases gives : ∃ document ∈ documents, lookup.given name fields language document ≠ []
  · obtain ⟨document, stored, present⟩ := gives
    have settled : ∀ other ∈ documents, lookup.given name fields language other ≠ [] →
        lookup.given name fields language other = lookup.given name fields language document :=
      fun other member found => alone other member document stored found present
    rw [walk_eq_given single stored present settled, walk_eq_given single
      (permuted.mem_iff.mp stored) present fun other member =>
        settled other (permuted.mem_iff.mpr member)]
  · have none : ∀ document ∈ documents, lookup.given name fields language document = [] := by
      intro document stored
      by_contra present
      exact gives ⟨document, stored, present⟩
    rw [walk_eq_nil none, walk_eq_nil fun document stored =>
      none document (permuted.mem_iff.mpr stored)]

theorem perm_walk (multi : lookup.multi = true) (permuted : documents.Perm others) :
    (lookup.walk name fields language documents).Perm
      (lookup.walk name fields language others) := by
  rw [walk_eq_flatMap multi, walk_eq_flatMap multi]
  exact permuted.flatMap_right _

-- What a document gives for a single-value block it defines in one of its texts.
theorem defines_of_given {engine : Engine} (standard : engine.grammar = Grammar.standard)
    (single : lookup.multi = false) {document : Document}
    (gives : lookup.given name fields language document ≠ []) :
    document.viewable = true ∧ engine.defines fields name document = true := by
  rw [given] at gives
  split at gives
  · next viewable =>
    obtain ⟨content, member⟩ := List.exists_mem_of_ne_nil _ gives
    obtain ⟨field, inScope, found⟩ := List.mem_filterMap.mp member
    rw [single] at found
    have isSome := Option.isSome_iff_exists.mpr ⟨content, found⟩
    have text := Document.mem_textsOf_of_ne_nil (Extraction.ne_nil_of_lookup isSome)
    refine ⟨viewable, List.any_eq_true.mpr ⟨field, inScope, List.any_eq_true.mpr ⟨_, text, ?_⟩⟩⟩
    rw [standard]
    exact isSome
  · exact absurd rfl gives

end Walks

end Lookup

namespace Engine

variable {engine : Engine} {documents others : List Document} (lookup : Lookup) {name : Text}
  {fields : List String} (standard : engine.grammar = Grammar.standard)

section Alike

include standard

variable (alike : ∀ code, lookup.walk name fields code documents = lookup.walk name fields code others)

include alike

theorem agree_findWithFallback_of_walk (language : Language) :
    Agree (Session.Twins documents others)
      (engine.findWithFallback lookup name fields language).run
      (engine.findWithFallback lookup name fields language).run := by
  rintro session _ ⟨holds, rfl⟩
  have here := engine.findWithFallback_run lookup name fields standard holds language
  have there := engine.findWithFallback_run lookup name fields standard (holds.kept others) language
  rw [← alike, ← alike] at there
  simp only [ArchiveWork.runFrom] at here there
  rw [here, there]
  split
  · exact ⟨rfl, ⟨holds.shelf, holds.answers⟩, rfl⟩
  · exact ⟨rfl, holds.asked _, rfl⟩

end Alike

section Resolve

variable {session : Session Archive} (holds : session.store.Holds documents) {requested : Text}
  {format : Text → Act Archive Text} (code : Option String)

include standard holds

theorem resolve_kept (formats : ∀ text, Agree (Session.Twins documents others) (format text) (format text))
    (alike : ∀ code,
      lookup.walk (sanitize requested) (engine.scope lookup session.store) code documents =
        lookup.walk (sanitize requested) (engine.scope lookup session.store) code others) :
    let seen := (engine.resolve lookup code format requested).runFrom session
    (engine.resolve lookup code format requested).runFrom (session.kept others) =
      (seen.1, seen.2.kept others) := by
  intro seen
  by_cases absent : sanitize requested = [] ∨ engine.scope lookup session.store = []
  · have there : sanitize requested = [] ∨ engine.scope lookup (session.kept others).store = [] :=
      absent
    simp only [seen, resolve_nothing lookup absent, resolve_nothing lookup there]
  · have there : ¬ (sanitize requested = [] ∨ engine.scope lookup (session.kept others).store = []) :=
      absent
    -- the two runs search alike, and go on alike from what is found
    let work : ArchiveWork Resolved := engine.findWithFallback lookup (sanitize requested)
      (engine.scope lookup session.store) (engine.language.withCurrent code) >>=
        engine.resolveFound lookup format (sanitize requested)
    have agree : Agree (Session.Twins documents others) work.run work.run :=
      ArchiveWork.agree_bind (agree_findWithFallback_of_walk lookup standard alike _)
        (agree_resolveFound Session.twins_steady formats lookup _)
    obtain ⟨same, _, after⟩ := agree session (session.kept others) ⟨holds, rfl⟩
    simp only [seen, resolve_present lookup absent, resolve_present lookup there]
    exact Prod.ext same.symm after

-- A list of contents is what the search found, whatever templates there are.
theorem resolve_items (itemized : lookup.itemized = true) :
    ((engine.resolve lookup code format requested).runFrom session).1 =
      .ok (.items (hitsOf (fun language => lookup.walk (sanitize requested)
        (engine.scope lookup session.store) language documents)
          (engine.language.withCurrent code))) := by
  by_cases absent : sanitize requested = [] ∨ engine.scope lookup session.store = []
  · rw [resolve_nothing lookup absent, hitsOf, lookup.walk_of_absent _ absent,
      lookup.walk_of_absent _ absent, ite_self, Lookup.shape, itemized]
    rfl
  · obtain ⟨noted, searched⟩ := findWithFallback_finds lookup (sanitize requested)
      (engine.scope lookup session.store) standard holds (engine.language.withCurrent code)
      fun _ => rfl
    rw [resolve_present lookup absent, ArchiveWork.runFrom_bind searched, resolveFound, itemized,
      Bool.true_or, if_pos rfl, Lookup.shape, itemized]
    rfl

end Resolve

theorem perm_hitsOf {hits hits' : String → List Text} (permuted : ∀ code, (hits code).Perm (hits' code))
    (language : Language) : (hitsOf hits language).Perm (hitsOf hits' language) := by
  rw [hitsOf, hitsOf]
  by_cases found : hits language.current = []
  · have missed : hits' language.current = [] := by
      have empty := permuted language.current
      rwa [found, List.nil_perm] at empty
    rw [if_neg (not_not.mpr found), if_neg (not_not.mpr missed)]
    exact permuted _
  · have present : hits' language.current ≠ [] := by
      intro missed
      have empty := permuted language.current
      rw [missed, List.perm_nil] at empty
      exact found empty
    rw [if_pos found, if_pos present]
    exact permuted _

/-- A single-value block that one viewable document at most defines, in whatever language, is
resolved alike in every order of the documents, outside of a render and wherever formatting
does not depend on the order; and a list of multi-value contents is put in another order at
most. -/
theorem resolve_reordered (language : Language) (override : Option Override)
    (capability offered : String) (documents others : List Document)
    (permuted : documents.Perm others) (enabledFields : List String) (files : FileTree)
    (queries : List Query) (busy : Bool) (records : List Record) (lookup : Lookup)
    (code : Option String) (requested : Text) :
    let engine : Engine := { language, override, capability }
    let session (documents : List Document) : Session Archive :=
      ⟨{ shelf := .memory documents, enabledFields, capability := offered, files, queries },
        busy, records⟩
    let fields := engine.scope lookup (session documents).store
    let Defines (document : Document) : Prop :=
      document.viewable = true ∧ engine.defines fields (sanitize requested) document = true
    let Alike (work : ArchiveWork Resolved) : Prop :=
      let seen := work.runFrom (session documents)
      work.runFrom (session others) = (seen.1, seen.2.kept others)
    (lookup.multi = false →
      (∀ first ∈ documents, ∀ second ∈ documents, Defines first → Defines second →
        first = second) →
      Alike (engine.block lookup code requested) ∧
      ∀ format : Text → Act Archive Text,
        (∀ text, Agree (Session.Twins documents others) (format text) (format text)) →
        Alike (engine.resolve lookup code format requested)) ∧
    (lookup.multi = true → lookup.itemized = true → ∀ format : Text → Act Archive Text,
      ∃ found found' : List Text, found.Perm found' ∧
        ((engine.resolve lookup code format requested).runFrom (session documents)).1 =
          .ok (.items found) ∧
        ((engine.resolve lookup code format requested).runFrom (session others)).1 =
          .ok (.items found')) := by
  intro engine session fields Defines Alike
  have holds : ∀ documents, (session documents).store.Holds documents :=
    fun documents => ⟨rfl, fun _ => rfl⟩
  have standard : engine.grammar = Grammar.standard := rfl
  constructor
  · intro single unique
    have alike : ∀ code, lookup.walk (sanitize requested) fields code documents =
        lookup.walk (sanitize requested) fields code others := by
      intro code
      refine Lookup.walk_eq_of_perm single permuted fun first here second there gives gives' => ?_
      rw [unique first here second there
        (Lookup.defines_of_given standard single gives)
        (Lookup.defines_of_given standard single gives')]
    have resolves : ∀ format : Text → Act Archive Text,
        (∀ text, Agree (Session.Twins documents others) (format text) (format text)) →
        Alike (engine.resolve lookup code format requested) :=
      fun format formats => resolve_kept lookup rfl (holds documents) code formats alike
    exact ⟨resolves pure fun text => Agree.pure text, resolves⟩
  · intro multi itemized format
    exact ⟨_, _, perm_hitsOf (fun code => Lookup.perm_walk multi permuted) _,
      resolve_items lookup rfl (holds documents) code itemized,
      resolve_items lookup rfl (holds others) code itemized⟩

/-- The one viewable definition is in the fallback language only, and a hidden document
defines the block too, before it or behind it. -/
theorem resolve_reordered_sample :
    let hidden : Document :=
      { id := "A", fields := [("body", .plain "start_a hidden stop_a".toList)], viewable := false }
    let shown : Document :=
      { id := "B", fields := [("body", .perLanguage [("en", "start_a x stop_a".toList)])] }
    let session (documents : List Document) : Session Archive :=
      ⟨{ shelf := .memory documents }, false, []⟩
    let engine : Engine := { language := ⟨"de", "en"⟩ }
    let Defines (document : Document) : Prop :=
      document.viewable = true ∧ engine.defines
        (engine.scope {} (session [hidden, shown]).store) (sanitize ['a']) document = true
    ([hidden, shown].Perm [shown, hidden] ∧
      ∀ first ∈ [hidden, shown], ∀ second ∈ [hidden, shown],
        Defines first → Defines second → first = second) ∧
    ((engine.block {} none ['a']).runFrom (session [shown, hidden])).1 =
      ((engine.block {} none ['a']).runFrom (session [hidden, shown])).1 := by
  intro hidden shown session engine Defines
  have permuted : [hidden, shown].Perm [shown, hidden] := List.Perm.swap shown hidden []
  have unique : ∀ first ∈ [hidden, shown], ∀ second ∈ [hidden, shown],
      Defines first → Defines second → first = second := by
    decide +kernel
  obtain ⟨single, _⟩ := resolve_reordered ⟨"de", "en"⟩ none standardCapability standardCapability
    [hidden, shown] [shown, hidden] permuted ["body"] {} [] false [] {} none ['a']
  have seen := (single rfl unique).1
  exact ⟨⟨permuted, unique⟩, by rw [seen]⟩

end Engine

end Transclusion
