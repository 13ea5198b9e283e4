import Transclusion.Proofs.Recasing
import Transclusion.Proofs.ShownNames

/-!
Lookups without regard to case. A name is asked for by its fold, so names that are the same
in another case are resolved alike. A text with its show markers in another case is cut at the
same places, and each marker is given the same content.
-/

namespace Transclusion

section Lookups

variable {name other : Text} (same : Text.fold name = Text.fold other)

include same

theorem BlockMap.lookup_of_fold_eq (map : BlockMap) (multi : Bool) :
    map.lookup name multi = map.lookup other multi := by
  simp only [lookup, find?, Block.answers, same]

theorem Lookup.walk_of_fold_eq (lookup : Lookup) (fields : List String) (language : String)
    (documents : List Document) :
    lookup.walk name fields language documents = lookup.walk other fields language documents := by
  induction documents with
  | nil => rfl
  | cons document documents ih =>
    have here : lookup.inDocument Grammar.standard name fields language document =
        lookup.inDocument Grammar.standard other fields language document := by
      simp only [inDocument, BlockMap.lookup_of_fold_eq same]
    rw [walk, walk, here, ih]

end Lookups

namespace Marker

/-- The marker with its word and its name in another case. -/
structure Recased (marker other : Marker) : Prop where
  opening : marker.opening = other.opening
  word : Text.Recased marker.token.word other.token.word
  separator : marker.token.separator = other.token.separator
  name : Text.Recased marker.token.name other.token.name
  ending : marker.ending = other.ending

variable {marker other : Marker}

instance : Decidable (marker.Recased other) :=
  decidable_of_iff (marker.opening = other.opening ∧ Text.Recased marker.token.word other.token.word ∧
      marker.token.separator = other.token.separator ∧
      Text.Recased marker.token.name other.token.name ∧ marker.ending = other.ending)
    ⟨fun ⟨opening, word, separator, name, ending⟩ => ⟨opening, word, separator, name, ending⟩,
      fun same => ⟨same.opening, same.word, same.separator, same.name, same.ending⟩⟩

theorem Recased.written (same : marker.Recased other) : Text.Recased marker.written other.written := by
  rw [Marker.written, Marker.written, Token.written, Token.written, same.opening, same.separator,
    same.ending]
  exact ((Text.Recased.refl _).append ((same.word.append (.refl _)).append same.name)).append (.refl _)

/-- A marker in another case stands where the marker stands. -/
theorem At.recased {grammar : Grammar} {word : Text} {previous previous' : Option Char}
    {text rest rest' : Text} (here : At (Token.opener grammar word).At previous text marker rest)
    (side : opensWord previous = opensWord previous') (same : marker.Recased other)
    (after : Text.Recased rest rest') :
    At (Token.opener grammar word).At previous' (other.written ++ rest') other rest' := by
  obtain ⟨opening, token, ending⟩ := other
  cases here with
  | bare stands =>
    cases same.opening
    cases same.ending
    have stands' := Token.opener_recased side stands same.word (same.separator ▸ .refl _) same.name after
    simpa [Marker.written, Marker.bare] using At.bare stands'
  | wrapped opens apart stands closes =>
    cases same.opening
    cases same.ending
    have stands' := Token.opener_recased rfl stands same.word (same.separator ▸ .refl _) same.name
      ((Text.Recased.refl _).append after)
    simpa [Marker.written] using At.wrapped opens apart stands' closes

end Marker

namespace Cutting

/-- The same plain texts, and between them the markers in another case. -/
structure Recased (cutting other : Cutting Marker) : Prop where
  cuts : List.Forall₂ (fun cut cut' => cut.before = cut'.before ∧ cut.mark.Recased cut'.mark)
    cutting.cuts other.cuts
  tail : cutting.tail = other.tail

instance (cutting other : Cutting Marker) : Decidable (cutting.Recased other) :=
  decidable_of_iff (List.Forall₂ (fun cut cut' => cut.before = cut'.before ∧ cut.mark.Recased cut'.mark)
      cutting.cuts other.cuts ∧ cutting.tail = other.tail)
    ⟨fun ⟨cuts, tail⟩ => ⟨cuts, tail⟩, fun same => ⟨same.cuts, same.tail⟩⟩

namespace Recased

variable {cutting other : Cutting Marker} {c : Char} {mark : Marker}

theorem eq_empty (same : Recased {} other) : other = {} := by
  obtain ⟨cuts, tail⟩ := other
  obtain ⟨alike, rfl⟩ := same
  cases alike
  rfl

theorem exists_plain (same : (cutting.plain c).Recased other) :
    ∃ inner, other = inner.plain c ∧ cutting.Recased inner := by
  obtain ⟨cuts, tail⟩ := cutting
  obtain ⟨cuts', tail'⟩ := other
  obtain ⟨alike, ends⟩ := same
  cases cuts with
  | nil =>
    cases alike
    cases ends
    exact ⟨⟨[], tail⟩, rfl, .nil, rfl⟩
  | cons cut cuts =>
    cases alike with
    | @cons _ cut' _ cuts' first later =>
      obtain ⟨before, mark⟩ := cut'
      obtain ⟨rfl, marks⟩ := first
      cases ends
      exact ⟨⟨⟨cut.before, mark⟩ :: cuts', tail⟩, rfl, .cons ⟨rfl, marks⟩ later, rfl⟩

theorem exists_marked (same : (cutting.marked mark).Recased other) :
    ∃ mark' inner, other = inner.marked mark' ∧ mark.Recased mark' ∧ cutting.Recased inner := by
  obtain ⟨cuts, tail⟩ := cutting
  obtain ⟨cuts', tail'⟩ := other
  obtain ⟨alike, ends⟩ := same
  cases alike with
  | @cons _ cut' _ cuts' first later =>
    obtain ⟨before, mark'⟩ := cut'
    obtain ⟨rfl, marks⟩ := first
    cases ends
    exact ⟨mark', ⟨cuts', tail⟩, rfl, marks, later, rfl⟩

/-- Filled alike, as far as a key tells, where the markers are. -/
theorem map_fill {Key : Type} (key : Char → Key) {replacement : Marker → Text}
    (alike : ∀ marker marker', marker.Recased marker' →
      (replacement marker).map key = (replacement marker').map key) (same : cutting.Recased other) :
    (cutting.fill replacement).map key = (other.fill replacement).map key := by
  induction cutting using pieces generalizing other with
  | empty => rw [same.eq_empty]
  | plain c cutting ih =>
    obtain ⟨inner, rfl, later⟩ := same.exists_plain
    rw [fill_plain, fill_plain, List.map_cons, List.map_cons, ih later]
  | marked mark cutting ih =>
    obtain ⟨mark', inner, rfl, marks, later⟩ := same.exists_marked
    rw [fill_marked, fill_marked, List.map_append, List.map_append, alike mark mark' marks, ih later]

theorem fill_written (same : cutting.Recased other) :
    Text.Recased (cutting.fill Marker.written) (other.fill Marker.written) :=
  same.map_fill Char.toLower fun _ _ marks => marks.written

theorem fill_eq {replacement : Marker → Text} (same : cutting.Recased other)
    (alike : ∀ marker marker', marker.Recased marker' → replacement marker = replacement marker') :
    cutting.fill replacement = other.fill replacement := by
  simpa using same.map_fill id fun marker marker' marks => congrArg (List.map id) (alike _ _ marks)

end Recased

section Shows

open Substitution

variable {previous previous' : Option Char} {text : Text} {cutting other : Cutting Marker}

-- Where no show marker is read, none is read in another case.
theorem shows_recased_eq_nil {text' : Text} (side : opensWord previous = opensWord previous')
    (none : Marker.shows Grammar.standard previous text = []) (same : Text.Recased text text') :
    Marker.shows Grammar.standard previous' text' = [] := by
  apply List.eq_nil_iff_forall_not_mem.mpr
  rintro ⟨marker, rest⟩ member
  have here := (Marker.mem_recognise_iff_at shows_readBy).mp member
  obtain ⟨marker', rest', here'⟩ := Marker.exists_at_recased side.symm here same.symm
  have read := (Marker.mem_recognise_iff_at shows_readBy).mpr here'
  rw [← Marker.shows, none] at read
  cases read

-- By the pieces of the cutting: at each place the same is read in both cases.
theorem Reads.recased
    (reads : Reads Marker.written (Marker.shows Grammar.standard) previous text cutting)
    (side : opensWord previous = opensWord previous') (same : cutting.Recased other) :
    Reads Marker.written (Marker.shows Grammar.standard) previous' (other.fill Marker.written)
      other := by
  induction reads generalizing previous' other with
  | done none =>
    rw [same.eq_empty]
    exact .done (shows_faithful.nil previous')
  | @plain previous c rest cutting none further ih =>
    obtain ⟨inner, rfl, later⟩ := same.exists_plain
    have rests := later.fill_written
    rw [further.fill_written] at rests
    rw [fill_plain]
    exact .plain (shows_recased_eq_nil side none (Text.recased_cons_iff.mpr ⟨c, _, rfl, rfl, rests⟩))
      (ih rfl later)
  | @marked previous mark rest cutting preferred further ih =>
    obtain ⟨mark', inner, rfl, marks, later⟩ := same.exists_marked
    have rests := later.fill_written
    rw [further.fill_written] at rests
    have here := (Marker.mem_recognise_iff_at shows_readBy).mp (List.mem_of_mem_head? preferred)
    rw [fill_marked]
    exact .marked (shows_single.head? ((Marker.mem_recognise_iff_at shows_readBy).mpr
      (here.recased side marks rests))) (ih (marks.written.opensWord_lastOr side) later)

end Shows

end Cutting

namespace Substitution

/-- The texts differ in the case of the words and names of their show markers and in nothing
else. -/
def ShowsRecased (text other : Text) : Prop :=
  ∃ found, (cutting Grammar.standard text).Recased found ∧ found.fill Marker.written = other

variable {text other : Text}

/-- In another case a text is cut at the same places. -/
theorem showsRecased_iff :
    ShowsRecased text other ↔
      (cutting Grammar.standard text).Recased (cutting Grammar.standard other) := by
  constructor
  · rintro ⟨found, alike, rfl⟩
    have reads := (Cutting.reads_ofText shows_faithful none text).recased rfl alike
    rwa [cutting, cutting, ← reads.eq_ofText shows_faithful]
  · intro alike
    exact ⟨_, alike, (Cutting.reads_ofText shows_faithful none other).fill_written⟩

instance : Decidable (ShowsRecased text other) := decidable_of_iff' _ showsRecased_iff

theorem ShowsRecased.recased (same : ShowsRecased text other) : Text.Recased text other := by
  obtain ⟨found, alike, rfl⟩ := same
  have whole := (Cutting.reads_ofText shows_faithful none text).fill_written
  rw [← whole]
  exact alike.fill_written

end Substitution

theorem Text.Recased.mayDefine_eq {text other : Text} (same : Text.Recased text other)
    (grammar : Grammar) : grammar.mayDefine text = grammar.mayDefine other := by
  have empty : text.isEmpty = other.isEmpty := by
    cases text with
    | nil => rw [Text.eq_nil_of_recased same]
    | cons c text =>
      obtain ⟨d, others, rfl, _, _⟩ := Text.recased_cons_iff.mp same
      rfl
  rw [Grammar.mayDefine, Grammar.mayDefine, Text.foldOccursIn, Text.foldOccursIn, same.fold_eq, empty]

-- Without a start marker nothing is stripped.
theorem Extraction.strip_of_unopened {grammar : Grammar} {text : Text}
    (unopened : grammar.mayDefine text = false) : (strip grammar text).text = text := by
  have none : definitions grammar text = { tail := text } := by
    rw [definitions, unopened, if_neg Bool.false_ne_true]
  rw [strip, extract, none]
  rfl

namespace Engine

open Substitution

variable {engine : Engine} {documents : List Document} {fields : List String}
  {code : Option String} {session : Session Archive}

theorem contents_recased {first second : Text} (same : Text.Recased first second) (multi : Bool) :
    engine.contents documents fields code multi first =
      engine.contents documents fields code multi second := by
  simp only [contents, Lookup.walk_of_fold_eq same.sanitize.fold_eq]

/-- Lookups do not see the case of ASCII letters. Two requested names that are the same in another
case, but for the characters that are not allowed in a name, are resolved alike; and two texts
without a start marker that are the same but for the case of their show markers are rendered
alike. -/
theorem resolve_recased (language : Language) (capability offered : String)
    (documents : List Document) (enabledFields : List String) (files : FileTree)
    (queries : List Query) (records : List Record) (code : Option String) :
    let engine : Engine := { language, capability }
    let session (busy : Bool) : Session Archive :=
      ⟨{ shelf := .memory documents, enabledFields, capability := offered, files, queries },
        busy, records⟩
    (∀ (busy : Bool) (lookup : Lookup) (format : Text → Act Archive Text) (first second : Text),
      Text.Recased (sanitize first) (sanitize second) →
      ((engine.resolve lookup code format first).runFrom (session busy)).1 =
        ((engine.resolve lookup code format second).runFrom (session busy)).1) ∧
    (∀ text other : Text, Grammar.standard.mayDefine text = false → ShowsRecased text other →
      ((engine.render code text).run (session false)).1.1 =
        ((engine.render code other).run (session false)).1.1) := by
  intro engine session
  have holds : ∀ busy, (session busy).store.Holds documents := fun busy => ⟨rfl, fun _ => rfl⟩
  have standard : engine.grammar = Grammar.standard := rfl
  constructor
  · intro busy lookup format first second same
    obtain ⟨_, _, here⟩ := resolve_finds lookup standard rfl (holds busy) code format first
    obtain ⟨_, _, there⟩ := resolve_finds lookup standard rfl (holds busy) code format second
    rw [here, there]
    simp only [Lookup.walk_of_fold_eq same.fold_eq]
  · intro text other unopened same
    have serves : engine.Serves documents (engine.enabledFields (session false).store) (session false) :=
      ⟨holds false, rfl⟩
    have unopened' := same.recased.mayDefine_eq Grammar.standard
    rw [unopened] at unopened'
    rw [render_run code standard rfl serves rfl text, render_run code standard rfl serves rfl other,
      Extraction.strip_of_unopened unopened, Extraction.strip_of_unopened unopened'.symm]
    refine congrArg Comment.strip ((showsRecased_iff.mp same).fill_eq fun marker marker' marks => ?_)
    rw [marks.separator, contents_recased marks.name]

theorem resolve_recased_sample :
    let document : Document := { id := "A", fields := [("body", .plain "start_ab x stop_ab".toList)] }
    let session : Session Archive := { store := { shelf := .memory [document] } }
    let text := "<p>show_ab</p> show_q".toList
    let other := "<p>SHOW_aB</p> show_q".toList
    (Text.Recased (sanitize "a-B".toList) (sanitize "A b".toList) ∧
      Grammar.standard.mayDefine text = false ∧ ShowsRecased text other) ∧
    ((Engine.resolve {} {} none pure "a-B".toList).runFrom session).1 =
      ((Engine.resolve {} {} none pure "A b".toList).runFrom session).1 ∧
    ((Engine.render {} none text).run session).1.1 =
      ((Engine.render {} none other).run session).1.1 := by
  intro document session text other
  have names : Text.Recased (sanitize "a-B".toList) (sanitize "A b".toList) := by decide +kernel
  have unopened : Grammar.standard.mayDefine text = false := by decide +kernel
  have shows : ShowsRecased text other := by decide +kernel
  obtain ⟨resolves, renders⟩ := resolve_recased {} standardCapability standardCapability [document]
    ["body"] {} [] [] none
  exact ⟨⟨names, unopened, shows⟩, resolves false {} pure _ _ names, renders text other unopened shows⟩

end Engine

end Transclusion
