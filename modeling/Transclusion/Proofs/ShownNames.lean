import Transclusion.Proofs.RenderGuard
import Transclusion.Proofs.Resolution

/-!
Showing the blocks that extraction reports. A name is asked for without the characters that
are not allowed in it, while markers are read in more case forms than are allowed. So a
reported block answers to its own name when all of the name is allowed, and otherwise what
is shown are blocks of another name.
-/

namespace Transclusion

namespace Text

-- A character that is left out of a name is missing from its fold.
theorem fold_sanitize {name : Text} (tail : ∀ c ∈ name, isNameTail c = true) :
    (fold (sanitize name)).length ≤ (fold name).length ∧
      ((fold (sanitize name)).length = (fold name).length →
        ∀ c ∈ name, isPlainNameChar c = true) := by
  induction name with
  | nil => simp [sanitize]
  | cons c name ih =>
    obtain ⟨shorter, equal⟩ := ih fun d member => tail d (by simp [member])
    have whole : (fold (c :: name)).length = (folded c).length + (fold name).length := by
      simp [fold]
    cases allowed : isPlainNameChar c with
    | true =>
      have kept : (fold (sanitize (c :: name))).length =
          (folded c).length + (fold (sanitize name)).length := by
        simp [fold, sanitize, allowed]
      rw [whole, kept]
      refine ⟨by omega, fun same d member => ?_⟩
      rcases List.mem_cons.mp member with rfl | later
      · exact allowed
      · exact equal (by omega) d later
    | false =>
      have dropped : sanitize (c :: name) = sanitize name := by simp [sanitize, allowed]
      have present := (nameForm (tail c (by simp))).folded_ne_nil
      have := List.length_pos_iff.mpr present
      rw [whole, dropped]
      exact ⟨by omega, fun same => by omega⟩

theorem fold_sanitize_eq_iff {name : Text} (tail : ∀ c ∈ name, isNameTail c = true) :
    fold (sanitize name) = fold name ↔ ∀ c ∈ name, isPlainNameChar c = true := by
  constructor
  · exact fun same => (fold_sanitize tail).2 (congrArg List.length same)
  · intro allowed
    rw [sanitize, List.filter_eq_self.mpr allowed]

end Text

namespace BlockMap

theorem exists_block_of_lookup {map : BlockMap} {name content : Text} {multi : Bool}
    (found : map.lookup name multi = some content) :
    ∃ block ∈ map.blocks, block.answers name multi = true ∧ block.content = content := by
  obtain ⟨block, here, rfl⟩ := Option.map_eq_some_iff.mp found
  rw [find?] at here
  exact ⟨block, List.mem_of_find?_eq_some here, by simpa using List.find?_some here, rfl⟩

theorem lookup_of_mem {map : BlockMap} {block : Block} (member : block ∈ map.blocks) :
    (map.lookup block.name block.multi).isSome = true :=
  isSome_lookup_iff.mpr ⟨block, member, by simp [Block.answers]⟩

end BlockMap

namespace Lookup

variable {lookup : Lookup} {name : Text} {fields : List String} {language : String}
  {documents : List Document}

/-- The document shows the content to readers, as that of a block that answers to the name. -/
def Offers (lookup : Lookup) (name : Text) (fields : List String) (language : String)
    (document : Document) (content : Text) : Prop :=
  document.viewable = true ∧ ∃ field ∈ fields, ∃ block ∈
    (Extraction.blockMap Grammar.standard (document.textOf field (some language))).blocks,
    block.answers name lookup.multi = true ∧ block.content = content

theorem offers_of_mem_inDocument {document : Document} {content : Text}
    (viewable : document.viewable = true)
    (member : content ∈ lookup.inDocument Grammar.standard name fields language document) :
    lookup.Offers name fields language document content := by
  obtain ⟨field, enabled, found⟩ := List.mem_filterMap.mp member
  exact ⟨viewable, field, enabled, BlockMap.exists_block_of_lookup found⟩

-- A walk collects what the documents offer.
theorem offers_of_mem_walk {content : Text}
    (member : content ∈ lookup.walk name fields language documents) :
    ∃ document ∈ documents, lookup.Offers name fields language document content := by
  induction documents with
  | nil => cases member
  | cons document documents ih =>
    have split : (document.viewable = true ∧
        content ∈ lookup.inDocument Grammar.standard name fields language document) ∨
          content ∈ lookup.walk name fields language documents := by
      rw [walk] at member
      cases viewable : document.viewable with
      | false => simpa [viewable] using member
      | true =>
        simp only [viewable, if_true] at member
        split at member
        · rcases List.mem_append.mp member with here | later
          · exact Or.inl ⟨rfl, here⟩
          · exact Or.inr later
        · exact Or.inl ⟨rfl, member⟩
    rcases split with ⟨viewable, here⟩ | later
    · exact ⟨document, List.mem_cons_self, offers_of_mem_inDocument viewable here⟩
    · obtain ⟨other, stored, offers⟩ := ih later
      exact ⟨other, List.mem_cons_of_mem _ stored, offers⟩

-- A walk past a viewable document that defines the block finds something.
theorem walk_ne_nil {document : Document} (stored : document ∈ documents)
    (viewable : document.viewable = true) {field : String} (enabled : field ∈ fields)
    (defined : ((Extraction.blockMap Grammar.standard
      (document.textOf field (some language))).lookup name lookup.multi).isSome = true) :
    lookup.walk name fields language documents ≠ [] := by
  induction documents with
  | nil => cases stored
  | cons other documents ih =>
    intro none
    rw [walk] at none
    rcases List.mem_cons.mp stored with rfl | later
    · obtain ⟨content, found⟩ := Option.isSome_iff_exists.mp defined
      have here : lookup.inDocument Grammar.standard name fields language document ≠ [] :=
        List.ne_nil_of_mem (List.mem_filterMap.mpr ⟨field, enabled, found⟩)
      simp only [viewable, if_true] at none
      split at none
      · exact here (List.append_eq_nil_iff.mp none).1
      · exact here none
    · generalize (if other.viewable = true then
        lookup.inDocument Grammar.standard name fields language other else []) = here at none
      split at none
      · exact ih later (List.append_eq_nil_iff.mp none).2
      · next stops => exact stops (by simp [none])

variable (lookup name fields language documents)

-- The shape of the result has no part in the walk.
theorem walk_multi :
    lookup.walk name fields language documents =
      Lookup.walk { multi := lookup.multi } name fields language documents := by
  induction documents with
  | nil => rfl
  | cons document documents ih =>
    rw [walk, walk, ih]
    rfl

end Lookup

namespace Engine

open Substitution

variable (engine : Engine) (documents : List Document) (fields : List String)
  (code : Option String)

/-- The contents found for a name: those in the reader's language, or else those in the
fallback language. -/
def contents (multi : Bool) (requested : Text) : List Text :=
  hitsOf (fun language => Lookup.walk { multi } (sanitize requested) fields language documents)
    (engine.language.withCurrent code)

/-- The session keeps the documents in memory, and blocks are defined in the fields. -/
structure Serves (session : Session Archive) : Prop where
  holds : session.store.Holds documents
  fields : engine.enabledFields session.store = fields

section Runs

variable {engine documents fields} (standard : engine.grammar = Grammar.standard)
  (plain : engine.override = none) {session : Session Archive}
  (serves : engine.Serves documents fields session) (format : Text → Act Archive Text)

include standard plain serves

theorem resolve_contents (multi itemized : Bool) (requested : Text) :
    ∃ after, (engine.resolve { multi, itemized } code format requested).runFrom session =
        (.ok (Lookup.shape { multi, itemized }
          (engine.contents documents fields code multi requested)), after) ∧
      engine.Serves documents fields after := by
  obtain ⟨asked, noted, resolved⟩ :=
    resolve_finds { multi, itemized } standard plain serves.holds code format requested
  have walks : (fun language => Lookup.walk { multi, itemized } (sanitize requested)
      (engine.scope { multi, itemized } session.store) language documents) =
      fun language => Lookup.walk { multi } (sanitize requested) fields language documents := by
    funext language
    rw [Lookup.walk_multi, ← serves.fields]
    rfl
  rw [walks] at resolved
  exact ⟨_, resolved, ⟨serves.holds.shelf, serves.holds.answers⟩, serves.fields⟩

theorem references_run (name : Text) (multi : Bool) :
    ∃ after, (resolveOne (engine.references code format) name multi).run session =
        (.content (joinLines (engine.contents documents fields code multi name)), after) ∧
      engine.Serves documents fields after := by
  obtain ⟨after, resolved, still⟩ :=
    resolve_contents code standard plain serves format multi false name
  refine ⟨after, ?_, still⟩
  rw [ArchiveWork.runFrom] at resolved
  simp only [resolveOne, references, bind_assoc, StateT.run_bind, resolved]
  rfl

/-- Each marker of a text is replaced by the contents found for its name, on lines of their
own. -/
theorem substitute_run (text : Text) :
    let found := cutting Grammar.standard text
    ∃ answers after,
      (substitute Grammar.standard (engine.references code format) text).run session =
        ((found.fill fun marker => joinLines (engine.contents documents fields code
          (Grammar.standard.isMulti marker.token.separator) marker.token.name), answers),
          after) := by
  intro found
  let reply (name : Text) (multi : Bool) : Reply :=
    .content (joinLines (engine.contents documents fields code multi name))
  obtain ⟨after, asked, _⟩ := mapM_ask_run (fun name multi session serves =>
    references_run code standard plain serves format name multi) (firsts [] found.marks) serves
  have replaced : ∀ marker ∈ found.marks,
      replacement ((firsts [] found.marks).map (answerBy Grammar.standard reply)) marker =
        (answerBy Grammar.standard reply marker).reply.text :=
    fun marker member => replacement_of_mem
      (fun first here second there => eq_of_written_eq text here there) member
  refine ⟨(firsts [] found.marks).map (answerBy Grammar.standard reply), after, ?_⟩
  rw [substitute_eq_mapM]
  show (((firsts [] found.marks).mapM _ >>= fun answers => pure
    (found.fill (replacement answers), answers) : Act Archive (Text × List Answer)).run session) = _
  rw [StateT.run_bind, asked]
  exact congrArg (fun filled => ((filled, _), after)) (Cutting.fill_congr replaced)

theorem render_run (idle : session.busy = false) (text : Text) :
    ((engine.render code text).run session).1.1 =
      Comment.strip ((cutting Grammar.standard (Extraction.strip Grammar.standard text).text).fill
        fun marker => joinLines (engine.contents documents fields code
          (Grammar.standard.isMulti marker.token.separator) marker.token.name)) := by
  have busied : engine.Serves documents fields { session with busy := true } :=
    ⟨serves.holds, serves.fields⟩
  obtain ⟨answers, after, filled⟩ := substitute_run code standard plain busied
    Formatting.skipped (Extraction.strip Grammar.standard text).text
  rw [render_eq_renderWith_skipped, renderWith_run_of_idle engine code idle,
    passWith_eq_substitute engine code standard]
  show Comment.strip ((substitute Grammar.standard (engine.references code Formatting.skipped)
    (Extraction.strip Grammar.standard text).text).run { session with busy := true }).1.1 = _
  rw [filled]

end Runs

/-- What is shown for a block that extraction reports: the lookup of its name and the show
marker with its name give the same contents, all of them contents of blocks named as the
reported name without the characters that are not allowed. That is the reported name itself,
as names are compared, exactly when all its characters are allowed, and then something is
found. -/
theorem shown_block (language : Language) (capability offered : String)
    (documents : List Document) (enabledFields : List String) (files : FileTree)
    (queries : List Query) (records : List Record) (code : Option String)
    (document : Document) (field : String) (block : Block) :
    let engine : Engine := { language, capability }
    let archive : Archive :=
      { shelf := .memory documents, enabledFields, capability := offered, files, queries }
    let fields := engine.enabledFields archive
    let session : Session Archive := ⟨archive, false, records⟩
    let reader := language.withCurrent code
    let found := engine.contents documents fields code block.multi block.name
    document ∈ documents → document.viewable = true → field ∈ fields →
    block ∈ (Extraction.blockMap Grammar.standard
      (document.textOf field (some reader.current))).blocks →
    ((engine.block { multi := block.multi, itemized := true } code block.name).runFrom session).1 =
      .ok (.items found) ∧
    ((substitute Grammar.standard (engine.references code pure)
      (Grammar.standard.showTag block.name block.multi)).run session).1.1 = joinLines found ∧
    (∀ text, ((engine.render code text).run session).1.1 =
      Comment.strip ((cutting Grammar.standard (Extraction.strip Grammar.standard text).text).fill
        fun marker => joinLines (engine.contents documents fields code
          (Grammar.standard.isMulti marker.token.separator) marker.token.name))) ∧
    (∀ content ∈ found, ∃ other ∈ documents, ∃ spoken,
      Lookup.Offers { multi := block.multi } (sanitize block.name) fields spoken other content) ∧
    (Text.fold (sanitize block.name) = Text.fold block.name ↔
      ∀ c ∈ block.name, isPlainNameChar c = true) ∧
    ((∀ c ∈ block.name, isPlainNameChar c = true) → found ≠ [] ∧
      found = Lookup.walk { multi := block.multi } block.name fields reader.current documents) := by
  intro engine archive fields session reader found stored viewable enabled defined
  have serves : engine.Serves documents fields session := ⟨⟨rfl, fun _ => rfl⟩, rfl⟩
  have named : IsName block.name := Extraction.isName_of_mem_blocks defined
  refine ⟨?_, ?_, fun text => render_run code rfl rfl serves rfl text, ?_,
    Text.fold_sanitize_eq_iff named.tail, ?_⟩
  · obtain ⟨after, resolved, _⟩ :=
      resolve_contents code rfl rfl serves pure block.multi true block.name
    rw [Engine.block, resolved]
    rfl
  · obtain ⟨answers, after, filled⟩ := substitute_run code rfl rfl serves pure
      (Grammar.standard.showTag block.name block.multi)
    rw [filled, cutting_showTag named, Cutting.fill_marked, Cutting.fill_empty, List.append_nil]
    have doubled : Grammar.standard.isMulti (Grammar.standard.separator block.multi) = block.multi :=
      by cases block.multi <;> decide
    show joinLines (engine.contents documents fields code
      (Grammar.standard.isMulti (Grammar.standard.separator block.multi)) block.name) = _
    rw [doubled]
  · intro content member
    -- the contents come from one of the two languages that were searched
    have searched : ∃ spoken, content ∈
        Lookup.walk { multi := block.multi } (sanitize block.name) fields spoken documents := by
      simp only [found, contents, hitsOf] at member
      split at member
      · exact ⟨_, member⟩
      · exact ⟨_, member⟩
    obtain ⟨spoken, inside⟩ := searched
    obtain ⟨other, kept, offers⟩ := Lookup.offers_of_mem_walk inside
    exact ⟨other, kept, spoken, offers⟩
  · intro allowed
    have itself : sanitize block.name = block.name := List.filter_eq_self.mpr allowed
    have present : Lookup.walk { multi := block.multi } block.name fields reader.current documents ≠
        [] := Lookup.walk_ne_nil stored viewable enabled (BlockMap.lookup_of_mem defined)
    have spoken : found =
        Lookup.walk { multi := block.multi } block.name fields reader.current documents := by
      simp only [found, contents, hitsOf, itself]
      exact if_pos present
    exact ⟨by rwa [spoken], spoken⟩

theorem shown_block_sample :
    let document : Document := { id := "A", fields := [("body", .plain "start_a x stop_a".toList)] }
    let block : Block := ⟨['a'], false, ['x']⟩
    let session : Session Archive := { store := { shelf := .memory [document] } }
    (document ∈ [document] ∧ document.viewable = true ∧
      "body" ∈ Engine.enabledFields {} session.store ∧
      block ∈ (Extraction.blockMap Grammar.standard (document.textOf "body" (some "en"))).blocks) ∧
    ((Engine.block {} { itemized := true } none ['a']).runFrom session).1 = .ok (.items [['x']]) := by
  intro document block session
  have stored : document ∈ [document] := List.mem_singleton_self document
  have enabled : "body" ∈ Engine.enabledFields {} session.store := by decide
  have defined : block ∈
      (Extraction.blockMap Grammar.standard (document.textOf "body" (some "en"))).blocks := by
    decide +kernel
  have contents : Engine.contents {} [document] ["body"] none false ['a'] = [['x']] := by
    decide +kernel
  obtain ⟨resolved, _⟩ := shown_block {} standardCapability standardCapability [document] ["body"]
    {} [] [] none document "body" block stored rfl enabled defined
  exact ⟨⟨stored, rfl, enabled, defined⟩, resolved.trans (congrArg _ (congrArg _ contents))⟩

/-- The Kelvin sign is read as a case form of the letter k but is not allowed in a name. One
block is shown as the block `a` of another name, and one is not found at all. -/
theorem not_shown_kelvin :
    let text := "start_a hello stop_a start_a\u212A x stop_a\u212A start_\u212A y stop_\u212A".toList
    let session : Session Archive :=
      { store := { shelf := .memory [{ id := "A", fields := [("body", .plain text)] }] } }
    let found (name : Text) :=
      ((Engine.block {} { itemized := true } none name).runFrom session).1
    (Extraction.blockMap Grammar.standard text).blocks =
      [⟨['a'], false, "hello".toList⟩, ⟨['a', '\u212A'], false, ['x']⟩,
        ⟨['\u212A'], false, ['y']⟩] ∧
    found ['a', '\u212A'] = .ok (.items ["hello".toList]) ∧ found ['\u212A'] = .ok (.items []) := by
  intro text session found
  let engine : Engine := {}
  let documents : List Document := [{ id := "A", fields := [("body", .plain text)] }]
  have serves : engine.Serves documents ["body"] session := ⟨⟨rfl, fun _ => rfl⟩, by decide⟩
  have runs : ∀ name, found name =
      .ok (.items (engine.contents documents ["body"] none false name)) := by
    intro name
    obtain ⟨after, resolved, _⟩ := resolve_contents none rfl rfl serves pure false true name
    show ((engine.resolve { itemized := true } none pure name).runFrom session).1 = _
    rw [resolved]
    rfl
  refine ⟨by decide +kernel, ?_, ?_⟩
  · have other : engine.contents documents ["body"] none false ['a', '\u212A'] =
        ["hello".toList] := by decide +kernel
    rw [runs, other]
  · have nothing : engine.contents documents ["body"] none false ['\u212A'] = [] := by
      decide +kernel
    rw [runs, nothing]

end Engine

end Transclusion
