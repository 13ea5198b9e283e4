import Mathlib.Data.List.Nodup
import Transclusion.BlockMap

/-!
What a map of blocks holds after any calls that add to it. A map tells blocks apart by folded name
and kind: the first call of a key makes a block, a later single-value one is ignored and a later
multi-value one is appended. So a map holds the first calls in their order, each with the contents
that were given for it, and a call leaves the blocks of all other keys as they are.
-/

namespace Transclusion

theorem joinLines_cons {text : Text} {texts : List Text} (present : texts ≠ []) :
    joinLines (text :: texts) = text ++ '\n' :: joinLines texts := by
  obtain ⟨next, texts, rfl⟩ := List.exists_cons_of_ne_nil present
  simp [joinLines, List.intercalate]

theorem joinLines_cons_cons (first second : Text) (texts : List Text) :
    joinLines (first :: second :: texts) = joinLines ((first ++ '\n' :: second) :: texts) := by
  cases texts <;> simp [joinLines, List.intercalate]

/-- Texts joined by line feeds, unless there are none. -/
def joined? : List Text → Option Text
  | [] => none
  | texts => some (joinLines texts)

namespace Block

variable {first second : Block} {name : Text} {multi : Bool}

theorem answers_iff :
    first.answers name multi = true ↔ Text.fold first.name = Text.fold name ∧ first.multi = multi := by
  simp [answers]

theorem answers_self (block : Block) : block.answers block.name block.multi = true :=
  answers_iff.mpr ⟨rfl, rfl⟩

theorem answers_comm (first second : Block) :
    first.answers second.name second.multi = second.answers first.name first.multi := by
  rw [answers, answers, BEq.comm, BEq.comm (a := first.multi)]

theorem answers_trans (here : first.answers second.name second.multi = true)
    (there : second.answers name multi = true) : first.answers name multi = true := by
  rw [answers_iff] at here there ⊢
  exact ⟨here.1.trans there.1, here.2.trans there.2⟩

end Block

namespace BlockMap

variable {name wanted content : Text} {multi kind : Bool}

section Step

/-- The content of a block after one more definition of it. -/
def grown (multi : Bool) (content : Text) : Option Text → Text
  | none => content
  | some former => if multi then former ++ '\n' :: content else former

theorem lookup_add (map : BlockMap) :
    (map.add name content multi).lookup wanted kind =
      if Text.fold name = Text.fold wanted ∧ multi = kind then
        some (grown kind content (map.lookup wanted kind))
      else map.lookup wanted kind := by
  obtain ⟨split, blocks⟩ := map
  simp only [lookup, find?, add]
  induction blocks with
  | nil =>
    by_cases same : Text.fold name = Text.fold wanted ∧ multi = kind
    · simp [insert, Block.answers, same, grown]
    · simp [insert, Block.answers, same]
  | cons block blocks ih =>
    by_cases same : block.answers name multi = true
    · obtain ⟨fold, rfl⟩ := Block.answers_iff.mp same
      by_cases wants : Text.fold name = Text.fold wanted ∧ block.multi = kind
      · obtain ⟨equal, rfl⟩ := wants
        cases kind : block.multi with
        | false => simp [insert, Block.answers, fold, equal, kind, grown]
        | true => simp [insert, Block.answers, fold, equal, kind, grown]
      · cases kind' : block.multi with
        | false => simp_all [insert, Block.answers]
        | true => simp_all [insert, Block.answers]
    · rw [insert, if_neg same, List.find?_cons, List.find?_cons]
      cases here : block.answers wanted kind with
      | false => exact ih
      | true =>
        have apart : ¬ (Text.fold name = Text.fold wanted ∧ multi = kind) := by
          rintro ⟨equal, rfl⟩
          simp only [Block.answers, equal] at same
          exact same here
        rw [if_neg apart]

theorem exists_answers_insert {blocks : List Block} :
    (∃ block ∈ insert name content multi blocks, block.answers wanted kind = true) ↔
      (Text.fold name = Text.fold wanted ∧ multi = kind) ∨
        ∃ block ∈ blocks, block.answers wanted kind = true := by
  induction blocks with
  | nil => simp [insert, Block.answers]
  | cons block blocks ih =>
    by_cases same : block.answers name multi = true
    · obtain ⟨fold, rfl⟩ := Block.answers_iff.mp same
      -- the content may grow, but the block answers as it did
      have answers : ∀ content, Block.answers { block with content } wanted kind = true ↔
          Text.fold name = Text.fold wanted ∧ block.multi = kind := by
        simp [Block.answers, fold]
      simp only [insert, same, if_true, List.exists_mem_cons_iff]
      split
      · rw [answers, show block.answers wanted kind = true ↔ _ from answers block.content,
          or_self_left]
      · rw [show block.answers wanted kind = true ↔ _ from answers block.content, or_self_left]
    · simp only [insert, same, Bool.false_eq_true, if_false, List.exists_mem_cons_iff, ih]
      exact or_left_comm

-- A map keeps no two blocks of one folded name and kind.
theorem nodup_insert {blocks : List Block}
    (distinct : (blocks.map fun block => (Text.fold block.name, block.multi)).Nodup) :
    ((insert name content multi blocks).map fun block =>
      (Text.fold block.name, block.multi)).Nodup := by
  induction blocks with
  | nil => simp [insert]
  | cons block blocks ih =>
    obtain ⟨fresh, rest⟩ := List.nodup_cons.mp distinct
    simp only [insert]
    split
    · split
      · exact distinct
      · exact distinct
    · next differs =>
      refine List.nodup_cons.mpr ⟨fun member => ?_, ih rest⟩
      obtain ⟨other, inside, same⟩ := List.mem_map.mp member
      obtain ⟨sameName, sameKind⟩ := Prod.mk.inj same
      have answers : ∃ later ∈ insert name content multi blocks,
          later.answers block.name block.multi = true :=
        ⟨other, inside, Block.answers_iff.mpr ⟨sameName, sameKind⟩⟩
      rcases exists_answers_insert.mp answers with ⟨named, kind⟩ | ⟨later, stored, same⟩
      · exact differs (Block.answers_iff.mpr ⟨named.symm, kind.symm⟩)
      · rw [Block.answers_iff] at same
        exact fresh (List.mem_map.mpr ⟨later, stored, Prod.ext same.1 same.2⟩)

-- The blocks of other keys stay, in their order.
theorem filter_insert (content : Text) (blocks : List Block) :
    (insert name content multi blocks).filter (fun block => !block.answers name multi) =
      blocks.filter fun block => !block.answers name multi := by
  induction blocks with
  | nil => simp [insert, Block.answers]
  | cons block blocks ih =>
    by_cases same : block.answers name multi = true
    · have still : Block.answers { block with content := block.content ++ '\n' :: content } name multi =
          true := same
      cases multi with
      | false => simp [insert, same]
      | true => simp [insert, same, still]
    · simp [insert, same, ih]

end Step

section History

/-- The map after a call for each block. -/
def addAll (map : BlockMap) (history : List Block) : BlockMap :=
  history.foldl (fun map given => map.add given.name given.content given.multi) map

/-- The contents given for a name, in the order of the calls. -/
def contentsGiven (history : List Block) (name : Text) (multi : Bool) : List Text :=
  (history.filter fun given => given.answers name multi).map (·.content)

variable {given block : Block} {history : List Block}

theorem contentsGiven_cons_of_answers (answers : given.answers name multi = true) :
    contentsGiven (given :: history) name multi =
      given.content :: contentsGiven history name multi := by
  simp [contentsGiven, answers]

theorem contentsGiven_cons_of_not (other : ¬ given.answers name multi = true) :
    contentsGiven (given :: history) name multi = contentsGiven history name multi := by
  simp [contentsGiven, other]

-- The calls of another key do not tell on what is given for a name.
theorem contentsGiven_filter (other : ¬ given.answers name multi = true) :
    contentsGiven (history.filter fun later => !later.answers given.name given.multi) name multi =
      contentsGiven history name multi := by
  have keeps : ∀ later ∈ history,
      (later.answers name multi && !later.answers given.name given.multi) =
        later.answers name multi := by
    intro later _
    by_cases answers : later.answers name multi = true
    · have apart : ¬ later.answers given.name given.multi = true := by
        intro same
        rw [Block.answers_comm] at same
        exact other (Block.answers_trans same answers)
      simp [answers, apart]
    · simp [answers]
  rw [contentsGiven, List.filter_filter, List.filter_congr keeps, contentsGiven]

theorem split_addAll (map : BlockMap) (history : List Block) :
    (map.addAll history).split = map.split := by
  induction history generalizing map with
  | nil => rfl
  | cons given history ih => exact ih (map.add given.name given.content given.multi)

theorem nodup_addAll {map : BlockMap} (history : List Block)
    (distinct : (map.blocks.map fun block => (Text.fold block.name, block.multi)).Nodup) :
    ((map.addAll history).blocks.map fun block => (Text.fold block.name, block.multi)).Nodup := by
  induction history generalizing map with
  | nil => exact distinct
  | cons given history ih => exact ih (nodup_insert distinct)

section Lookups

theorem lookup_addAll (map : BlockMap) (history : List Block) (name : Text) (multi : Bool) :
    (map.addAll history).lookup name multi =
      (contentsGiven history name multi).foldl
        (fun found content => some (grown multi content found)) (map.lookup name multi) := by
  induction history generalizing map with
  | nil => rfl
  | cons given history ih =>
    have step : map.addAll (given :: history) =
        (map.add given.name given.content given.multi).addAll history := rfl
    rw [step, ih, lookup_add]
    by_cases answers : given.answers name multi = true
    · simp [contentsGiven_cons_of_answers answers, Block.answers_iff.mp answers]
    · rw [contentsGiven_cons_of_not answers, if_neg (by rwa [← Block.answers_iff])]

theorem foldl_grown_single (contents : List Text) (former : Text) :
    contents.foldl (fun found content => some (grown false content found)) (some former) =
      some former := by
  induction contents with
  | nil => rfl
  | cons content contents ih => exact ih

theorem foldl_grown_multi (contents : List Text) (former : Text) :
    contents.foldl (fun found content => some (grown true content found)) (some former) =
      some (joinLines (former :: contents)) := by
  induction contents generalizing former with
  | nil => simp [joinLines, List.intercalate]
  | cons content contents ih =>
    rw [List.foldl_cons, joinLines_cons_cons]
    exact ih _

variable (split : Text) (history : List Block) (name : Text)

theorem lookup_addAll_single :
    (addAll { split } history).lookup name false = (contentsGiven history name false).head? := by
  rw [lookup_addAll]
  cases contentsGiven history name false with
  | nil => rfl
  | cons content contents => exact foldl_grown_single contents content

theorem lookup_addAll_multi :
    (addAll { split } history).lookup name true = joined? (contentsGiven history name true) := by
  rw [lookup_addAll]
  cases contentsGiven history name true with
  | nil => rfl
  | cons content contents => exact foldl_grown_multi contents content

theorem isSome_lookup_addAll (multi : Bool) :
    ((addAll { split } history).lookup name multi).isSome = true ↔
      ∃ given ∈ history, given.answers name multi = true := by
  have given : contentsGiven history name multi ≠ [] ↔
      ∃ given ∈ history, given.answers name multi = true := by
    simp [contentsGiven]
  rw [← given]
  cases multi with
  | false => simp [lookup_addAll_single]
  | true =>
    rw [lookup_addAll_multi]
    cases contentsGiven history name true <;> simp [joined?]

end Lookups

/-- The first call of each folded name and kind. -/
def firsts (history : List Block) : List Block :=
  history.eraseDupsBy fun later first => later.answers first.name first.multi

/-- What is kept of the first call of a name and kind. -/
def settled (history : List Block) (first : Block) : Block :=
  if first.multi then { first with content := joinLines (contentsGiven history first.name true) }
  else first

theorem name_settled (history : List Block) (first : Block) :
    (settled history first).name = first.name := by
  rw [settled]
  split <;> rfl

theorem multi_settled (history : List Block) (first : Block) :
    (settled history first).multi = first.multi := by
  rw [settled]
  split <;> rfl

theorem settled_self (block : Block) : settled [block] block = block := by
  obtain ⟨name, multi, content⟩ := block
  cases multi with
  | false => rfl
  | true => simp [settled, contentsGiven, Block.answers, joinLines]

-- A call of the same key adds to the content of a multi-value block, and to no other.
theorem settled_cons_of_answers (same : given.answers block.name block.multi = true) :
    settled (block :: given :: history) block =
      let grown : Block :=
        if given.multi then { block with content := block.content ++ '\n' :: given.content } else block
      settled (grown :: history) grown := by
  obtain ⟨name, multi, content⟩ := block
  have kind : given.multi = multi := (Block.answers_iff.mp same).2
  cases multi with
  | false => simp [settled, kind]
  | true =>
    have here : ∀ content, Block.answers ⟨name, true, content⟩ name true = true :=
      fun content => Block.answers_self ⟨name, true, content⟩
    simp only [settled, kind, if_true, contentsGiven_cons_of_answers same,
      contentsGiven_cons_of_answers (here _), joinLines_cons_cons]

theorem settled_cons_of_not (other : ¬ given.answers block.name block.multi = true) :
    settled (block :: given :: history) block = settled (block :: history) block := by
  obtain ⟨name, multi, content⟩ := block
  cases multi with
  | false => rfl
  | true =>
    have here : Block.answers ⟨name, true, content⟩ name true = true := Block.answers_self _
    simp only [settled, if_true, contentsGiven_cons_of_answers here, contentsGiven_cons_of_not other]

theorem settled_filter (other : ¬ given.answers block.name block.multi = true) :
    settled (history.filter fun later => !later.answers given.name given.multi) block =
      settled (given :: history) block := by
  obtain ⟨name, multi, content⟩ := block
  cases multi with
  | false => rfl
  | true => simp only [settled, if_true, contentsGiven_filter other, contentsGiven_cons_of_not other]

-- The block in front takes the calls of its key, and the others go past it.
theorem blocks_addAll_cons (split : Text) (block : Block) (others history : List Block) :
    (addAll ⟨split, block :: others⟩ history).blocks =
      settled (block :: history) block ::
        (addAll ⟨split, others⟩
          (history.filter fun given => !given.answers block.name block.multi)).blocks := by
  induction history generalizing block others with
  | nil => simp [addAll, settled_self]
  | cons given history ih =>
    by_cases same : given.answers block.name block.multi = true
    · let grown : Block :=
        if given.multi then { block with content := block.content ++ '\n' :: given.content } else block
      have key : grown.name = block.name ∧ grown.multi = block.multi := by
        simp only [grown]
        split <;> exact ⟨rfl, rfl⟩
      have step : addAll ⟨split, block :: others⟩ (given :: history) =
          addAll ⟨split, grown :: others⟩ history := by
        simp [addAll, add, insert, Block.answers_comm block given, same, grown]
      rw [step, ih, settled_cons_of_answers same, key.1, key.2]
      simp [same, grown]
    · have step : addAll ⟨split, block :: others⟩ (given :: history) =
          addAll ⟨split, block :: insert given.name given.content given.multi others⟩ history := by
        simp [addAll, add, insert, Block.answers_comm block given, same]
      rw [step, ih, settled_cons_of_not same]
      simp [same, addAll, add]

theorem firsts_cons (given : Block) (history : List Block) :
    firsts (given :: history) =
      given :: firsts (history.filter fun later => !later.answers given.name given.multi) := by
  simp [firsts, List.eraseDupsBy_cons]

theorem firsts_sublist (history : List Block) : (firsts history).Sublist history := by
  match history with
  | [] => exact List.Sublist.refl []
  | given :: rest =>
    rw [firsts_cons]
    have shorter := List.length_filter_le (fun later => !later.answers given.name given.multi) rest
    exact ((firsts_sublist _).trans List.filter_sublist).cons_cons given
  termination_by history.length

theorem blocks_addAll (split : Text) (history : List Block) :
    (addAll { split } history).blocks = (firsts history).map (settled history) := by
  match history with
  | [] => rfl
  | given :: rest =>
    have shorter := List.length_filter_le (fun later => !later.answers given.name given.multi) rest
    have step : addAll { split } (given :: rest) = addAll ⟨split, [given]⟩ rest := rfl
    have later : ∀ first ∈ firsts (rest.filter fun later => !later.answers given.name given.multi),
        settled (rest.filter fun later => !later.answers given.name given.multi) first =
          settled (given :: rest) first := by
      intro first member
      have kept := (List.mem_filter.mp ((firsts_sublist _).subset member)).2
      apply settled_filter
      rw [Block.answers_comm]
      simpa using kept
    rw [step, blocks_addAll_cons, firsts_cons, List.map_cons, blocks_addAll,
      List.map_congr_left later]
  termination_by history.length

/-- After any calls a single-value lookup gives what the first call for the name gave, and a
multi-value lookup what all calls for it gave, in their order. The blocks come in the order of the
first calls and are named as these spelled them. One more call, whatever its display key, leaves
the blocks of every other name and kind as they are. -/
theorem insertion_policy (split : Text) (history : List Block) :
    let map := addAll { split } history
    (∀ name, map.lookup name false = (contentsGiven history name false).head?) ∧
    (∀ name, map.lookup name true = joined? (contentsGiven history name true)) ∧
    map.blocks = (firsts history).map (settled history) ∧
    map.singleNames = ((firsts history).filter fun first => !first.multi).map (·.name) ∧
    ∀ name content multi,
      ((map.add name content multi).blocks.filter fun block => !block.answers name multi) =
        map.blocks.filter fun block => !block.answers name multi := by
  intro map
  have blocks : map.blocks = (firsts history).map (settled history) := blocks_addAll split history
  refine ⟨lookup_addAll_single split history, lookup_addAll_multi split history, blocks, ?_, ?_⟩
  · have single : (fun block : Block => !block.multi) ∘ settled history =
        fun first => !first.multi := by
      funext first
      simp [multi_settled]
    have named : (fun block : Block => block.name) ∘ settled history = fun first => first.name := by
      funext first
      simp [name_settled]
    rw [singleNames, blocks, List.filter_map, List.map_map, single, named]
  · intro name content multi
    exact filter_insert content map.blocks

end History

end BlockMap

end Transclusion
