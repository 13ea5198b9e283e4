import Transclusion.Proofs.InsertionPolicy
import Transclusion.Proofs.LeftmostDefinitions
import Transclusion.Document

/-!
Where the blocks of a text come from: each answers to a definition cut out of the text,
and the start marker of that definition occurs in the text, whatever the case. So a
document without the marker in its fields has no such block in them.
-/

namespace Transclusion

namespace BlockMap

theorem isSome_lookup_iff {map : BlockMap} {name : Text} {multi : Bool} :
    (map.lookup name multi).isSome = true ↔ ∃ block ∈ map.blocks, block.answers name multi = true := by
  simp [lookup, find?]

theorem isSome_lookup_of_singleNames {map : BlockMap} {name : Text}
    (member : name ∈ map.singleNames) : (map.lookup name false).isSome = true := by
  obtain ⟨block, inside, rfl⟩ := List.mem_map.mp member
  obtain ⟨stored, single⟩ := List.mem_filter.mp inside
  exact isSome_lookup_iff.mpr ⟨block, stored, by simpa [Block.answers] using single⟩

end BlockMap

namespace Definition

/-- The definition gives a block that answers to the name. -/
def Gives (grammar : Grammar) (definition : Definition) (name : Text) (multi : Bool) : Prop :=
  Text.fold definition.name = Text.fold name ∧ grammar.isMulti definition.separator = multi

/-- The block that a definition adds to a map. -/
def block (grammar : Grammar) (definition : Definition) : Block :=
  ⟨definition.name, grammar.isMulti definition.separator, definition.content⟩

theorem answers_block_iff {grammar : Grammar} {definition : Definition} {name : Text} {multi : Bool} :
    (definition.block grammar).answers name multi = true ↔ definition.Gives grammar name multi :=
  Block.answers_iff

end Definition

namespace Extraction

variable {grammar : Grammar} {name : Text} {multi : Bool}

theorem collect_eq_addAll (grammar : Grammar) (definitions : List Definition) :
    collect grammar definitions =
      BlockMap.addAll { split := grammar.split } (definitions.map (Definition.block grammar)) := by
  rw [BlockMap.addAll, List.foldl_map]
  rfl

theorem isSome_lookup_collect {definitions : List Definition} :
    ((collect grammar definitions).lookup name multi).isSome = true ↔
      ∃ definition ∈ definitions, definition.Gives grammar name multi := by
  rw [collect_eq_addAll, BlockMap.isSome_lookup_addAll]
  simp [Definition.answers_block_iff]

theorem isSome_lookup_blockMap {text : Text} :
    ((blockMap grammar text).lookup name multi).isSome = true ↔
      ∃ definition ∈ (definitions grammar text).marks, definition.Gives grammar name multi :=
  isSome_lookup_collect

-- A block comes from a start token in the text.
theorem exists_start_of_lookup {text : Text}
    (found : ((blockMap Grammar.standard text).lookup name multi).isSome = true) :
    ∃ offset token,
      (Token.opener Grammar.standard Grammar.standard.startWord).Stands text offset token ∧
        Text.fold token.name = Text.fold name ∧
        Grammar.standard.isMulti token.separator = multi := by
  obtain ⟨definition, member, sameName, kind⟩ := isSome_lookup_blockMap.mp found
  obtain ⟨offset, located⟩ := Cutting.exists_located Definition.written 0 member
  have token := ((leftmost_definitions text).stands offset definition located).start.token
  exact ⟨_, _, token, sameName, kind⟩

theorem name_of_mem_blocks {grammar : Grammar} {definitions : List Definition} {block : Block}
    (member : block ∈ (collect grammar definitions).blocks) :
    ∃ definition ∈ definitions, block.name = definition.name := by
  rw [collect_eq_addAll, BlockMap.blocks_addAll] at member
  obtain ⟨first, inside, rfl⟩ := List.mem_map.mp member
  obtain ⟨definition, found, rfl⟩ :=
    List.mem_map.mp ((BlockMap.firsts_sublist _).subset inside)
  exact ⟨definition, found, BlockMap.name_settled _ _⟩

theorem nodup_collect {grammar : Grammar} (definitions : List Definition) :
    ((collect grammar definitions).blocks.map fun block =>
      (Text.fold block.name, block.multi)).Nodup := by
  rw [collect_eq_addAll]
  exact BlockMap.nodup_addAll _ List.nodup_nil

-- The single-value blocks of a text have names that fold apart.
theorem nodup_fold_singleNames (grammar : Grammar) (text : Text) :
    ((blockMap grammar text).singleNames.map Text.fold).Nodup := by
  have distinct := @nodup_collect grammar (definitions grammar text).marks
  have single : ((blockMap grammar text).singleNames.map Text.fold).map (fun name => (name, false)) =
      ((blockMap grammar text).blocks.filter fun block => !block.multi).map
        fun block => (Text.fold block.name, block.multi) := by
    rw [BlockMap.singleNames, List.map_map, List.map_map]
    apply List.map_congr_left
    intro block member
    have kind := (List.mem_filter.mp member).2
    simp only [Bool.not_eq_true'] at kind
    simp [kind]
  apply List.Nodup.of_map fun name => (name, false)
  rw [single]
  exact distinct.sublist (List.filter_sublist.map _)

theorem isName_of_mem_blocks {text : Text} {block : Block}
    (member : block ∈ (blockMap Grammar.standard text).blocks) : IsName block.name := by
  obtain ⟨definition, cut, same⟩ := name_of_mem_blocks member
  obtain ⟨offset, located⟩ := Cutting.exists_located Definition.written 0 cut
  obtain ⟨_, _, _, token⟩ := Marker.At.token
    ((leftmost_definitions text).stands offset definition located).start
  rw [same]
  exact token.name

theorem isName_of_singleNames {text : Text}
    (member : name ∈ (blockMap Grammar.standard text).singleNames) : IsName name := by
  obtain ⟨block, inside, rfl⟩ := List.mem_map.mp member
  exact isName_of_mem_blocks (List.mem_of_mem_filter inside)

theorem exists_singleName {text : Text}
    (found : ((blockMap Grammar.standard text).lookup name false).isSome = true) :
    ∃ spelled ∈ (blockMap Grammar.standard text).singleNames,
      Text.fold spelled = Text.fold name := by
  obtain ⟨block, member, answers⟩ := BlockMap.isSome_lookup_iff.mp found
  simp only [Block.answers, Bool.and_eq_true, beq_iff_eq] at answers
  exact ⟨block.name, List.mem_map_of_mem (List.mem_filter.mpr ⟨member, by simp [answers.2]⟩),
    answers.1⟩

theorem start_infix_of_lookup {text : Text}
    (found : ((blockMap Grammar.standard text).lookup name multi).isSome = true) :
    Text.fold (Grammar.standard.startTag name multi) <:+: Text.fold text := by
  obtain ⟨offset, token, stands, sameName, kind⟩ := exists_start_of_lookup found
  -- folding keeps the token together, and its fold is that of the start marker
  have part : token.written <:+: text :=
    (List.prefix_append _ _ : _ <+: token.written ++ _).isInfix.trans
      (stands.parts ▸ (List.drop_suffix _ text).isInfix)
  have folded : Text.fold token.written = Text.fold (Grammar.standard.startTag name multi) := by
    rw [fold_written standard_ordinary.startWord (by decide) stands, kind]
    simp only [Grammar.startTag, Text.fold_append, sameName]
  rw [← folded]
  exact Text.fold_isInfix part

theorem ne_nil_of_lookup {text : Text}
    (found : ((blockMap Grammar.standard text).lookup name multi).isSome = true) : text ≠ [] := by
  rintro rfl
  obtain ⟨offset, token, stands, _, _⟩ := exists_start_of_lookup found
  obtain ⟨c, after, parts, _⟩ := stands.head (Token.opener_lettered standard_ordinary.startWord.lettered)
  rw [List.drop_nil] at parts
  cases parts

-- No block has the empty name.
theorem lookup_nil (text : Text) :
    (blockMap Grammar.standard text).lookup [] multi = none := by
  by_contra found
  obtain ⟨offset, token, stands, sameName, _⟩ :=
    exists_start_of_lookup (Option.isSome_iff_ne_none.mpr found)
  exact Text.fold_ne_nil_of_isName stands.name sameName

end Extraction

namespace Document

variable {document : Document} {fields : List String} {field : String} {name text : Text}
  {multi : Bool}

theorem contains_of_lookup (enabled : field ∈ fields) (member : text ∈ document.textsOf field)
    (found : ((Extraction.blockMap Grammar.standard text).lookup name multi).isSome = true) :
    document.contains fields (Grammar.standard.startTag name multi) = true := by
  have occurs := Text.occursIn_iff.mpr (Extraction.start_infix_of_lookup found)
  exact List.any_eq_true.mpr ⟨field, enabled, List.any_eq_true.mpr ⟨text, member, occurs⟩⟩

theorem mem_textsOf_of_ne_nil {language : Option String}
    (present : document.textOf field language ≠ []) :
    document.textOf field language ∈ document.textsOf field := by
  cases found : document.fields.lookup field with
  | none => simp [textOf, found] at present
  | some content =>
    cases content with
    | plain text => simp [textOf, textsOf, found]
    | perLanguage texts =>
      cases entry : texts.lookup (document.languageOf language) with
      | none => simp [textOf, found, entry] at present
      | some text =>
        obtain ⟨front, back, rfl, _⟩ := List.lookup_eq_some_iff.mp entry
        simp [textOf, textsOf, found, entry]

end Document

end Transclusion
