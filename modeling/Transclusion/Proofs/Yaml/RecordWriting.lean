import Transclusion.Proofs.Yaml.RecordPages

/-!
Writing a record puts it on the page in a form from which its tokens are read.
-/

namespace Transclusion.Yaml

open TokenSource

/-- A name that is short enough for a key on one line is written in as many characters as a key may
have there. -/
def Keyable (name : String) : Prop :=
  (Leaf.ofText name).isShortKey = true → (Leaf.ofText name).keyText.length ≤ 1024

instance (name : String) : Decidable (Keyable name) := inferInstanceAs (Decidable (_ → _))

namespace Record

mutual

/-- A record that can be written behind a key at a column: no scalar is so far to the right that every
word would be on a line of its own, and the keys are no longer than keys may be. -/
def Fits : Record → Nat → Prop
  | .text _, column => column + 2 < Sheet.widest
  | .flag _, column => column + 2 < Sheet.widest
  | .map entries, column => EntriesFit entries (column + 2)

def EntriesFit : List (String × Record) → Nat → Prop
  | [], _ => True
  | (name, item) :: rest, column =>
      (column + 2 < Sheet.widest ∧ Keyable name) ∧ item.Fits column ∧ EntriesFit rest column

end

end Record

section Names

variable {leaf : Leaf} {name : String} {sheet : Sheet} {column : Nat} {closed : Bool}

theorem filled_text (content : String) (isKey : Bool) :
    (Leaf.ofText content).style isKey = .plain → (Leaf.ofText content).text ≠ [] := by
  rintro plain empty
  rw [Leaf.style] at plain
  split at plain
  · next chosen =>
    rw [empty] at chosen
    exact absurd chosen (by simp [Leaf.ofText, show (Scalar.kindOf [] == Kind.text) = false by decide])
  · split at plain
    · cases plain
    · split at plain <;> cases plain

theorem present_of_isShortKey (short : leaf.isShortKey = true) : leaf.text ≠ [] := by
  rintro empty
  rw [Leaf.isShortKey, empty] at short
  simp [Shape.ofText] at short

theorem noEnd_of_isShortKey (short : leaf.isShortKey = true) : ∀ c ∈ leaf.text, isBreak c = false := by
  have present := present_of_isShortKey short
  rw [Leaf.isShortKey, Shape.ofText, if_neg (by simpa using present)] at short
  simp only [Bool.and_eq_true, Bool.not_eq_true', List.any_eq_false, Bool.not_eq_true] at short
  exact short.2

theorem isBreak_of_printable {c : Char} (printable : ' ' ≤ c ∧ c ≤ '~') : isBreak c = false := by
  rw [Bool.eq_false_iff]
  intro isEnd
  rcases isBreak_iff.mp isEnd with rfl | rfl | rfl | rfl
  · exact absurd printable.1 (by decide)
  all_goals exact absurd printable.2 (by decide)

theorem noEnd_keyText (noEnd : ∀ c ∈ leaf.text, isBreak c = false) :
    ∀ c ∈ leaf.keyText, isBreak c = false := by
  rw [Leaf.keyText]
  split
  · exact noEnd
  · intro c member
    simp only [List.mem_cons, List.mem_append, List.mem_flatMap, List.not_mem_nil, or_false] at member
    rcases member with rfl | ⟨d, listed, inEscaped⟩ | rfl
    · rfl
    · rw [escaped] at inEscaped
      split at inEscaped
      · rw [List.mem_singleton.mp inEscaped]
        exact noEnd d listed
      · exact isBreak_of_printable (printable_escape c inEscaped)
    · rfl
  · intro c member
    simp only [Sheet.doubledQuotes, List.mem_cons, List.mem_append, List.mem_flatMap, List.not_mem_nil,
      or_false] at member
    rcases member with rfl | ⟨d, listed, inDoubled⟩ | rfl
    · rfl
    · split at inDoubled
      · rw [show c = '\'' by simpa using inDoubled]
        rfl
      · rw [List.mem_singleton.mp inDoubled]
        exact noEnd d listed
    · rfl

namespace Sheet

theorem Ended.restored {indent : Option Nat} (ended : sheet.Ended closed) :
    { sheet with indent }.Ended closed := by
  cases closed with
  | true => exact ⟨ended.column, ended.atBlank, ended.onlyMarks⟩
  | false => exact ended

theorem toIndent_again (atIndent : sheet.AtIndent) : sheet.toIndent = sheet := by
  have stays : sheet.endsLine = false := by
    simp [endsLine, atIndent.onlyMarks, atIndent.column, atIndent.atBlank]
  have there : ¬ sheet.column < sheet.indent.getD 0 := Nat.not_lt.mpr (Nat.le_of_eq atIndent.column.symm)
  rw [toIndent_eq, stays, padded]
  exact if_neg there

theorem Ended.toIndent (ended : sheet.Ended closed) :
    sheet.Adds (gap (sheet.indent.getD 0) closed) sheet.toIndent ∧ sheet.toIndent.AtIndent := by
  cases closed with
  | true => exact toIndent_start ended
  | false => exact toIndent_line (.inl ended)

/-- Writing a key, its colon included. -/
def writeName (name : String) (sheet : Sheet) : Sheet :=
  if (Leaf.ofText name).isShortKey then ((Leaf.ofText name).write false true sheet).mark [':'] false
  else ((Leaf.ofText name).write false false (sheet.mark ['?'] true true)).toIndent.mark [':'] true true

end Sheet

theorem ofValue?_text (content : String) : Leaf.ofValue? (.text content) = some (Leaf.ofText content) := rfl

theorem ofValue?_bool (isSet : Bool) : Leaf.ofValue? (.bool isSet) = some (Leaf.ofFlag isSet) := rfl

theorem writeEntries_cons (item : Value) (rest : List (Value × Value)) :
    writeEntries ((.text name, item) :: rest) sheet =
      writeEntries rest (writeValue false true item (sheet.toIndent.writeName name)) := by
  rw [writeEntries, Sheet.writeName]
  cases short : (Leaf.ofText name).isShortKey with
  | true =>
    have found : (some (Leaf.ofText name)).filter Leaf.isShortKey = some (Leaf.ofText name) := by
      simp [Option.filter, short]
    simp [found, ofValue?_text]
  | false =>
    have found : (some (Leaf.ofText name)).filter Leaf.isShortKey = none := by
      simp [Option.filter, short]
    simp [found, writeValue, ofValue?_text]

/-- A key on the page, its colon included. -/
theorem adds_writeName (keyable : Keyable name) (inside : sheet.indent = some column)
    (narrow : column + 2 < Sheet.widest) (atIndent : sheet.AtIndent) :
    ∃ written, sheet.Adds written (sheet.writeName name) ∧ (sheet.writeName name).atBlank = false ∧
      ((sheet.writeName name).onlyMarks = true → (sheet.writeName name).column = column + 1) ∧
      KeyForm column (sheet.writeName name).onlyMarks
        ((Leaf.ofText name).token (Leaf.ofText name).isShortKey) written := by
  rw [Sheet.writeName]
  cases short : (Leaf.ofText name).isShortKey with
  | true =>
    have noEnd := noEnd_of_isShortKey short
    obtain ⟨adds, form, _⟩ :=
      adds_key (present_of_isShortKey short) noEnd atIndent.atBlank inside narrow
    have marked := adds.trans (Sheet.adds_mark [':'] false false _)
    simp only [if_true]
    have noMarks : (((Leaf.ofText name).write false true sheet).mark [':'] false).onlyMarks = false :=
      Bool.and_false _
    refine ⟨_, by simpa using marked, rfl, by simp [noMarks], ?_⟩
    rw [noMarks]
    exact form.key (noEnd_keyText noEnd) (keyable short)
  | false =>
    have asked := Sheet.adds_mark ['?'] true true sheet
    have inner : (sheet.mark ['?'] true true).indent = some column := by rw [asked.indent, inside]
    obtain ⟨written, closed, adds, form, ended, _⟩ :=
      Leaf.adds_write (filled_text name false) inner narrow
    have inner' := adds.indent.trans inner
    obtain ⟨between, there⟩ := ended.toIndent
    rw [inner', Option.getD_some] at between
    have marked := Sheet.adds_mark [':'] true true
      ((Leaf.ofText name).write false false (sheet.mark ['?'] true true)).toIndent
    have all := ((asked.trans adds).trans between).trans marked
    rw [if_neg Bool.false_ne_true]
    generalize ((Leaf.ofText name).write false false (sheet.mark ['?'] true true)).toIndent = turned at *
    refine ⟨'?' :: ' ' :: (written ++ (gap column closed ++ [':'])), ?_, rfl, fun _ => ?_, ?_⟩
    · simpa [atIndent.atBlank, there.atBlank, Sheet.mark] using all
    · have same : turned.column = column := by rw [there.column, between.indent, inner']; rfl
      simp [Sheet.mark, Sheet.write, there.atBlank, same]
    · have marks : (turned.mark [':'] true true).onlyMarks = true := by
        show (turned.onlyMarks && true) = true
        rw [there.onlyMarks]
        rfl
      rw [marks]
      exact form.longKey

end Names

section Items

variable {leaf : Leaf} {sheet : Sheet} {column : Nat}

/-- A scalar behind its key. -/
theorem Leaf.adds_item (filled : leaf.style false = .plain → leaf.text ≠ [])
    (inside : sheet.indent = some column) (narrow : column + 2 < Sheet.widest)
    (beside : sheet.atBlank = false) (marks : Bool) :
    ∃ lead body closed, sheet.Adds (lead ++ body) (leaf.write false false sheet) ∧
      (leaf.write false false sheet).Ended closed ∧
      ItemForm column marks [leaf.token false] lead body closed := by
  obtain ⟨written, closed, adds, form, ended, _⟩ := Leaf.adds_write filled inside narrow
  exact ⟨[' '], written, closed, by simpa [beside] using adds, ended, form.item⟩

theorem adds_braces (beside : sheet.atBlank = false) (marks : Bool) : ∃ lead body closed,
    sheet.Adds (lead ++ body) ((sheet.mark ['\x7b'] true).mark ['\x7d'] false) ∧
      ((sheet.mark ['\x7b'] true).mark ['\x7d'] false).Ended closed ∧
      ItemForm column marks [.flowMappingStart, .flowMappingEnd] lead body closed := by
  have opened := Sheet.adds_mark ['\x7b'] true false sheet
  have both := opened.trans (Sheet.adds_mark ['\x7d'] false false _)
  refine ⟨[' '], ['\x7b', '\x7d'], false, by simpa [beside] using both, ?_, braces_item⟩
  simp [Sheet.Ended, Sheet.mark]

/-- The indentation before the entries of a mapping behind its key. -/
theorem adds_mapLead (inside : sheet.indent = some (column + 2))
    (marked : sheet.onlyMarks = true → sheet.column = column + 1) :
    sheet.Adds (mapLead column sheet.onlyMarks) sheet.toIndent ∧ sheet.toIndent.AtIndent := by
  cases marks : sheet.onlyMarks with
  | true =>
    have within := Sheet.toIndent_within marks (.inl (by rw [inside, marked marks]; exact Nat.lt_succ_self _))
    rw [inside, marked marks] at within
    simpa [mapLead] using within
  | false =>
    have line := Sheet.toIndent_line (.inl marks)
    rwa [inside] at line

open Yaml.Record

theorem writeEntries_toIndent {entries : List (String × Record)} (present : entries ≠ [])
    (there : sheet.toIndent.AtIndent) :
    writeEntries (entryValues entries) sheet = writeEntries (entryValues entries) sheet.toIndent := by
  obtain ⟨⟨name, item⟩, rest, rfl⟩ := List.exists_cons_of_ne_nil present
  rw [entryValues, writeEntries_cons, writeEntries_cons, Sheet.toIndent_again there]

mutual

/-- A record behind its key. -/
theorem adds_item : ∀ (record : Record) (column : Nat) (sheet : Sheet), record.Fits column →
    sheet.indent = some column → sheet.atBlank = false →
    (sheet.onlyMarks = true → sheet.column = column + 1) →
    ∃ lead body closed, sheet.Adds (lead ++ body) (writeValue false true record.value sheet) ∧
      (writeValue false true record.value sheet).Ended closed ∧
      ItemForm column sheet.onlyMarks record.tokens lead body closed
  | .text content, column, sheet, fits, inside, beside, _ => by
    have item := (Leaf.ofText content).adds_item (filled_text content false) inside fits beside
      sheet.onlyMarks
    simpa only [Record.value, writeValue, ofValue?_text, tokens] using item
  | .flag isSet, column, sheet, fits, inside, beside, _ => by
    have filled : (Leaf.ofFlag isSet).text ≠ [] := by cases isSet <;> decide
    have item := (Leaf.ofFlag isSet).adds_item (fun _ => filled) inside fits beside sheet.onlyMarks
    simpa only [Record.value, writeValue, ofValue?_bool, tokens] using item
  | .map entries, column, sheet, fits, inside, beside, marked => by
    by_cases empty : entries = []
    · subst empty
      have item := @adds_braces _ column beside sheet.onlyMarks
      simpa only [Record.value, entryValues, writeValue, tokens, List.isEmpty_nil, if_true] using item
    · let inner : Sheet := { sheet with indent := some (column + 2) }
      have within : inner.indent = some (column + 2) := rfl
      obtain ⟨leads, there⟩ := adds_mapLead within marked
      obtain ⟨written, closed, adds, ended, form⟩ :=
        adds_entries entries (column + 2) inner.toIndent empty fits (leads.indent.trans within) there
      have same : writeValue false true (Record.map entries).value sheet =
          { writeEntries (entryValues entries) inner.toIndent with indent := sheet.indent } := by
        have filled : (entryValues entries).isEmpty = false := by
          obtain ⟨⟨name, item⟩, rest, rfl⟩ := List.exists_cons_of_ne_nil empty
          rfl
        rw [Record.value, writeValue, if_neg (by simp [filled]), Sheet.deeper_eq inside,
          ← writeEntries_toIndent empty there]
      rw [same, tokens, if_neg (by simpa using empty)]
      exact ⟨_, written, closed, (leads.trans adds).restored, ended.restored, form.item⟩

/-- Entries on a page. -/
theorem adds_entries : ∀ (entries : List (String × Record)) (column : Nat) (sheet : Sheet),
    entries ≠ [] → EntriesFit entries column → sheet.indent = some column → sheet.AtIndent →
    ∃ written closed, sheet.Adds written (writeEntries (entryValues entries) sheet) ∧
      (writeEntries (entryValues entries) sheet).Ended closed ∧
      EntriesForm column (entryTokens entries) written closed
  | [], _, _, present, _, _, _ => absurd rfl present
  | (name, item) :: rest, column, sheet, _, fits, inside, atIndent => by
    obtain ⟨⟨narrow, keyable⟩, itemFits, restFits⟩ := fits
    obtain ⟨key, named, beside, marked, keyForm⟩ := adds_writeName keyable inside narrow atIndent
    have inside' := named.indent.trans inside
    obtain ⟨lead, body, closed, adds, ended, itemForm⟩ :=
      adds_item item column (sheet.writeName name) itemFits inside' beside marked
    have both := named.trans adds
    rw [entryValues, entryTokens, writeEntries_cons, Sheet.toIndent_again atIndent]
    by_cases last : rest = []
    · subst last
      exact ⟨_, closed, both, ended, by simpa [entryTokens] using keyForm.alone itemForm⟩
    · obtain ⟨between, there⟩ := ended.toIndent
      rw [adds.indent, inside', Option.getD_some] at between
      obtain ⟨written, closed', more, ended', restForm⟩ :=
        adds_entries rest column _ last restFits (between.indent.trans (adds.indent.trans inside')) there
      rw [writeEntries_toIndent last there]
      exact ⟨_, closed', both.trans (between.trans more), ended', keyForm.before itemForm restForm⟩

end

end Items

end Transclusion.Yaml
