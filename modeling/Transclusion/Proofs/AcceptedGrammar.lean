import Transclusion.GrammarRules
import Transclusion.Proofs.OrdinaryGrammar

/-!
What a grammar section has to be for nothing to be found wrong with it: its words are plain
words, each with at most a line feed behind it, and its separator is one sign. Such a section
stands for the grammar it spells out, and the markers of that grammar can be read in one way
only.
-/

namespace Transclusion

/-- A plain word, or one with a line feed behind it. -/
def IsMarkerWord (word : Text) : Prop :=
  ∃ letters, IsPlainWord letters ∧ (word = letters ∨ word = letters ++ ['\n'])

structure Grammar.Accepted (grammar : Grammar) : Prop where
  startWord : IsMarkerWord grammar.startWord
  stopWord : IsMarkerWord grammar.stopWord
  showWord : IsMarkerWord grammar.showWord
  split : ∃ sign, grammar.split = [sign] ∧ IsSign sign

theorem IsMarkerWord.lettered {word : Text} (shape : IsMarkerWord word) : IsLettered word := by
  obtain ⟨letters, plain, same⟩ := shape
  cases letters with
  | nil => exact absurd plain id
  | cons c rest =>
    have letter : c.isAlpha = true := plain.1
    rcases same with rfl | rfl
    · exact letter
    · exact letter

theorem IsMarkerWord.alphanumeric_or_lineFeed {word : Text} (shape : IsMarkerWord word) :
    ∀ c ∈ word, c.isAlphanum = true ∨ c = '\n' := by
  obtain ⟨letters, plain, rfl | rfl⟩ := shape
  · exact fun c member => Or.inl (plain.alphanumeric c member)
  · intro c member
    rcases List.mem_append.mp member with inside | last
    · exact Or.inl (plain.alphanumeric c inside)
    · exact Or.inr (List.mem_singleton.mp last)

theorem Grammar.Accepted.legible {grammar : Grammar} (accepted : grammar.Accepted) :
    grammar.Legible where
  startWord := accepted.startWord.lettered
  stopWord := accepted.stopWord.lettered
  showWord := accepted.showWord.lettered
  split := accepted.split

namespace GrammarRules

theorem isMarkerWord_of_isWordText {word : Text} (passed : isWordText word = true) :
    IsMarkerWord word := by
  cases word with
  | nil => cases passed
  | cons c rest =>
    obtain ⟨letter, tail⟩ := Bool.and_eq_true_iff.mp passed
    have plain : IsPlainWord (c :: rest.takeWhile Char.isAlphanum) :=
      ⟨letter, fun d member => List.mem_takeWhile_imp member⟩
    have parts : rest.takeWhile Char.isAlphanum ++ rest.dropWhile Char.isAlphanum = rest :=
      List.takeWhile_append_dropWhile
    refine ⟨c :: rest.takeWhile Char.isAlphanum, plain, ?_⟩
    rcases Bool.or_eq_true_iff.mp tail with none | feed
    · rw [beq_iff_eq.mp none, List.append_nil] at parts
      exact Or.inl (by rw [parts])
    · rw [beq_iff_eq.mp feed] at parts
      exact Or.inr (by rw [List.cons_append, parts])

theorem isSign_of_isSplitChar {c : Char} (passed : isSplitChar c = true) : IsSign c := by
  simp only [isSplitChar, Bool.not_eq_true', Bool.or_eq_false_iff] at passed
  obtain ⟨⟨⟨notAlphanumeric, notBlank⟩, notOpen⟩, notClose⟩ := passed
  exact ⟨notAlphanumeric, notBlank, by simp [isAngle, notOpen, notClose]⟩

-- A word is found wrong unless it is a text of the right shape.
theorem text_of_checkWords {rules : Value} {keys : List String}
    (passed : (checkWords rules keys).2 = []) :
    ∀ key ∈ keys, ∃ content, rules.get? key = some (.text content) ∧
      isWordText content.toList = true := by
  induction keys with
  | nil => simp
  | cons key keys ih =>
    intro wanted member
    simp only [checkWords] at passed
    split at passed
    · next content found =>
      split at passed
      · next word =>
        rcases List.mem_cons.mp member with rfl | later
        · exact ⟨content, found, word⟩
        · exact ih passed wanted later
      · cases passed
    · cases passed

theorem setting_of_text {rules : Value} {key : String} {content : String}
    (found : rules.get? key = some (.text content)) (present : content.toList ≠ [])
    (standard : Text) : setting rules key standard = content.toList := by
  have filled : (Value.text content).isTruthy = true := by
    simpa [Value.isTruthy, String.toList_eq_nil_iff] using present
  simp [setting, found, filled, Value.plain]

theorem isMarkerWord_setting {rules : Value} (passed : problems rules = []) {key : String}
    (member : key ∈ wordKeys) (standard : Text) : IsMarkerWord (setting rules key standard) := by
  have words : (checkWords rules wordKeys).2 = [] :=
    (List.append_eq_nil_iff.mp (List.append_eq_nil_iff.mp passed).1).1
  obtain ⟨content, found, shape⟩ := text_of_checkWords words key member
  have present : content.toList ≠ [] := by
    intro empty
    rw [empty] at shape
    cases shape
  rw [setting_of_text found present]
  exact isMarkerWord_of_isWordText shape

theorem split_setting {rules : Value} (passed : problems rules = []) (standard : Text) :
    ∃ sign, setting rules "split_char" standard = [sign] ∧ IsSign sign := by
  have split : isSplitValue (rules.get? "split_char") = true := by
    by_contra refused
    have wrong := (List.append_eq_nil_iff.mp passed).2
    rw [if_neg refused] at wrong
    cases wrong
  cases found : rules.get? "split_char" with
  | none =>
    rw [found] at split
    cases split
  | some value =>
    cases value with
    | text content =>
      rw [found] at split
      simp only [isSplitValue] at split
      split at split
      · next sign single =>
        refine ⟨sign, ?_, isSign_of_isSplitChar split⟩
        rw [setting_of_text found (by simp [single]), single]
      · cases split
    | _ =>
      rw [found] at split
      cases split

/-- A section in which nothing is wrong stands for a grammar of marker words and a sign. -/
theorem accepted_grammar {rules : Value} (passed : problems rules = []) :
    (grammar rules).Accepted where
  startWord := isMarkerWord_setting passed (by simp [wordKeys]) _
  stopWord := isMarkerWord_setting passed (by simp [wordKeys]) _
  showWord := isMarkerWord_setting passed (by simp [wordKeys]) _
  split := split_setting passed _

end GrammarRules

end Transclusion
