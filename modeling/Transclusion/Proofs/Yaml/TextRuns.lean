import Mathlib.Data.List.SplitBy
import Transclusion.Proofs.Yaml.Places
import Transclusion.Yaml.ScalarStyle

/-!
The runs that a text is written in: words, spaces and line ends, or lines and what ends them.
Runs next to each other differ in kind.
-/

namespace Transclusion.Yaml

section Runs

variable {Kind : Type} {kind : Char → Kind} {same : Char → Char → Bool}

/-- Runs of characters of one kind, each of another kind than the one before. -/
inductive Runs (kind : Char → Kind) : List Text → Prop where
  | nil : Runs kind []
  | cons {c : Char} {run : Text} {runs : List Text} (alike : ∀ d ∈ run, kind d = kind c)
      (differs : ∀ next ∈ runs.head?, ∀ d ∈ next.head?, kind d ≠ kind c) (others : Runs kind runs) :
      Runs kind ((c :: run) :: runs)

theorem alike_of_isChain (related : ∀ a b, same a b = true ↔ kind a = kind b) {c : Char} {run : Text}
    (chain : (c :: run).IsChain fun a b => same a b) : ∀ d ∈ run, kind d = kind c := by
  induction run generalizing c with
  | nil => simp
  | cons d run ih =>
    obtain ⟨first, others⟩ := List.isChain_cons_cons.mp chain
    have here : kind d = kind c := ((related c d).mp first).symm
    simpa [here] using ih others

theorem runs_splitBy (related : ∀ a b, same a b = true ↔ kind a = kind b) (text : Text) :
    Runs kind (text.splitBy same) := by
  have nonempty := List.nil_notMem_splitBy same text
  have chains : ∀ run ∈ text.splitBy same, run.IsChain fun a b => same a b :=
    fun run member => List.isChain_of_mem_splitBy member
  have borders := List.isChain_getLast_head_splitBy same text
  generalize text.splitBy same = runs at nonempty chains borders
  induction runs with
  | nil => exact .nil
  | cons run runs ih =>
    obtain ⟨c, run, rfl⟩ := List.exists_cons_of_ne_nil fun empty : run = [] =>
      nonempty (by simp [empty])
    have alike := alike_of_isChain related (chains (c :: run) (by simp))
    refine .cons alike (fun next member d first => ?_) (ih (by simp_all) (by simp_all) borders.tail)
    cases runs with
    | nil => exact nomatch member
    | cons other runs =>
      obtain rfl : other = next := by simpa using member
      obtain ⟨present, present', differs⟩ := (List.isChain_cons_cons.mp borders).1
      have last : kind ((c :: run).getLast present) = kind c := by
        rcases List.mem_cons.mp (List.getLast_mem present) with same | member
        · rw [same]
        · exact alike _ member
      have head : other.head present' = d := by
        cases other with
        | nil => exact nomatch first
        | cons e other => simpa using first
      rw [head] at differs
      intro equal
      rw [(related _ d).mpr (last.trans equal.symm)] at differs
      exact nomatch differs

variable {runs : List Text}

theorem Runs.flatten_ne_nil (differ : Runs kind runs) (present : runs ≠ []) : runs.flatten ≠ [] := by
  cases differ with
  | nil => exact absurd rfl present
  | cons _ _ _ => simp

-- The first run begins as the whole text does.
theorem Runs.forall_first_iff (differ : Runs kind runs) {holds : Char → Prop} :
    (∀ c ∈ runs.flatten.head?, holds c) ↔ ∀ run ∈ runs.head?, ∀ c ∈ run.head?, holds c := by
  cases differ with
  | nil => simp
  | cons _ _ _ => simp

end Runs

section Neighbours

open Shape

variable {first second : Char → Bool} {before text after : Text} {a b : Char}

theorem hasNeighbours_append_right (none : hasNeighbours first second (before ++ text) = false) :
    hasNeighbours first second text = false := by
  induction before with
  | nil => exact none
  | cons c before ih =>
    cases joined : before ++ text with
    | nil =>
      obtain ⟨rfl, rfl⟩ := List.append_eq_nil_iff.mp joined
      rfl
    | cons d rest =>
      rw [List.cons_append, joined, hasNeighbours, Bool.or_eq_false_iff] at none
      exact ih (by rw [joined, none.2])

theorem hasNeighbours_at (none : hasNeighbours first second (before ++ a :: b :: after) = false) :
    (first a && second b) = false := by
  have here := hasNeighbours_append_right none
  rw [hasNeighbours, Bool.or_eq_false_iff] at here
  exact here.1

-- The last character of a run and the first one of the next are neighbours.
theorem hasNeighbours_border {run : Text} {runs : List Text}
    (alike : ∀ d ∈ run, first d = first a)
    (none : hasNeighbours first second ((a :: run) :: runs).flatten = false) :
    ∀ next ∈ runs.head?, ∀ d ∈ next.head?, (first a && second d) = false := by
  intro next member d begins
  obtain ⟨before, last, shape⟩ := (List.eq_nil_or_concat (a :: run)).resolve_left (by simp)
  rw [List.concat_eq_append] at shape
  have same : first last = first a := by
    have member : last ∈ a :: run := by rw [shape]; simp
    rcases List.mem_cons.mp member with rfl | member
    · rfl
    · exact alike last member
  cases runs with
  | nil => exact nomatch member
  | cons other runs =>
    obtain rfl : other = next := by simpa using member
    cases other with
    | nil => exact nomatch begins
    | cons e other =>
      obtain rfl : e = d := by simpa using begins
      rw [shape] at none
      rw [← same]
      exact hasNeighbours_at (a := last) (b := e) (by simpa using none)

end Neighbours

section Parts

open Shape

def isWordChar (c : Char) : Bool := !isSpace c && !isBreak c

/-- Whether a word comes next, or nothing. -/
def StartsWord (runs : List Text) : Prop := ∀ run ∈ runs.head?, ∀ c ∈ run.head?, isWordChar c = true

/-- Words and what stands between them. Spaces and line ends do not meet. -/
inductive Parts : List Text → Prop where
  | nil : Parts []
  | word {word : Text} {runs : List Text} (present : word ≠ [])
      (solid : ∀ c ∈ word, isWordChar c = true)
      (next : ∀ run ∈ runs.head?, ∀ c ∈ run.head?, isWordChar c = false) (others : Parts runs) :
      Parts (word :: runs)
  | gap {gap : Text} {runs : List Text} (present : gap ≠ [])
      (blank : (∀ c ∈ gap, c = ' ') ∨ ∀ c ∈ gap, isBreak c = true)
      (next : StartsWord runs) (others : Parts runs) : Parts (gap :: runs)

variable {gap word : Text} {runs : List Text}

/-- Neither spaces nor line ends are part of a word. -/
theorem not_wordChar_of_blank (blank : (∀ c ∈ gap, c = ' ') ∨ ∀ c ∈ gap, isBreak c = true) :
    ∀ c ∈ gap, isWordChar c = false := by
  intro c member
  rcases blank with spaces | ends
  · rw [spaces c member]
    rfl
  · simp [isWordChar, ends c member]

theorem startsWord_cons (solid : ∀ c ∈ word, isWordChar c = true) : StartsWord (word :: runs) := by
  rintro _ ⟨⟩ c first
  exact solid c (List.mem_of_mem_head? first)

theorem not_startsWord_cons (present : gap ≠ []) (gaps : ∀ c ∈ gap.head?, isWordChar c = false) :
    ¬ StartsWord (gap :: runs) := by
  intro starts
  obtain ⟨c, gap, rfl⟩ := List.exists_cons_of_ne_nil present
  have wordChar := starts (c :: gap) rfl c rfl
  rw [gaps c rfl] at wordChar
  cases wordChar

theorem Parts.present (parts : Parts runs) : ∀ run ∈ runs, run ≠ [] := by
  induction parts with
  | nil => simp
  | word present _ _ _ ih => simpa using ⟨present, ih⟩
  | gap present _ _ _ ih => simpa using ⟨present, ih⟩

/-- Behind a word no word begins. -/
theorem Parts.not_startsWord (parts : Parts runs) (goesOn : runs ≠ [])
    (next : ∀ run ∈ runs.head?, ∀ c ∈ run.head?, isWordChar c = false) : ¬ StartsWord runs := by
  obtain ⟨gap, runs, rfl⟩ := List.exists_cons_of_ne_nil goesOn
  exact not_startsWord_cons (parts.present gap List.mem_cons_self) (next gap rfl)

theorem parts_of_runs (alike : Runs (fun c => (isSpace c, isBreak c)) runs)
    (noBreakSpace : hasNeighbours isBreak isSpace runs.flatten = false)
    (noSpaceBreak : hasNeighbours isSpace isBreak runs.flatten = false) : Parts runs := by
  induction alike with
  | nil => exact .nil
  | @cons c run runs alike differs others ih =>
    have parts := ih (hasNeighbours_append_right noBreakSpace) (hasNeighbours_append_right noSpaceBreak)
    have kinds : ∀ d ∈ c :: run, isSpace d = isSpace c ∧ isBreak d = isBreak c := by
      intro d member
      rcases List.mem_cons.mp member with rfl | member
      · exact ⟨rfl, rfl⟩
      · exact Prod.mk.inj (alike d member)
    have endThenSpace := hasNeighbours_border (fun d member => (Prod.mk.inj (alike d member)).2) noBreakSpace
    have spaceThenEnd := hasNeighbours_border (fun d member => (Prod.mk.inj (alike d member)).1) noSpaceBreak
    -- the run is of spaces, of line ends or of neither, and the next one is of another kind
    cases space : isSpace c with
    | true =>
      refine .gap (by simp) (.inl fun d member => ?_) (fun next member d first => ?_) parts
      · simpa [isSpace] using (kinds d member).1.trans space
      · have differ := differs next member d first
        have noEnd := spaceThenEnd next member d first
        have cNoEnd : isBreak c = false := by
          rw [show c = ' ' by simpa [isSpace] using space]
          rfl
        simp_all [isWordChar]
    | false =>
      cases isEnd : isBreak c with
      | true =>
        refine .gap (by simp) (.inr fun d member => (kinds d member).2.trans isEnd)
          (fun next member d first => ?_) parts
        have differ := differs next member d first
        have noSpace := endThenSpace next member d first
        simp_all [isWordChar]
      | false =>
        refine .word (by simp) (fun d member => ?_) (fun next member d first => ?_) parts
        · rw [isWordChar, (kinds d member).1, (kinds d member).2, space, isEnd]
          rfl
        · have differ := differs next member d first
          rw [isWordChar, Bool.and_eq_false_iff]
          by_contra neither
          simp_all

theorem parts_of_text {text : Text} (noBreakSpace : hasNeighbours isBreak isSpace text = false)
    (noSpaceBreak : hasNeighbours isSpace isBreak text = false) : Parts (Sheet.runs text) := by
  have alike : Runs (fun c => (isSpace c, isBreak c)) (Sheet.runs text) :=
    runs_splitBy (by simp) text
  have whole : (Sheet.runs text).flatten = text := List.flatten_splitBy _ _
  exact parts_of_runs alike (by rwa [whole]) (by rwa [whole])

end Parts

end Transclusion.Yaml
