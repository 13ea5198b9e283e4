import Transclusion.Proofs.AcceptedGrammar
import Transclusion.Proofs.Definitions
import Transclusion.Proofs.References
import Transclusion.Proofs.Signs

/-!
The quick tests that a text may hold a marker. They compare folded texts, while a marker is
read letter by letter in all case forms. The two agree on every letter but i, which the
dotless i matches without folding to it. So the tests hide no marker of a word without an i,
and extraction and substitution do what they would do without them; for a word with an i
there is a text in which they hide one.
-/

namespace Transclusion

open Cutting

/-- A reading begins somewhere in the text. -/
def Cutting.Occurs {Mark : Type} (readings : Recogniser Mark) (text : Text) : Prop :=
  ∃ offset, readAt readings none text offset ≠ []

/-- The letter i in either case. -/
def HasI (word : Text) : Prop := 'i' ∈ word.map Char.toLower

instance (word : Text) : Decidable (HasI word) := by
  unfold HasI
  infer_instance

theorem IsMarkerWord.ascii {word : Text} (shape : IsMarkerWord word) : ∀ c ∈ word, c.toNat < 128 := by
  intro c member
  rcases shape.alphanumeric_or_lineFeed c member with alphanumeric | rfl
  · exact Text.ascii_of_isAlphanum alphanumeric
  · decide

section Passing

variable {grammar : Grammar} (accepted : grammar.Accepted)

include accepted

theorem split_even (form : Text) (spells : Text.Spells grammar.split form) :
    Text.fold form = Text.fold grammar.split := by
  obtain ⟨sign, split, isSign⟩ := accepted.split
  rw [split] at spells ⊢
  obtain ⟨c, rfl, same⟩ := List.map_eq_singleton_iff.mp spells.symm
  have folds := Text.folded_of_alike_sign isSign.notAlphanumeric (beq_iff_eq.mpr same.symm)
  simp [Text.fold, folds]

-- A marker somewhere in a text has its token in the text.
theorem foldOccursIn_of_marker {word : Text} (shape : IsMarkerWord word) (noI : ¬ HasI word)
    {previous : Option Char} {whole text : Text} {marker : Marker} {rest : Text}
    (inside : text <:+ whole)
    (read : (marker, rest) ∈ Marker.recognise (Token.withWord grammar word) previous text) :
    whole ≠ [] ∧ Text.foldOccursIn (word ++ grammar.split) whole = true := by
  have passes := fun {previous : Option Char} {text : Text} {token : Token} {rest : Text} =>
    @foldOccursIn_of_opener word previous text rest token grammar shape.lettered shape.ascii noI
      (split_even accepted) whole
  cases (Marker.mem_recognise_iff_at (Token.opener_readBy _ _)).mp read with
  | bare here => exact passes inside here
  | wrapped opens apart here closes => exact passes ((List.suffix_append _ _).trans inside) here

theorem mayShow_of_occurs (noI : ¬ HasI grammar.showWord) {text : Text}
    (occurs : Occurs (Marker.shows grammar) text) : grammar.mayShow text = true := by
  obtain ⟨offset, present⟩ := occurs
  obtain ⟨⟨marker, rest⟩, read⟩ := List.exists_mem_of_ne_nil _ present
  obtain ⟨present, passes⟩ :=
    foldOccursIn_of_marker accepted accepted.showWord noI (List.drop_suffix offset text) read
  rw [Grammar.mayShow, passes]
  simp [present]

theorem mayDefine_of_occurs (noI : ¬ HasI grammar.startWord) {text : Text}
    (occurs : Occurs (Definition.recognise grammar) text) : grammar.mayDefine text = true := by
  obtain ⟨offset, present⟩ := occurs
  obtain ⟨⟨definition, rest⟩, read⟩ := List.exists_mem_of_ne_nil _ present
  obtain ⟨after, spans⟩ := Definition.here?_spans accepted.legible
    (show Definition.here? grammar _ _ = some (definition, rest) by
      simpa [readAt, Definition.recognise] using read)
  obtain ⟨present, passes⟩ :=
    foldOccursIn_of_marker accepted accepted.startWord noI (List.drop_suffix offset text) spans.opens
  rw [Grammar.mayDefine, passes]
  simp [present]

end Passing

section Hiding

/-- The dotless i in place of each i. -/
def dotless (c : Char) : Char := if c.toLower = 'i' then '\u0131' else c

theorem spells_dotless {word : Text} (ascii : ∀ c ∈ word, c.toNat < 128) :
    Text.Spells word (word.map dotless) := by
  rw [Text.Spells, List.map_map]
  refine List.map_congr_left fun c member => ?_
  rw [Function.comp_apply, dotless]
  split
  · next same =>
    rw [Text.caseKey_ascii (ascii c member), same]
    decide +kernel
  · rfl

theorem not_mem_fold_dotless {word : Text} (ascii : ∀ c ∈ word, c.toNat < 128) :
    'i' ∉ Text.fold (word.map dotless) := by
  rw [Text.fold, List.flatMap_map, List.mem_flatMap]
  rintro ⟨c, member, folded⟩
  rw [dotless] at folded
  split at folded
  · exact absurd folded (by decide +kernel)
  · next other =>
    have small : c.val < 0x80 := ascii c member
    rw [Text.folded, if_pos small, List.mem_singleton] at folded
    exact other folded.symm

theorem mem_fold_of_hasI {word : Text} (ascii : ∀ c ∈ word, c.toNat < 128) (hasI : HasI word) :
    'i' ∈ Text.fold word := by
  obtain ⟨c, member, lower⟩ := List.mem_map.mp hasI
  have small : c.val < 0x80 := ascii c member
  refine List.mem_flatMap.mpr ⟨c, member, ?_⟩
  rw [Text.folded, if_pos small, lower]
  exact List.mem_singleton_self _

variable {grammar : Grammar}

/-- A token with the dotless i, of the name `a`. -/
def hiddenToken (grammar : Grammar) (word : Text) : Token :=
  ⟨word.map dotless, grammar.split, ['a']⟩

theorem not_mem_fold_hiddenToken (accepted : grammar.Accepted) {word : Text}
    (shape : IsMarkerWord word) : 'i' ∉ Text.fold (hiddenToken grammar word).written := by
  obtain ⟨sign, split, isSign⟩ := accepted.split
  have inSplit : 'i' ∉ Text.fold grammar.split := by
    rw [split]
    simpa [Text.fold] using Text.not_mem_folded_of_sign isSign.notAlphanumeric
  have inName : 'i' ∉ Text.fold ['a'] := by decide
  rw [Token.written, Text.fold_append, Text.fold_append]
  simp only [List.mem_append, not_or]
  exact ⟨⟨not_mem_fold_dotless shape.ascii, inSplit⟩, inName⟩

-- A text that folds without an i passes no quick test for a word with one.
theorem foldOccursIn_eq_false {word text : Text} (shape : IsMarkerWord word) (hasI : HasI word)
    (noI : 'i' ∉ Text.fold text) : Text.foldOccursIn (word ++ grammar.split) text = false := by
  by_contra passes
  have inside := (Text.occursIn_iff.mp (Bool.not_eq_false _ ▸ passes)).subset
  rw [Text.fold_append] at inside
  exact noI (inside (List.mem_append_left _ (mem_fold_of_hasI shape.ascii hasI)))

theorem hiddenToken_at {word : Text} (shape : IsMarkerWord word) {previous : Option Char}
    {rest : Text} (opens : opensWord previous = true) (closes : closesWord rest = true) :
    (Token.opener grammar word).At previous ((hiddenToken grammar word).written ++ rest)
      (hiddenToken grammar word) rest :=
  ⟨opens, rfl, spells_dotless shape.ascii, Or.inl (Text.Spells.refl _),
    show IsName ['a'] by decide, closes⟩

variable (accepted : grammar.Accepted)

include accepted

theorem exists_hidden_show (hasI : HasI grammar.showWord) :
    ∃ text, Occurs (Marker.shows grammar) text ∧ grammar.mayShow text = false := by
  refine ⟨(hiddenToken grammar grammar.showWord).written, ⟨0, List.ne_nil_of_mem
    (a := (Marker.bare (hiddenToken grammar grammar.showWord), [])) ?_⟩, ?_⟩
  · rw [readAt_zero]
    apply (Marker.mem_recognise_iff_at (Token.opener_readBy _ _)).mpr
    have here := @hiddenToken_at grammar _ accepted.showWord none [] rfl rfl
    rw [List.append_nil] at here
    exact .bare here
  · rw [Grammar.mayShow, foldOccursIn_eq_false accepted.showWord hasI
      (not_mem_fold_hiddenToken accepted accepted.showWord), Bool.and_false]

/-- A start marker, a blank and the stop marker, each with the dotless i. -/
def hiddenDefinition (grammar : Grammar) : Text :=
  (hiddenToken grammar grammar.startWord).written ++
    ' ' :: (hiddenToken grammar grammar.stopWord).written

theorem exists_hidden_definition (hasI : HasI grammar.startWord) :
    Occurs (Definition.recognise grammar) (hiddenDefinition grammar) ∧
      grammar.mayDefine (hiddenDefinition grammar) = false := by
  constructor
  · refine ⟨0, ?_⟩
    rw [readAt_zero, Definition.recognise]
    intro none
    have missed : Definition.here? grammar Option.none (hiddenDefinition grammar) = Option.none := by
      simpa using none
    -- the stop marker stands one place behind the start marker
    have opened : (Marker.bare (hiddenToken grammar grammar.startWord),
        ' ' :: (hiddenToken grammar grammar.stopWord).written) ∈
        Definition.starts grammar Option.none (hiddenDefinition grammar) :=
      (Marker.mem_recognise_iff_at (Token.opener_readBy _ _)).mpr
        (.bare (hiddenToken_at accepted.startWord rfl (show (!Text.isWord ' ') = true by decide)))
    have unread := Definition.here?_eq_none accepted.legible missed opened
      (show 1 ≤ _ by simp)
    rw [readAt_cons_succ, readAt_zero] at unread
    have stop : (Marker.bare (hiddenToken grammar grammar.stopWord), []) ∈
        Definition.stopsFor grammar (Marker.bare (hiddenToken grammar grammar.startWord))
          (some ' ') (hiddenToken grammar grammar.stopWord).written :=
      (Marker.mem_recognise_iff_at (Token.closer_readBy _ _)).mpr
        (.bare ⟨by decide, by simp, spells_dotless accepted.stopWord.ascii,
          Text.SameLower.refl _, Text.SameLower.refl _, rfl⟩)
    rw [unread] at stop
    cases stop
  · have noI : 'i' ∉ Text.fold (hiddenDefinition grammar) := by
      rw [hiddenDefinition, ← List.singleton_append, Text.fold_append, Text.fold_append]
      simp only [List.mem_append, not_or]
      exact ⟨not_mem_fold_hiddenToken accepted accepted.startWord, by decide,
        not_mem_fold_hiddenToken accepted accepted.stopWord⟩
    rw [Grammar.mayDefine, foldOccursIn_eq_false accepted.startWord hasI noI, Bool.and_false]

end Hiding

section Cuttings

variable {Mark : Type} {written : Mark → Text} {readings : Recogniser Mark}

theorem ofText_eq_tail_of_not_occurs (faithful : Faithful written readings) {text : Text}
    (nowhere : ¬ Occurs readings text) : ofText readings none text = { tail := text } :=
  ofText_eq_tail faithful fun offset _ => by
    by_contra found
    exact nowhere ⟨offset, found⟩

theorem marks_ne_nil_of_occurs (faithful : Faithful written readings) {text : Text}
    (occurs : Occurs readings text) : (ofText readings none text).marks ≠ [] := by
  intro none
  obtain ⟨offset, found⟩ := occurs
  have reads := reads_ofText faithful Option.none text
  have free : Free written 0 (ofText readings Option.none text) offset := by
    intro start mark member
    rw [List.map_eq_nil_iff.mp none] at member
    cases member
  exact found (by simpa using reads.unlocated (Nat.zero_le offset) free)

end Cuttings

namespace Extraction

/-- Extraction without the quick test. -/
def searched (grammar : Grammar) (remove : Bool) (text : Text) : Extraction :=
  let found := cutting grammar text
  ⟨collect grammar found.marks, if remove then found.fill (·.content) else text⟩

theorem insert_ne_nil (name content : Text) (multi : Bool) (blocks : List Block) :
    BlockMap.insert name content multi blocks ≠ [] := by
  cases blocks with
  | nil => simp [BlockMap.insert]
  | cons block rest =>
    rw [BlockMap.insert]
    split <;> simp

theorem collect_ne_nil (grammar : Grammar) {definitions : List Definition}
    (present : definitions ≠ []) : (collect grammar definitions).blocks ≠ [] := by
  obtain ⟨front, last, rfl⟩ : ∃ front last, definitions = front ++ [last] :=
    ⟨_, _, (List.dropLast_append_getLast present).symm⟩
  rw [collect, List.foldl_concat]
  exact insert_ne_nil _ _ _ _

theorem extract_eq_searched_iff {grammar : Grammar} (accepted : grammar.Accepted) :
    (∀ remove text, extract grammar remove text = searched grammar remove text) ↔
      ¬ HasI grammar.startWord := by
  have faithful := Definition.recognise_faithful accepted.legible
  constructor
  · intro same hasI
    obtain ⟨occurs, hidden⟩ := exists_hidden_definition accepted hasI
    have blocks := congrArg (·.blocks.blocks) (same false (hiddenDefinition grammar))
    have found := collect_ne_nil grammar (marks_ne_nil_of_occurs faithful occurs)
    simp only [extract, definitions, hidden] at blocks
    exact found blocks.symm
  · intro noI remove text
    have same : definitions grammar text = cutting grammar text := by
      rw [definitions]
      split
      · rfl
      · next hidden =>
        exact (ofText_eq_tail_of_not_occurs faithful fun occurs =>
          hidden (mayDefine_of_occurs accepted noI occurs)).symm
    rw [extract, same]
    rfl

end Extraction

namespace Substitution

/-- Substitution without the quick test. -/
def searched {Store Failure : Type} (grammar : Grammar) (resolve : Resolver Store Failure)
    (text : Text) : Act Store (Text × List Answer) := do
  let found := cutting grammar text
  let answers ← answerAll grammar resolve found.marks []
  return (found.fill (replacement answers), answers)

theorem substitute_eq_searched_iff {grammar : Grammar} (accepted : grammar.Accepted) :
    (∀ (Store Failure : Type) (resolve : Resolver Store Failure) text,
      substitute grammar resolve text = searched grammar resolve text) ↔
      ¬ HasI grammar.showWord := by
  have faithful := Marker.shows_faithful accepted.legible
  constructor
  · intro same hasI
    obtain ⟨text, occurs, hidden⟩ := exists_hidden_show accepted hasI
    let resolve : Resolver Unit Unit := fun _ _ => pure (.ok none)
    have replies : ∀ name multi (session : Session Unit), True →
        ∃ after, (resolveOne resolve name multi).run session = (Reply.absent, after) ∧ True :=
      fun _ _ session _ => ⟨session, rfl, trivial⟩
    obtain ⟨marker, others, marks⟩ := List.exists_cons_of_ne_nil (marks_ne_nil_of_occurs faithful occurs)
    obtain ⟨after, run, _⟩ := mapM_ask_run replies (firsts [] (cutting grammar text).marks)
      (show True from trivial)
    -- the marker that is hidden would be asked for
    have answers := congrArg (fun act => (act.run ({ store := () } : Session Unit)).1.2)
      (same Unit Unit resolve text)
    simp only [substitute, hidden, searched, answerAll_eq_mapM, StateT.run_bind, List.map_nil] at answers
    rw [run] at answers
    rw [cutting, marks] at answers
    cases answers
  · intro noI Store Failure resolve text
    have same : replaced grammar text = cutting grammar text := by
      rw [replaced]
      split
      · rfl
      · next hidden =>
        exact (ofText_eq_tail_of_not_occurs faithful fun occurs =>
          hidden (mayShow_of_occurs accepted noI occurs)).symm
    rw [substitute_eq_answerAll, same]
    rfl

end Substitution

/-- Of an accepted grammar, the quick test for a start marker passes wherever a definition can be
read, and extraction does what it would do without the test, exactly when there is no i in the
start word. The same goes for show markers, substitution and the show word. -/
theorem quickTests_pass_iff {rules : Value} (passed : GrammarRules.problems rules = []) :
    let grammar := GrammarRules.grammar rules
    ((∀ text, Occurs (Definition.recognise grammar) text → grammar.mayDefine text = true) ↔
      ¬ HasI grammar.startWord) ∧
    ((∀ text, Occurs (Marker.shows grammar) text → grammar.mayShow text = true) ↔
      ¬ HasI grammar.showWord) ∧
    ((∀ remove text, Extraction.extract grammar remove text =
        Extraction.searched grammar remove text) ↔ ¬ HasI grammar.startWord) ∧
    ((∀ (Store Failure : Type) (resolve : Resolver Store Failure) text,
        Substitution.substitute grammar resolve text =
          Substitution.searched grammar resolve text) ↔ ¬ HasI grammar.showWord) := by
  intro grammar
  have accepted : grammar.Accepted := GrammarRules.accepted_grammar passed
  refine ⟨⟨?_, fun noI text => mayDefine_of_occurs accepted noI⟩,
    ⟨?_, fun noI text => mayShow_of_occurs accepted noI⟩,
    Extraction.extract_eq_searched_iff accepted, Substitution.substitute_eq_searched_iff accepted⟩
  · intro passes hasI
    obtain ⟨occurs, hidden⟩ := exists_hidden_definition accepted hasI
    rw [passes _ occurs] at hidden
    cases hidden
  · intro passes hasI
    obtain ⟨text, occurs, hidden⟩ := exists_hidden_show accepted hasI
    rw [passes text occurs] at hidden
    cases hidden

theorem quickTests_pass_sample :
    let rules := Value.map [(.text "start_word", .text "BeGIn"), (.text "stop_word", .text "end\n"),
      (.text "show_word", .text "ask"), (.text "split_char", .text "\u24D0")]
    let grammar := GrammarRules.grammar rules
    GrammarRules.problems rules = [] ∧ HasI grammar.startWord ∧ ¬ HasI grammar.showWord ∧
    (¬ ∀ text, Occurs (Definition.recognise grammar) text → grammar.mayDefine text = true) ∧
    ∀ text, Occurs (Marker.shows grammar) text → grammar.mayShow text = true := by
  intro rules grammar
  have passed : GrammarRules.problems rules = [] := by decide +kernel
  have hasI : HasI grammar.startWord := by decide +kernel
  have noI : ¬ HasI grammar.showWord := by decide +kernel
  obtain ⟨defines, shows, _⟩ := quickTests_pass_iff passed
  exact ⟨passed, hasI, noI, fun passes => defines.mp passes hasI, shows.mpr noI⟩

/-- The dotless i is read as the i of the start word but does not fold to it. -/
theorem not_mayDefine_dotless :
    let rules := Value.map [(.text "start_word", .text "begin"), (.text "stop_word", .text "stop"),
      (.text "show_word", .text "show"), (.text "split_char", .text "_")]
    let grammar := GrammarRules.grammar rules
    let text := "beg\u0131n_a x stop_a".toList
    GrammarRules.problems rules = [] ∧ Occurs (Definition.recognise grammar) text ∧
    grammar.mayDefine text = false ∧
    (Extraction.searched grammar true text).blocks.blocks = [⟨['a'], false, ['x']⟩] ∧
    (Extraction.searched grammar true text).text = ['x'] ∧
    (Extraction.extract grammar true text).blocks.blocks = [] ∧
    (Extraction.extract grammar true text).text = text := by
  intro rules grammar text
  have occurs : readAt (Definition.recognise grammar) none text 0 ≠ [] := by decide +kernel
  exact ⟨by decide +kernel, ⟨0, occurs⟩, by decide +kernel, by decide +kernel, by decide +kernel,
    by decide +kernel, by decide +kernel⟩

end Transclusion
