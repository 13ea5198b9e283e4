import Transclusion.Proofs.AcceptedGrammar
import Transclusion.Proofs.Layering
import Transclusion.Proofs.SettingsReads

/-!
Which settings load, as far as their grammar goes. Settings whose other sections are in order load
exactly when the grammar section has three words and a separator and nothing else, the words are
marker words that differ when they are folded, and the separator is one sign.
-/

namespace Transclusion

/-- A grammar of marker words that differ in more than their case, and one sign. -/
structure Grammar.Usable (grammar : Grammar) : Prop extends grammar.Accepted where
  startStop : Text.fold grammar.startWord ≠ Text.fold grammar.stopWord
  startShow : Text.fold grammar.startWord ≠ Text.fold grammar.showWord
  stopShow : Text.fold grammar.stopWord ≠ Text.fold grammar.showWord

namespace GrammarRules

/-- A section has the words and the separator of a grammar under their keys. -/
structure Describes (rules : Value) (grammar : Grammar) : Prop where
  startWord : rules.get? "start_word" = some (.text (String.ofList grammar.startWord))
  stopWord : rules.get? "stop_word" = some (.text (String.ofList grammar.stopWord))
  showWord : rules.get? "show_word" = some (.text (String.ofList grammar.showWord))
  split : rules.get? "split_char" = some (.text (String.ofList grammar.split))

theorem isWordText_iff {word : Text} : isWordText word = true ↔ IsMarkerWord word := by
  refine ⟨isMarkerWord_of_isWordText, ?_⟩
  rintro ⟨letters, plain, shape⟩
  cases letters with
  | nil => exact absurd plain id
  | cons c rest =>
    obtain ⟨letter, tail⟩ := plain
    have passed : rest.dropWhile Char.isAlphanum = [] := List.dropWhile_eq_nil_iff.mpr tail
    rcases shape with rfl | rfl
    · simp [isWordText, letter, passed]
    · simp [isWordText, letter, List.dropWhile_append, passed]

theorem isSplitChar_iff {c : Char} : isSplitChar c = true ↔ IsSign c := by
  refine ⟨isSign_of_isSplitChar, fun sign => ?_⟩
  have angle := sign.notAngle
  rw [isAngle] at angle
  simpa [isSplitChar, sign.notAlphanumeric, sign.notBlank] using angle

theorem checkRepeats_eq_nil_iff {seen : List (Text × String)} {words : List (String × String)} :
    checkRepeats seen words = [] ↔
      (∀ word ∈ words, ∀ earlier ∈ seen, earlier.1 ≠ Text.fold word.2.toList) ∧
        words.Pairwise fun word later => Text.fold word.2.toList ≠ Text.fold later.2.toList := by
  induction words generalizing seen with
  | nil => simp [checkRepeats]
  | cons word rest ih =>
    obtain ⟨key, word⟩ := word
    rw [checkRepeats, List.forall_mem_cons, List.pairwise_cons]
    dsimp only
    cases found : seen.find? fun earlier => earlier.1 == Text.fold word.toList with
    | some earlier =>
      have same : earlier.1 = Text.fold word.toList := by simpa using List.find?_some found
      refine iff_of_false (List.cons_ne_nil _ _) fun fresh => ?_
      exact fresh.1.1 earlier (List.mem_of_find?_eq_some found) same
    | none =>
      have fresh : ∀ earlier ∈ seen, earlier.1 ≠ Text.fold word.toList := by
        simpa using List.find?_eq_none.mp found
      simp only [ih, List.mem_append, List.mem_singleton]
      constructor
      · rintro ⟨differs, apart⟩
        exact ⟨⟨fresh, fun later member earlier old => differs later member earlier (.inl old)⟩,
          fun later member => differs later member _ (.inr rfl), apart⟩
      · rintro ⟨⟨-, differs⟩, first, apart⟩
        refine ⟨fun later member earlier => ?_, apart⟩
        rintro (old | rfl)
        · exact differs later member earlier old
        · exact first later member

theorem isSplitValue_iff {value : Option Value} : isSplitValue value = true ↔
    ∃ sign, value = some (.text (String.ofList [sign])) ∧ IsSign sign := by
  constructor
  · intro passed
    match value, passed with
    | some (.text content), passed =>
      simp only [isSplitValue] at passed
      split at passed
      · next sign single =>
        exact ⟨sign, by rw [← single, String.ofList_toList], isSplitChar_iff.mp passed⟩
      · cases passed
  · rintro ⟨sign, rfl, isSign⟩
    simpa [isSplitValue] using isSplitChar_iff.mpr isSign

theorem checkWords_cons {rules : Value} {key content : String} (keys : List String)
    (found : rules.get? key = some (.text content)) (word : isWordText content.toList = true) :
    checkWords rules (key :: keys) =
      ((key, content) :: (checkWords rules keys).1, (checkWords rules keys).2) := by
  simp [checkWords, found, word]

/-- Nothing is wrong with a section that describes a usable grammar, and with no other. -/
theorem problems_eq_nil_iff {rules : Value} :
    problems rules = [] ↔ ∃ grammar : Grammar, Describes rules grammar ∧ grammar.Usable := by
  constructor
  · intro passed
    obtain ⟨sign, isSign⟩ : ∃ sign, rules.get? "split_char" = some (.text (String.ofList [sign])) ∧
        IsSign sign := by
      rw [← isSplitValue_iff]
      by_contra refused
      have wrong := (List.append_eq_nil_iff.mp passed).2
      rw [if_neg refused] at wrong
      cases wrong
    have words : (checkWords rules wordKeys).2 = [] :=
      (List.append_eq_nil_iff.mp (List.append_eq_nil_iff.mp passed).1).1
    have repeats : checkRepeats [] (checkWords rules wordKeys).1 = [] :=
      (List.append_eq_nil_iff.mp (List.append_eq_nil_iff.mp passed).1).2
    obtain ⟨start, foundStart, startWord⟩ := text_of_checkWords words "start_word" (by simp [wordKeys])
    obtain ⟨stop, foundStop, stopWord⟩ := text_of_checkWords words "stop_word" (by simp [wordKeys])
    obtain ⟨shown, foundShown, showWord⟩ := text_of_checkWords words "show_word" (by simp [wordKeys])
    rw [wordKeys, checkWords_cons _ foundStart startWord, checkWords_cons _ foundStop stopWord,
      checkWords_cons _ foundShown showWord, checkRepeats_eq_nil_iff] at repeats
    obtain ⟨startStop, startShow, stopShow⟩ :
        Text.fold start.toList ≠ Text.fold stop.toList ∧ Text.fold start.toList ≠ Text.fold shown.toList ∧
          Text.fold stop.toList ≠ Text.fold shown.toList := by
      simpa [checkWords, and_assoc] using repeats.2
    refine ⟨⟨start.toList, stop.toList, shown.toList, [sign]⟩, ?_, ?_⟩
    · exact ⟨by simpa using foundStart, by simpa using foundStop, by simpa using foundShown, isSign.1⟩
    · exact
        { startWord := isWordText_iff.mp startWord, stopWord := isWordText_iff.mp stopWord
          showWord := isWordText_iff.mp showWord, split := ⟨sign, rfl, isSign.2⟩
          startStop, startShow, stopShow }
  · rintro ⟨grammar, described, usable⟩
    obtain ⟨sign, split, isSign⟩ := usable.split
    have word : ∀ {word : Text}, IsMarkerWord word → isWordText (String.ofList word).toList = true :=
      fun shape => by rw [String.toList_ofList, isWordText_iff.mpr shape]
    have separator : isSplitValue (rules.get? "split_char") = true :=
      isSplitValue_iff.mpr ⟨sign, by rw [described.split, split], isSign⟩
    have repeats : checkRepeats [] [("start_word", String.ofList grammar.startWord),
        ("stop_word", String.ofList grammar.stopWord), ("show_word", String.ofList grammar.showWord)] = [] := by
      rw [checkRepeats_eq_nil_iff]
      simp [usable.startStop, usable.startShow, usable.stopShow]
    rw [problems, wordKeys, checkWords_cons _ described.startWord (word usable.startWord),
      checkWords_cons _ described.stopWord (word usable.stopWord),
      checkWords_cons _ described.showWord (word usable.showWord)]
    simp [checkWords, repeats, separator]

end GrammarRules

namespace Settings

variable {described : Section} {property : Property} {rules : List Rule} {place content : String}
  {value : Value} {entries : List (Value × Value)}

theorem Rule.problems_eq_nil_iff :
    Rule.problems rules place value = [] ↔ ∀ rule ∈ rules, rule.complaint? value = none := by
  rw [Rule.problems, List.map_eq_nil_iff, List.filterMap_eq_nil_iff]

theorem Property.problems_text : property.problems place (.text content) = [] ↔
    ∀ rule ∈ property.rules, rule.complaint? (.text content) = none := by
  have noItems : ∀ place, property.itemProblems place (.text content) = [] := fun _ => rfl
  rw [Property.problems, noItems, List.append_nil, Rule.problems_eq_nil_iff]

theorem Section.strangeProblems_eq_nil_iff : described.strangeProblems entries = [] ↔
    ∀ entry ∈ entries, ∃ property ∈ described.properties, entry.1 = .text property.name := by
  have known : ∀ key, described.isKnown key = true ↔
      ∃ property ∈ described.properties, key = .text property.name := by
    simp [Section.isKnown, Value.sameKey_text_iff]
  have listed : described.strangeProblems entries = [] ↔ described.strangeKeys entries = [] := by
    rw [Section.strangeProblems]
    split
    · next empty => exact iff_of_true rfl empty
    · next some => exact iff_of_false (List.cons_ne_nil _ _) some
  simp [listed, Section.strangeKeys, List.eq_nil_iff_forall_not_mem, List.mem_mergeSort, known]

/-- Nothing is wrong with a section that is a map, has no other keys, and has nothing wrong under
any of its keys. -/
theorem Section.problems_eq_nil_iff : described.problems value = [] ↔
    ∃ entries, value = .map entries ∧
      (∀ entry ∈ entries, ∃ property ∈ described.properties, entry.1 = .text property.name) ∧
      ∀ property ∈ described.properties, ∀ item, value.get? property.name = some item →
        property.problems described.name item = [] := by
  cases value with
  | map entries =>
    rw [Section.problems, List.append_eq_nil_iff, Rule.problems_eq_nil_iff, List.append_eq_nil_iff,
      Section.strangeProblems_eq_nil_iff, List.flatMap_eq_nil_iff]
    constructor
    · rintro ⟨-, noOther, fine⟩
      refine ⟨entries, rfl, noOther, fun property member item found => ?_⟩
      have passed := fine property member
      rw [found] at passed
      exact passed
    · rintro ⟨_, ⟨⟩, noOther, fine⟩
      refine ⟨by simp [Rule.complaint?, Kind.holds], noOther, fun property member => ?_⟩
      cases found : (Value.map entries).get? property.name with
      | none => rfl
      | some item => exact fine property member item found
  | _ =>
    constructor
    · intro passed
      have isMap := Rule.problems_eq_nil_iff.mp (List.append_eq_nil_iff.mp passed).1 _
        (List.mem_singleton_self _)
      simp [Rule.complaint?, Kind.holds] at isMap
    · rintro ⟨_, ⟨⟩, _⟩

/-- The section of the grammar, which is the first. -/
def grammarSection : Section := sections.head (List.cons_ne_nil _ _)

theorem mem_sections_iff : described ∈ sections ↔
    described = grammarSection ∨ described ∈ sections ∧ described.name ≠ grammarSection.name := by
  have others : ∀ other ∈ sections.tail, other.name ≠ grammarSection.name := by decide
  constructor
  · intro member
    rw [show sections = grammarSection :: sections.tail from rfl] at member
    rcases List.mem_cons.mp member with same | later
    · exact .inl same
    · exact .inr ⟨List.mem_of_mem_tail later, others described later⟩
  · rintro (rfl | ⟨member, -⟩)
    · exact List.mem_cons_self
    · exact member

theorem wordRules_pass {word : Text} (shape : IsMarkerWord word) :
    ∀ rule ∈ wordRules, rule.complaint? (.text (String.ofList word)) = none := by
  have passes := GrammarRules.isWordText_iff.mpr shape
  have present : word ≠ [] := by
    rintro rfl
    cases passes
  simp [wordRules, Rule.complaint?, Kind.holds, passes, present]

theorem splitRules_pass {sign : Char} (isSign : IsSign sign) :
    ∀ rule ∈ [Rule.kinds [.string], .notEmpty, .oneCharacter,
      .form "^[^A-Za-z0-9\\s<>]$" isSeparator],
        rule.complaint? (.text (String.ofList [sign])) = none := by
  have noLetter : sign.isAlphanum = false := by
    by_contra letter
    have alphanumeric := Text.isAlphanumeric_of_isAlphanum (Bool.not_eq_false _ ▸ letter)
    rw [isSign.notAlphanumeric] at alphanumeric
    cases alphanumeric
  have angle := isSign.notAngle
  rw [isAngle, Bool.or_eq_false_iff] at angle
  have passes : isSeparator [sign] = true := by
    simp [isSeparator, noLetter, isSign.notBlank, angle]
  simp [Rule.complaint?, Kind.holds, passes]

/-- Keys of the grammar's section. -/
def grammarKeys : List Value := grammarSection.properties.map fun property => .text property.name

/-- A section with the words and the separator of a usable grammar, and nothing else, is as the
section should be. -/
theorem grammarSection_pass {grammar : Grammar} (closed : ∀ entry ∈ entries, entry.1 ∈ grammarKeys)
    (described : GrammarRules.Describes (.map entries) grammar) (usable : grammar.Usable) :
    grammarSection.problems (.map entries) = [] := by
  obtain ⟨sign, split, isSign⟩ := usable.split
  have word : ∀ {key : String} {word : Text}, IsMarkerWord word →
      (Value.map entries).get? key = some (.text (String.ofList word)) →
        ∀ item, (Value.map entries).get? key = some item →
          (Property.mk key wordRules []).problems grammarSection.name item = [] := by
    intro key word shape found item there
    rw [found] at there
    cases there
    exact Property.problems_text.mpr (wordRules_pass shape)
  rw [Section.problems_eq_nil_iff]
  refine ⟨entries, rfl, fun entry member => ?_, ?_⟩
  · obtain ⟨property, known, same⟩ := List.mem_map.mp (closed entry member)
    exact ⟨property, known, same.symm⟩
  · simp only [grammarSection, sections, List.head_cons, List.forall_mem_cons]
    refine ⟨word usable.showWord described.showWord, fun item found => ?_,
      word usable.startWord described.startWord, word usable.stopWord described.stopWord, by simp⟩
    rw [described.split, split] at found
    cases found
    exact Property.problems_text.mpr (splitRules_pass isSign)

theorem schemaProblems_eq_nil_iff : schemaProblems (.map entries) = [] ↔
    ∀ described ∈ sections, ∀ value, (Value.map entries).get? described.name = some value →
      described.problems value = [] := by
  have isMap : Rule.problems [.kinds [.object]] "<root>" (.map entries) = [] :=
    Rule.problems_eq_nil_iff.mpr (by simp [Rule.complaint?, Kind.holds])
  rw [schemaProblems, isMap, List.nil_append, List.flatMap_eq_nil_iff]
  refine forall₂_congr fun described _ => ?_
  cases (Value.map entries).get? described.name <;> simp

theorem validate_eq_ok_iff : validate value = .ok () ↔ schemaProblems value = [] ∧
    GrammarRules.problems ((value.get? "grammar").getD .null) = [] := by
  rw [validate, problems]
  cases schemaProblems value with
  | nil => cases GrammarRules.problems ((value.get? "grammar").getD .null) <;> simp
  | cons problem more =>
    refine iff_of_false (fun valid => ?_) fun both => List.cons_ne_nil _ _ both.1
    dsimp only at valid
    cases told : (problem :: more).all fun problem => problem.shows.all Value.hasText with
    | true =>
      rw [told] at valid
      cases valid
    | false =>
      rw [told] at valid
      cases valid

/-- Settings whose other sections are in order load exactly when the section of the grammar has the
words and the separator of a usable grammar, and nothing else. -/
theorem loads_iff {Store : Type} {files : FileTree} {environment : List (String × String)} {root : Path}
    {session : Session Store}
    (laid : (((layers files environment root).run).run session).1 = .ok entries)
    (others : ∀ described ∈ sections, described.name ≠ "grammar" → ∀ value,
      (Value.map entries).get? described.name = some value → described.problems value = []) :
    (∃ data, (((load files environment root).run).run session).1 = .ok data) ↔
      ∃ rules grammar, (Value.map entries).get? "grammar" = some (.map rules) ∧
        (∀ entry ∈ rules, entry.1 ∈ grammarKeys) ∧
        GrammarRules.Describes (.map rules) grammar ∧ grammar.Usable := by
  obtain ⟨after, run⟩ := @layers_run _ files environment root session
  rw [run] at laid
  have all : outcome files environment root = .ok entries := laid
  have loads : (∃ data, (((load files environment root).run).run session).1 = .ok data) ↔
      validate (.map entries) = .ok () := by
    rw [load_run, all]
    cases valid : validate (.map entries) <;> simp [Except.bind, Except.map, valid]
  rw [loads, validate_eq_ok_iff, schemaProblems_eq_nil_iff, GrammarRules.problems_eq_nil_iff]
  constructor
  · rintro ⟨fine, grammar, described, usable⟩
    cases found : (Value.map entries).get? "grammar" with
    | none =>
      rw [found] at described
      cases described.startWord
    | some value =>
      rw [found] at described
      obtain ⟨rules, rfl, closed, -⟩ := Section.problems_eq_nil_iff.mp
        (fine grammarSection (mem_sections_iff.mpr (.inl rfl)) value found)
      refine ⟨rules, grammar, rfl, fun entry member => ?_, described, usable⟩
      obtain ⟨property, known, same⟩ := closed entry member
      exact List.mem_map.mpr ⟨property, known, same.symm⟩
  · rintro ⟨rules, grammar, found, closed, described, usable⟩
    refine ⟨fun sect member value there => ?_, grammar, by rwa [found], usable⟩
    rcases mem_sections_iff.mp member with rfl | ⟨_, other⟩
    · rw [show grammarSection.name = "grammar" from rfl, found] at there
      cases there
      exact grammarSection_pass closed described usable
    · exact others sect member other value there

theorem outcome_of_none {files : FileTree} {root : Path} (listed : YamlFile.list files (folder root) = .ok []) :
    outcome files [] root = .ok standardEntries := by
  simp [outcome, listed, overrides, bind, Except.bind, pure, Except.pure]

theorem outcome_of_alone {files : FileTree} {root path : Path} {others : List (Value × Value)}
    (listed : YamlFile.list files (folder root) = .ok [path])
    (read : readFileEntries files path = .ok others) :
    outcome files [] root = .ok (Value.mergeInto standardEntries others) := by
  simp [outcome, listed, read, overrides, bind, Except.bind, pure, Except.pure]

/-- The standard settings load, as the standard grammar is usable. -/
theorem loads_iff_sample :
    (((layers {} [] {}).run).run (⟨(), false, []⟩ : Session Unit)).1 = .ok standardEntries ∧
      ∃ data, (((load {} [] {}).run).run (⟨(), false, []⟩ : Session Unit)).1 = .ok data := by
  obtain ⟨after, run⟩ := @layers_run _ {} [] {} (⟨(), false, []⟩ : Session Unit)
  have laid : (((layers {} [] {}).run).run (⟨(), false, []⟩ : Session Unit)).1 = .ok standardEntries := by
    rw [run]
    exact outcome_of_none rfl
  have fine : schemaProblems (.map standardEntries) = [] :=
    (validate_eq_ok_iff.mp (by decide +kernel)).1
  have usable : Grammar.standard.Usable :=
    { startWord := GrammarRules.isWordText_iff.mp (by decide +kernel)
      stopWord := GrammarRules.isWordText_iff.mp (by decide +kernel)
      showWord := GrammarRules.isWordText_iff.mp (by decide +kernel)
      split := ⟨'_', rfl, GrammarRules.isSplitChar_iff.mp (by decide +kernel)⟩
      startStop := by decide +kernel
      startShow := by decide +kernel
      stopShow := by decide +kernel }
  refine ⟨laid, (loads_iff laid fun described member _ =>
    schemaProblems_eq_nil_iff.mp fine described member).mpr ?_⟩
  exact ⟨[(.text "start_word", .text "start"), (.text "stop_word", .text "stop"),
    (.text "show_word", .text "show"), (.text "split_char", .text "_")], Grammar.standard, rfl,
    by decide +kernel, ⟨rfl, rfl, rfl, rfl⟩, usable⟩

/-- A project with one file of settings, in which a word ends in a line feed. -/
def spilled : FileTree :=
  { entries :=
      [([".textblocks"], .folder), ([".textblocks", "config"], .folder),
       ([".textblocks", "config", "a.yaml"],
        .file "grammar: \x7bstart_word: \"s\\n\"\x7d\n".toUTF8.toList)] }

/-- Its settings load, though the word is not letters and digits alone. -/
theorem not_only_plain_words : ∃ entries,
    (((layers spilled [] {}).run).run (⟨(), false, []⟩ : Session Unit)).1 = .ok entries ∧
      (((load spilled [] {}).run).run (⟨(), false, []⟩ : Session Unit)).1 = .ok (.map entries) ∧
      follow (.map entries) ["grammar", "start_word"] = some (.text "s\n") ∧
      ¬ IsPlainWord "s\n".toList := by
  let others : List (Value × Value) := [(.text "grammar", mapping [("start_word", .text "s\n")])]
  obtain ⟨after, run⟩ := @layers_run _ spilled [] {} (⟨(), false, []⟩ : Session Unit)
  have listed : YamlFile.list spilled (folder {}) = .ok [(folder {}).child "a.yaml"] :=
    Shelf.list_of_alone [".textblocks", "config"] (by decide +kernel) (by decide +kernel)
      (by decide +kernel) (by decide +kernel)
  have all : outcome spilled [] {} = .ok (Value.mergeInto standardEntries others) :=
    outcome_of_alone listed (by decide +kernel)
  have valid : validate (.map (Value.mergeInto standardEntries others)) = .ok () := by decide +kernel
  refine ⟨Value.mergeInto standardEntries others, by rw [run, all], ?_, by decide +kernel, ?_⟩
  · rw [load_run, all, Except.bind, valid]
    rfl
  · intro plain
    rw [show "s\n".toList = ['s', '\n'] by decide +kernel] at plain
    exact absurd (plain.2 '\n' (by simp)) (by decide)

end Settings

end Transclusion
