import Transclusion.Proofs.DoubledTokens
import Transclusion.Proofs.Uniqueness

/-!
Two saves to different documents, in either order. A save sees the other documents only by
the single-value blocks that they define, and it changes these only for names that open in
its text or in the field it writes to, since doubling opens no other name. So saves that
share no such name do not see each other.
-/

namespace Transclusion

open Token

/-- A start token of the name stands in the text, in any case. -/
def Text.Opens (text name : Text) : Prop :=
  ∃ offset token, (opener Grammar.standard Grammar.standard.startWord).Stands text offset token ∧
    Text.fold token.name = Text.fold name

section Opened

variable {text name : Text}

/-- The names of the start tokens of a text. -/
def Text.opened (text : Text) : List Text :=
  (List.range (text.length + 1)).flatMap fun offset =>
    (withWord Grammar.standard Grammar.standard.startWord (text.take offset).getLast?
      (text.drop offset)).map (·.1.name)

theorem opens_iff : text.Opens name ↔ ∃ other ∈ text.opened, Text.fold other = Text.fold name := by
  constructor
  · rintro ⟨offset, token, stands, same⟩
    have within : offset < text.length + 1 := by
      by_contra beyond
      obtain ⟨c, after, head, _⟩ := stands.head
        (opener_lettered standard_ordinary.startWord.lettered)
      rw [List.drop_of_length_le (by omega)] at head
      cases head
    refine ⟨token.name, List.mem_flatMap.mpr ⟨offset, List.mem_range.mpr within, ?_⟩, same⟩
    exact List.mem_map.mpr ⟨_, (opener_readBy _ _ _ _ _ _).mpr stands, rfl⟩
  · rintro ⟨other, member, same⟩
    obtain ⟨offset, _, found⟩ := List.mem_flatMap.mp member
    obtain ⟨⟨token, rest⟩, read, rfl⟩ := List.mem_map.mp found
    have here := (opener_readBy _ _ _ _ _ _).mp read
    refine ⟨offset, token, ?_, same⟩
    have after : text.drop (offset + token.written.length) = rest := by
      rw [← List.drop_drop, here.parts, List.drop_left]
    rw [Shape.Stands, after]
    exact here

-- A block comes from a start token of its name.
theorem opens_of_lookup {multi : Bool}
    (found : ((Extraction.blockMap Grammar.standard text).lookup name multi).isSome = true) :
    text.Opens name := by
  obtain ⟨offset, token, stands, same, _⟩ := Extraction.exists_start_of_lookup found
  exact ⟨offset, token, stands, same⟩

/-- Respelling tokens opens no name that did not open before. -/
theorem Respells.opens {names : List Text} {f : Text → Text} (respells : Respells names f)
    (opens : (f text).Opens name) : text.Opens name := by
  obtain ⟨offset, token', stands, same⟩ := opens
  have bounds' := bound_of_opener stands.admits
  obtain ⟨word, inText, run, image⟩ := respells.toWordwise.exists_word
    (Text.hasWord_of_stands stands (wordRun_of_bound bounds'))
  obtain ⟨token, bounds, rfl, respelled⟩ := respells.exists_token run bounds' image
  have sameWord : token.word = token'.word := by rw [← respelled, respelled_word]
  have sameName : token.name = token'.name := by rw [← respelled, respelled_name]
  obtain ⟨place, there⟩ := (opener Grammar.standard Grammar.standard.startWord).exists_stands
    ⟨sameWord ▸ stands.word, separates_of_bound bounds, bounds.name⟩ inText
  exact ⟨place, token, there, by rw [sameName, same]⟩

end Opened

namespace Save

/-- The name opens in the text of the save, or in a text that the field has. -/
def Concerns (documents : List Document) (save : Save) (name : Text) : Prop :=
  save.text.Opens name ∨
    ∃ stored ∈ (Archive.target documents save.id).textsOf save.field, stored.Opens name

variable {documents : List Document} {save first second : Save} {name : Text}

/-- The names that open in the text of the save or in the texts of the field. -/
def names (documents : List Document) (save : Save) : List Text :=
  (save.text :: (Archive.target documents save.id).textsOf save.field).flatMap Text.opened

theorem concerns_iff :
    save.Concerns documents name ↔
      ∃ other ∈ save.names documents, Text.fold other = Text.fold name := by
  simp only [Concerns, names, opens_iff, List.mem_flatMap, List.mem_cons]
  constructor
  · rintro (⟨other, member, same⟩ | ⟨stored, inField, other, member, same⟩)
    · exact ⟨other, ⟨save.text, Or.inl rfl, member⟩, same⟩
    · exact ⟨other, ⟨stored, Or.inr inField, member⟩, same⟩
  · rintro ⟨other, ⟨text, rfl | inField, member⟩, same⟩
    · exact Or.inl ⟨other, member, same⟩
    · exact Or.inr ⟨text, inField, other, member, same⟩

/-- Whether two saves share a name can be computed. -/
theorem unshared_iff :
    (∀ name, ¬ (first.Concerns documents name ∧ second.Concerns documents name)) ↔
      ∀ one ∈ first.names documents, ∀ other ∈ second.names documents,
        Text.fold one ≠ Text.fold other := by
  constructor
  · intro unshared one member other member' same
    exact unshared one ⟨concerns_iff.mpr ⟨one, member, rfl⟩,
      concerns_iff.mpr ⟨other, member', same.symm⟩⟩
  · rintro apart name ⟨concerns, concerns'⟩
    obtain ⟨one, member, same⟩ := concerns_iff.mp concerns
    obtain ⟨other, member', same'⟩ := concerns_iff.mp concerns'
    exact apart one member other member' (same.trans same'.symm)

end Save

namespace Engine

variable {engine : Engine} {documents : List Document} {fields scope : List String}
  {first second save : Save} {id : String} {name : Text}

section Standard

variable (standard : engine.grammar = Grammar.standard)

include standard

theorem opens_of_textSaved (opens : (engine.textSaved documents fields save).Opens name) :
    save.text.Opens name := by
  rw [textSaved] at opens
  split at opens
  · exact opens
  · rw [validated, doubledFor_eq_doubleAll] at opens
    exact (respells_doubleAll standard fun other member =>
      Extraction.isName_of_singleNames (List.mem_of_mem_filter member)).opens opens

-- Writing a field changes nothing for names that open neither in the old nor in the new text.
theorem defines_setText {document : Document} {field : String} {text : Text}
    {language : Option String} (calm : ¬ text.Opens name)
    (before : ∀ stored ∈ document.textsOf field, ¬ stored.Opens name) :
    engine.defines fields name (document.setText field text language) =
      engine.defines fields name document := by
  rw [Bool.eq_iff_iff, defines_iff standard, defines_iff standard]
  apply exists_congr
  intro wanted
  apply and_congr_right
  intro _
  by_cases here : wanted = field
  · subst here
    constructor
    · rintro ⟨stored, member, found⟩
      rcases Document.mem_textsOf_setText member with rfl | rfl | kept
      · exact absurd (opens_of_lookup found) calm
      · exact absurd rfl (Extraction.ne_nil_of_lookup found)
      · exact ⟨stored, kept, found⟩
    · rintro ⟨stored, member, found⟩
      exact absurd (opens_of_lookup found) (before stored member)
  · rw [Document.textsOf_setText_of_ne here]

/-- A save changes nothing for names that it does not concern. -/
theorem elsewhere_documentsAfter (calm : ¬ save.Concerns documents name) :
    engine.elsewhere (engine.documentsAfter documents scope save) id fields name =
      engine.elsewhere documents id fields name := by
  let target := Archive.target documents save.id
  let document := target.setText save.field (engine.textSaved documents scope save) save.language
  have called : document.id = save.id := Archive.target_id documents save.id
  have alike : engine.defines fields name document = engine.defines fields name target :=
    defines_setText standard (fun opens => calm (Or.inl (opens_of_textSaved standard opens)))
      fun stored member opens => calm (Or.inr ⟨stored, member, opens⟩)
  have empty : (({ id := save.id } : Document).id != id &&
      engine.defines fields name { id := save.id }) = false := by
    simp [defines, Document.textsOf]
  have same : (target.id != id && engine.defines fields name target) =
      (save.id != id && engine.defines fields name document) := by
    rw [alike, Archive.target_id]
  apply @Document.any_putInto document documents _ _ empty
  rw [called]
  exact same

end Standard

/-- The document that a save keeps. -/
def documentKept (engine : Engine) (documents : List Document) (fields : List String)
    (save : Save) : Document :=
  (Archive.target documents save.id).setText save.field (engine.textSaved documents fields save)
    save.language

theorem documentKept_id : (engine.documentKept documents fields save).id = save.id :=
  Archive.target_id documents save.id

theorem documentsAfter_eq :
    engine.documentsAfter documents fields save =
      (engine.documentKept documents fields save).putInto documents := rfl

theorem target_documentsAfter (apart : save.id ≠ id) :
    Archive.target (engine.documentsAfter documents scope save) id =
      Archive.target documents id := by
  have differs : (engine.documentKept documents scope save).id ≠ id := by rwa [documentKept_id]
  rw [Archive.target, documentsAfter_eq, Document.find?_putInto_of_ne differs]
  rfl

section Pair

variable (standard : engine.grammar = Grammar.standard) (apart : first.id ≠ second.id)
  (unshared : ∀ name, ¬ (first.Concerns documents name ∧ second.Concerns documents name))

include standard apart unshared

-- What the second save finds in the other documents is there before the first save, too.
theorem validationFor_documentsAfter :
    engine.validationFor (engine.documentsAfter documents scope first) fields second =
      engine.validationFor documents fields second := by
  rw [validationFor, validationFor, target_documentsAfter apart]
  split
  · rfl
  · have same : engine.colliding (engine.documentsAfter documents scope first) second.id fields
        second.text = engine.colliding documents second.id fields second.text := by
      apply List.filter_congr
      intro name member
      have opens := opens_of_lookup (BlockMap.isSome_lookup_of_singleNames member)
      exact elsewhere_documentsAfter standard fun concerns =>
        unshared name ⟨concerns, Or.inl opens⟩
    rw [validation_eq, validation_eq, same]

theorem documentKept_documentsAfter :
    engine.documentKept (engine.documentsAfter documents scope first) fields second =
      engine.documentKept documents fields second := by
  rw [documentKept, documentKept, target_documentsAfter apart, ← text_validationFor,
    ← text_validationFor, validationFor_documentsAfter standard apart unshared]

/-- Either order leaves the same documents. -/
theorem documentsAfter_comm (stored : ∃ old ∈ documents, old.id = first.id ∨ old.id = second.id) :
    engine.documentsAfter (engine.documentsAfter documents fields first) fields second =
      engine.documentsAfter (engine.documentsAfter documents fields second) fields first := by
  have unshared' : ∀ name, ¬ (second.Concerns documents name ∧ first.Concerns documents name) :=
    fun name both => unshared name both.symm
  rw [documentsAfter_eq, documentKept_documentsAfter standard apart unshared, documentsAfter_eq,
    @documentsAfter_eq _ (engine.documentsAfter documents fields second),
    documentKept_documentsAfter standard apart.symm unshared', documentsAfter_eq]
  apply Document.putInto_comm
  · rw [documentKept_id, documentKept_id]
    exact apart.symm
  · obtain ⟨old, member, same⟩ := stored
    rw [documentKept_id, documentKept_id]
    exact ⟨old, member, same.symm⟩

end Pair

/-- Two saves, one after the other, and what each of them answers. -/
def saveBoth (engine : Engine) (first second : Save) : ArchiveWork (Validation × Validation) := do
  let answer ← engine.save first
  return (answer, ← engine.save second)

theorem saveBoth_run {session : Session Archive} (standard : engine.grammar = Grammar.standard)
    (holds : session.store.Holds documents) :
    let fields := engine.enabledFields session.store
    let between := engine.documentsAfter documents fields first
    ∃ after, (engine.saveBoth first second).runFrom session =
        (.ok (engine.validationFor documents fields first,
          engine.validationFor between fields second), after) ∧
      (session.kept (engine.documentsAfter between fields second)).Follows after := by
  intro fields between
  obtain ⟨middle, done, follows⟩ := save_runFrom standard holds first
  obtain ⟨after, done', follows'⟩ :=
    save_runFrom standard (follows.holds (holds.kept between)) second
  have same : engine.enabledFields middle.store = fields := by
    obtain ⟨_, _, rfl⟩ := follows
    rfl
  rw [same] at done' follows'
  refine ⟨after, ?_, ?_⟩
  · rw [saveBoth, ArchiveWork.runFrom_bind done, ArchiveWork.runFrom_bind done']
    rfl
  · obtain ⟨_, _, rfl⟩ := follows
    exact follows'

/-- Saves to different documents commute when no name opens both in the texts that the one
has to do with and in those of the other. Each save answers the same in either order, and the
same archive is left, apart from the queries noted. Only the order in which two new documents
come would show. -/
theorem saveBoth_comm (language : Language) (override : Option Override)
    (capability offered : String) (documents : List Document) (enabled : List String)
    (first second : Save) (apart : first.id ≠ second.id)
    (stored : ∃ old ∈ documents, old.id = first.id ∨ old.id = second.id)
    (unshared : ∀ name, ¬ (first.Concerns documents name ∧ second.Concerns documents name)) :
    let engine : Engine := { language, override, capability }
    let start : Session Archive :=
      { store := { shelf := .memory documents, enabledFields := enabled, capability := offered } }
    ∃ answer answer' forth back,
      (engine.saveBoth first second).runFrom start = (.ok (answer, answer'), forth) ∧
      (engine.saveBoth second first).runFrom start = (.ok (answer', answer), back) ∧
      { forth.store with queries := [] } = { back.store with queries := [] } := by
  intro engine start
  have standard : engine.grammar = Grammar.standard := rfl
  have holds : start.store.Holds documents := ⟨rfl, fun _ => rfl⟩
  have unshared' : ∀ name, ¬ (second.Concerns documents name ∧ first.Concerns documents name) :=
    fun name both => unshared name both.symm
  obtain ⟨forth, done, follows⟩ := @saveBoth_run engine documents first second start standard holds
  obtain ⟨back, done', follows'⟩ := @saveBoth_run engine documents second first start standard holds
  rw [validationFor_documentsAfter standard apart unshared] at done
  rw [validationFor_documentsAfter standard apart.symm unshared'] at done'
  rw [documentsAfter_comm standard apart unshared stored] at follows
  refine ⟨_, _, forth, back, done, done', ?_⟩
  obtain ⟨_, _, rfl⟩ := follows
  obtain ⟨_, _, rfl⟩ := follows'
  rfl

/-- Both blocks collide with a third document, and each save doubles its own. -/
theorem saveBoth_comm_sample :
    let documents : List Document :=
      [{ id := "A", fields := [("body", .plain "start_a x stop_a".toList)] },
        { id := "B", fields := [("body", .plain "show_a".toList)] },
        { id := "C", fields := [("body", .plain "start_a q stop_a start_b r stop_b".toList)] }]
    let start : Session Archive := { store := { shelf := .memory documents } }
    let first : Save :=
      { id := "A", field := "body", text := "start_a y stop_a show_b".toList }
    let second : Save :=
      { id := "B", field := "body", text := "start_B z stop_B show_a".toList, language := some "de" }
    (∀ name, ¬ (first.Concerns documents name ∧ second.Concerns documents name)) ∧
      ∃ answer answer' forth back,
        (Engine.saveBoth {} first second).runFrom start = (.ok (answer, answer'), forth) ∧
        (Engine.saveBoth {} second first).runFrom start = (.ok (answer', answer), back) ∧
        { forth.store with queries := [] } = { back.store with queries := [] } ∧
        answer.text = "start__a y stop__a show_b".toList ∧
        answer'.text = "start__B z stop__B show_a".toList := by
  intro documents start first second
  have unshared : ∀ name, ¬ (first.Concerns documents name ∧ second.Concerns documents name) :=
    Save.unshared_iff.mpr (by decide +kernel)
  obtain ⟨answer, answer', forth, back, done, done', same⟩ :=
    saveBoth_comm {} none standardCapability standardCapability documents ["body"] first second
      (by decide) ⟨_, List.mem_cons_self, Or.inl rfl⟩ unshared
  have answers : ((Engine.saveBoth {} first second).runFrom start).1.toOption.map
      (fun both => (both.1.text, both.2.text)) =
        some ("start__a y stop__a show_b".toList, "start__B z stop__B show_a".toList) := by
    decide +kernel
  rw [done] at answers
  obtain ⟨written, written'⟩ := Prod.mk.inj (Option.some.inj answers)
  exact ⟨unshared, answer, answer', forth, back, done, done', same, written, written'⟩

end Engine

end Transclusion
