import Transclusion.Proofs.Documents

/-!
What writing a translation leaves alone. A field is one text for every language until a text in
another language than the document's own is written to it, and has texts by language from then on.
The write that changes it keeps the text under the document's own language only; every later one
leaves all other languages as they are.
-/

namespace Transclusion.Document

variable {document : Document} {field wanted : String} {text : Text}
  {language other : Option String}

/-- The field has texts by language. -/
def Translated (document : Document) (field : String) : Prop :=
  ∃ texts, document.fields.lookup field = some (.perLanguage texts)

/-- The texts by language of a field; one that has none keeps its text as that of the document's
own language. -/
def textsByLanguage (document : Document) (field : String) : List (String × Text) :=
  match document.fields.lookup field with
  | some (.perLanguage texts) => texts
  | some (.plain base) => [(document.defaultLanguage, base)]
  | none => [(document.defaultLanguage, [])]

section Reads

theorem textOf_of_lookup {texts : List (String × Text)}
    (present : document.fields.lookup field = some (.perLanguage texts)) :
    document.textOf field other = (texts.lookup (document.languageOf other)).getD [] := by
  rw [textOf, present]

theorem lookup_textsByLanguage
    (served : document.Translated field ∨ document.languageOf other = document.defaultLanguage) :
    ((document.textsByLanguage field).lookup (document.languageOf other)).getD [] =
      document.textOf field other := by
  rcases served with ⟨texts, present⟩ | own
  · rw [textsByLanguage, present, textOf_of_lookup present]
  · simp only [textsByLanguage, textOf, own]
    cases document.fields.lookup field with
    | none => simp
    | some content => cases content <;> simp

theorem lookup_textsByLanguage_of_untranslated (untranslated : ¬ document.Translated field)
    (differs : document.languageOf other ≠ document.defaultLanguage) :
    ((document.textsByLanguage field).lookup (document.languageOf other)).getD [] = [] := by
  have elsewhere : (document.languageOf other == document.defaultLanguage) = false := by
    simpa using differs
  cases present : document.fields.lookup field with
  | none => simp [textsByLanguage, present, List.lookup_cons, elsewhere]
  | some content =>
    cases content with
    | plain base => simp [textsByLanguage, present, List.lookup_cons, elsewhere]
    | perLanguage texts => exact absurd ⟨texts, present⟩ untranslated

end Reads

section Step

theorem lookup_setText_of_foreign (foreign : document.languageOf language ≠ document.defaultLanguage) :
    (document.setText field text language).fields.lookup field =
      some (.perLanguage
        (Entries.put (document.languageOf language) text (document.textsByLanguage field))) := by
  simp only [setText, textsByLanguage, Entries.lookup_put, beq_self_eq_true, if_true]
  cases document.fields.lookup field with
  | none => simp [foreign]
  | some content =>
    cases content with
    | plain base => simp [foreign]
    | perLanguage texts => rfl

-- A text in the document's own language does not change what a field is.
theorem translated_setText_of_own (own : document.languageOf language = document.defaultLanguage) :
    (document.setText field text language).Translated field ↔ document.Translated field := by
  simp only [Translated, setText, Entries.lookup_put, beq_self_eq_true, if_true]
  cases document.fields.lookup field with
  | none => simp [own]
  | some content => cases content <;> simp [own]

theorem translated_setText : (document.setText field text language).Translated wanted ↔
    document.Translated wanted ∨
      (field = wanted ∧ document.languageOf language ≠ document.defaultLanguage) := by
  by_cases same : field = wanted
  · subst same
    by_cases own : document.languageOf language = document.defaultLanguage
    · simp [translated_setText_of_own own, own]
    · have translated : (document.setText field text language).Translated field :=
        ⟨_, lookup_setText_of_foreign own⟩
      simp [translated, own]
  · simp only [Translated, lookup_setText_of_ne (Ne.symm same), same, false_and, or_false]

theorem textOf_setText_of_foreign
    (foreign : document.languageOf language ≠ document.defaultLanguage) :
    (document.setText field text language).textOf field other =
      if document.languageOf other = document.languageOf language then text
      else ((document.textsByLanguage field).lookup (document.languageOf other)).getD [] := by
  rw [textOf_of_lookup (lookup_setText_of_foreign foreign), Entries.lookup_put]
  -- the two documents have one language of their own
  have same : (document.setText field text language).languageOf other = document.languageOf other := rfl
  rw [same]
  by_cases here : document.languageOf other = document.languageOf language
  · simp [here]
  · simp [here]

end Step

section Run

/-- A text for a field in a language. -/
structure Write where
  field : String
  text : Text
  language : Option String := none

def write (document : Document) (given : Write) : Document :=
  document.setText given.field given.text given.language

def writeAll (document : Document) (writes : List Write) : Document :=
  writes.foldl Document.write document

/-- A text in another language than the document's own. -/
def Translates (document : Document) (given : Write) : Prop :=
  document.languageOf given.language ≠ document.defaultLanguage

instance (document : Document) (given : Write) : Decidable (document.Translates given) :=
  inferInstanceAs (Decidable (_ ≠ _))

theorem defaultLanguage_writeAll (document : Document) (writes : List Write) :
    (document.writeAll writes).defaultLanguage = document.defaultLanguage := by
  induction writes generalizing document with
  | nil => rfl
  | cons given writes ih => exact ih (document.write given)

theorem languageOf_writeAll (document : Document) (writes : List Write) (language : Option String) :
    (document.writeAll writes).languageOf language = document.languageOf language := by
  simp only [languageOf, defaultLanguage_writeAll]

/-- A field has texts by language after any writes where it had them before, or where one of the
writes gave it a text in another language than the document's own. -/
theorem translated_writeAll (document : Document) (writes : List Write) (field : String) :
    (document.writeAll writes).Translated field ↔
      document.Translated field ∨
        ∃ given ∈ writes, given.field = field ∧ document.Translates given := by
  induction writes generalizing document with
  | nil => simp [writeAll]
  | cons given writes ih =>
    have step : document.writeAll (given :: writes) = (document.write given).writeAll writes := rfl
    rw [step, ih, Document.write, translated_setText, List.exists_mem_cons_iff, or_assoc]
    exact Iff.rfl

/-- After any writes, a text in another language than the document's own is read back in that
language. It leaves every other language of the field as it is if that is the document's own or the
field was translated, at first or by one of the writes; where the field was one text for every
language, the languages that are neither have none now. Other fields and all else about the
document stay. -/
theorem translation_frame (document : Document) (writes : List Write) (last : Write)
    (translates : document.Translates last) :
    let before := document.writeAll writes
    let after := before.write last
    let translated := document.Translated last.field ∨
      ∃ earlier ∈ writes, earlier.field = last.field ∧ document.Translates earlier
    after.textOf last.field last.language = last.text ∧
    (∀ other, document.languageOf other ≠ document.languageOf last.language →
      (translated ∨ document.languageOf other = document.defaultLanguage →
        after.textOf last.field other = before.textOf last.field other) ∧
      (¬ translated → document.languageOf other ≠ document.defaultLanguage →
        after.textOf last.field other = [])) ∧
    (∀ field ≠ last.field, after.fields.lookup field = before.fields.lookup field) ∧
    { after with fields := before.fields } = before := by
  intro before after translated
  have languages : before.languageOf = document.languageOf :=
    funext (languageOf_writeAll document writes)
  have own : before.defaultLanguage = document.defaultLanguage :=
    defaultLanguage_writeAll document writes
  have held : before.Translated last.field ↔ translated := translated_writeAll document writes last.field
  have foreign : before.languageOf last.language ≠ before.defaultLanguage := by
    rw [languages, own]
    exact translates
  constructor
  · exact (textOf_setText_of_foreign foreign).trans (if_pos rfl)
  constructor
  · intro other differs
    have kept : after.textOf last.field other =
        ((before.textsByLanguage last.field).lookup (before.languageOf other)).getD [] := by
      apply (textOf_setText_of_foreign foreign).trans
      rw [if_neg (by rwa [languages])]
    constructor
    · intro served
      rw [kept, lookup_textsByLanguage (by rwa [held, languages, own])]
    · intro untranslated elsewhere
      rw [kept, lookup_textsByLanguage_of_untranslated (by rwa [held]) (by rwa [languages, own])]
  constructor
  · intro field differs
    exact lookup_setText_of_ne differs
  · rfl

theorem translation_frame_of_second :
    let document : Document := { id := "A", fields := [("body", .plain "hi".toList)] }
    let first : Write := ⟨"body", "salut".toList, some "fr"⟩
    let last : Write := ⟨"body", "hallo".toList, some "de"⟩
    let after := (document.writeAll [first]).write last
    document.Translates last ∧ after.textOf "body" (some "de") = "hallo".toList ∧
      after.textOf "body" (some "fr") = (document.writeAll [first]).textOf "body" (some "fr") := by
  intro document first last after
  have translates : document.Translates last := by decide +kernel
  obtain ⟨read, others, _, _⟩ := translation_frame document [first] last translates
  have earlier : ∃ given ∈ [first], given.field = last.field ∧ document.Translates given :=
    ⟨first, by simp, rfl, by decide +kernel⟩
  exact ⟨translates, read, (others (some "fr") (by decide +kernel)).1 (Or.inl (Or.inr earlier))⟩

-- The first translation of a text for every language takes it from the languages it is not for.
theorem translation_takes_plain_text :
    let document : Document := { id := "A", fields := [("body", .plain "hi".toList)] }
    let first : Write := ⟨"body", "salut".toList, some "fr"⟩
    document.Translates first ∧
      document.languageOf (some "de") ≠ document.languageOf first.language ∧
      document.textOf "body" (some "de") = "hi".toList ∧
      (document.write first).textOf "body" (some "de") = [] := by
  decide +kernel

end Run

end Transclusion.Document
