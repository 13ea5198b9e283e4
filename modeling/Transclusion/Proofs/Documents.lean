import Transclusion.Archive
import Transclusion.Proofs.Entries

/-!
What writing to a document and keeping it changes: the texts of one field grow by the
text written at most, and no other document is touched.
-/

namespace Transclusion

namespace Document

variable {document other : Document} {field : String} {text : Text} {language : Option String}

theorem lookup_setText_of_ne {wanted : String} (differs : wanted ≠ field) :
    (document.setText field text language).fields.lookup wanted = document.fields.lookup wanted := by
  simp only [setText]
  rw [Entries.lookup_put, if_neg (by simpa using differs)]

theorem textsOf_setText_of_ne {wanted : String} (differs : wanted ≠ field) :
    (document.setText field text language).textsOf wanted = document.textsOf wanted := by
  simp only [textsOf, lookup_setText_of_ne differs]

theorem textsOf_setText : (document.setText field text language).textsOf field =
    match document.fields.lookup field with
    | some (.perLanguage texts) =>
        (Entries.put (document.languageOf language) text texts).map (·.2)
    | present =>
        if document.languageOf language = document.defaultLanguage then [text]
        else (Entries.put (document.languageOf language) text
          [(document.defaultLanguage,
            match present with
            | some (.plain base) => base
            | _ => [])]).map (·.2) := by
  simp only [textsOf, setText, Entries.lookup_put, beq_self_eq_true, if_true]
  -- a plain field turns into texts by language when another language is written
  by_cases own : document.languageOf language = document.defaultLanguage
  · cases document.fields.lookup field with
    | none => simp [own]
    | some content =>
      cases content with
      | plain base => simp [own]
      | perLanguage texts => rfl
  · cases document.fields.lookup field with
    | none => simp [own]
    | some content =>
      cases content with
      | plain base => simp [own]
      | perLanguage texts => rfl

-- The texts of the field that is written to: those it had, the text written, and an empty
-- text where the document's own language had none.
theorem mem_textsOf_setText {found : Text}
    (member : found ∈ (document.setText field text language).textsOf field) :
    found = text ∨ found = [] ∨ found ∈ document.textsOf field := by
  rw [textsOf_setText] at member
  cases present : document.fields.lookup field with
  | none =>
    simp only [present] at member
    split at member
    · exact Or.inl (List.mem_singleton.mp member)
    · obtain ⟨entry, inside, rfl⟩ := List.mem_map.mp member
      rcases Entries.mem_put inside with same | base
      · exact Or.inl same
      · rw [List.mem_singleton.mp base]
        exact Or.inr (Or.inl rfl)
  | some content =>
    cases content with
    | plain base =>
      simp only [present] at member
      split at member
      · exact Or.inl (List.mem_singleton.mp member)
      · obtain ⟨entry, inside, rfl⟩ := List.mem_map.mp member
        rcases Entries.mem_put inside with same | old
        · exact Or.inl same
        · rw [List.mem_singleton.mp old]
          exact Or.inr (Or.inr (by simp [textsOf, present]))
    | perLanguage texts =>
      simp only [present] at member
      obtain ⟨entry, inside, rfl⟩ := List.mem_map.mp member
      rcases Entries.mem_put inside with same | old
      · exact Or.inl same
      · right
        right
        simp only [textsOf, present]
        exact List.mem_map_of_mem old

theorem text_mem_textsOf_setText :
    text ∈ (document.setText field text language).textsOf field := by
  have written : ∀ texts : List (String × Text),
      text ∈ (Entries.put (document.languageOf language) text texts).map (·.2) := by
    intro texts
    obtain ⟨entry, member, same⟩ :=
      Entries.exists_mem_put (document.languageOf language) text texts
    exact List.mem_map.mpr ⟨entry, member, same⟩
  rw [textsOf_setText]
  split
  · exact written _
  · split
    · simp
    · exact written _

section Kept

variable {documents : List Document}

/-- No two documents have one id. -/
def Distinct (documents : List Document) : Prop := (documents.map (·.id)).Nodup

theorem mem_putInto (distinct : Distinct documents) :
    other ∈ document.putInto documents ↔
      other = document ∨ (other ∈ documents ∧ other.id ≠ document.id) := by
  induction documents with
  | nil => simp [putInto]
  | cons first documents ih =>
    obtain ⟨fresh, distinct⟩ := List.nodup_cons.mp distinct
    simp only [putInto]
    split
    · next same =>
      have apart : ∀ later ∈ documents, later.id ≠ document.id := by
        intro later member equal
        exact fresh (List.mem_map.mpr ⟨later, member, equal.trans same.symm⟩)
      constructor
      · intro member
        rcases List.mem_cons.mp member with rfl | later
        · exact Or.inl rfl
        · exact Or.inr ⟨by simp [later], apart other later⟩
      · rintro (rfl | ⟨member, differs⟩)
        · simp
        · rcases List.mem_cons.mp member with rfl | later
          · exact absurd same differs
          · simp [later]
    · next differs =>
      rw [List.mem_cons, ih distinct, List.mem_cons]
      constructor
      · rintro (rfl | rfl | ⟨later, apart⟩)
        · exact Or.inr ⟨Or.inl rfl, differs⟩
        · exact Or.inl rfl
        · exact Or.inr ⟨Or.inr later, apart⟩
      · rintro (rfl | ⟨rfl | later, apart⟩)
        · exact Or.inr (Or.inl rfl)
        · exact Or.inl rfl
        · exact Or.inr (Or.inr ⟨later, apart⟩)

theorem distinct_putInto (distinct : Distinct documents) : Distinct (document.putInto documents) := by
  induction documents with
  | nil => simp [putInto, Distinct]
  | cons first documents ih =>
    obtain ⟨fresh, rest⟩ := List.nodup_cons.mp distinct
    simp only [putInto]
    split
    · next same =>
      have absent : document.id ∉ documents.map (·.id) := same ▸ fresh
      exact List.nodup_cons.mpr ⟨absent, rest⟩
    · next differs =>
      refine List.nodup_cons.mpr ⟨?_, ih rest⟩
      intro member
      obtain ⟨later, inside, equal⟩ := List.mem_map.mp member
      rcases (mem_putInto rest).mp inside with rfl | ⟨old, _⟩
      · exact differs equal.symm
      · exact fresh (List.mem_map.mpr ⟨later, old, equal⟩)

theorem find?_putInto_of_ne {id : String} (differs : document.id ≠ id) :
    (document.putInto documents).find? (fun other => other.id == id) =
      documents.find? fun other => other.id == id := by
  induction documents with
  | nil => simp [putInto, differs]
  | cons first documents ih =>
    simp only [putInto]
    split
    · next same => simp [differs, same]
    · rw [List.find?_cons, List.find?_cons, ih]

-- `blank` stands in for the document that was not there.
theorem any_putInto {test : Document → Bool} {blank : Document} (calm : test blank = false)
    (same : test ((documents.find? fun other => other.id == document.id).getD blank) =
      test document) : (document.putInto documents).any test = documents.any test := by
  induction documents with
  | nil => simpa [putInto, calm] using same.symm
  | cons first documents ih =>
    simp only [putInto]
    split
    · next here =>
      have found : test first = test document := by simpa [here] using same
      rw [List.any_cons, List.any_cons, found]
    · next differs =>
      rw [List.any_cons, List.any_cons, ih (by simpa [differs] using same)]

-- Where none of the two is there, the order in which they come would show.
theorem putInto_comm (differs : document.id ≠ other.id)
    (stored : ∃ old ∈ documents, old.id = document.id ∨ old.id = other.id) :
    document.putInto (other.putInto documents) = other.putInto (document.putInto documents) := by
  induction documents with
  | nil =>
    obtain ⟨old, none, _⟩ := stored
    cases none
  | cons first documents ih =>
    by_cases here : first.id = document.id
    · simp [putInto, here, differs]
    · by_cases there : first.id = other.id
      · simp [putInto, there, differs.symm]
      · have later : ∃ old ∈ documents, old.id = document.id ∨ old.id = other.id := by
          obtain ⟨old, member, same⟩ := stored
          rcases List.mem_cons.mp member with rfl | inside
          · exact absurd same (by simp [here, there])
          · exact ⟨old, inside, same⟩
        simp [putInto, here, there, ih later]

end Kept

end Document

end Transclusion
