import Transclusion.Proofs.Documents

/-!
A document as a value and back. What is written of a document reads as the same document,
as long as no field and no language of a field is there twice and the document has a
language of its own; writing to a field keeps it so.
-/

namespace Transclusion

namespace Value

mutual

/-- Whether two values are the same. -/
def same : Value → Value → Bool
  | .null, .null => true
  | .bool truth, .bool truth' => truth == truth'
  | .int number, .int number' => number == number'
  | .float bits, .float bits' => bits == bits'
  | .text content, .text content' => content == content'
  | .list items, .list items' => sameItems items items'
  | .map entries, .map entries' => sameEntries entries entries'
  | .date day, .date day' => day == day'
  | .moment instant, .moment instant' => instant == instant'
  | _, _ => false

def sameItems : List Value → List Value → Bool
  | [], [] => true
  | item :: rest, item' :: rest' => same item item' && sameItems rest rest'
  | _, _ => false

def sameEntries : List (Value × Value) → List (Value × Value) → Bool
  | [], [] => true
  | (key, item) :: rest, (key', item') :: rest' =>
      same key key' && same item item' && sameEntries rest rest'
  | _, _ => false

end

mutual

theorem same_iff : ∀ first second : Value, same first second = true ↔ first = second
  | .list items, second => by
      cases second with
      | list items' => simp [same, sameItems_iff items items']
      | _ => simp [same]
  | .map entries, second => by
      cases second with
      | map entries' => simp [same, sameEntries_iff entries entries']
      | _ => simp [same]
  | .null, second => by cases second <;> simp [same]
  | .bool _, second => by cases second <;> simp [same]
  | .int _, second => by cases second <;> simp [same]
  | .float _, second => by cases second <;> simp [same]
  | .text _, second => by cases second <;> simp [same]
  | .date _, second => by cases second <;> simp [same]
  | .moment _, second => by cases second <;> simp [same]

theorem sameItems_iff : ∀ first second : List Value, sameItems first second = true ↔ first = second
  | [], second => by cases second <;> simp [sameItems]
  | _ :: _, [] => by simp [sameItems]
  | item :: rest, item' :: rest' => by
      simp [sameItems, same_iff item item', sameItems_iff rest rest']

theorem sameEntries_iff : ∀ first second : List (Value × Value),
    sameEntries first second = true ↔ first = second
  | [], second => by cases second <;> simp [sameEntries]
  | _ :: _, [] => by simp [sameEntries]
  | (key, item) :: rest, (key', item') :: rest' => by
      simp [sameEntries, same_iff key key', same_iff item item', sameEntries_iff rest rest', and_assoc]

end

instance : DecidableEq Value := fun first second => decidable_of_iff _ (same_iff first second)

end Value
namespace Content

/-- No language is there twice. -/
def Sound : Content → Prop
  | .plain _ => True
  | .perLanguage texts => (texts.map (·.1)).Nodup

instance : DecidablePred Sound
  | .plain _ => inferInstanceAs (Decidable True)
  | .perLanguage texts => inferInstanceAs (Decidable (texts.map (·.1)).Nodup)

end Content

namespace Document

/-- No field and no language of a field is there twice, and there is a language of the
document's own. -/
structure Sound (document : Document) : Prop where
  fields : (document.fields.map (·.1)).Nodup
  contents : ∀ entry ∈ document.fields, entry.2.Sound
  language : document.defaultLanguage ≠ ""

instance : DecidablePred Sound := fun document =>
  decidable_of_iff ((document.fields.map (·.1)).Nodup ∧
      (∀ entry ∈ document.fields, entry.2.Sound) ∧ document.defaultLanguage ≠ "")
    ⟨fun ⟨fields, contents, language⟩ => ⟨fields, contents, language⟩,
      fun sound => ⟨sound.fields, sound.contents, sound.language⟩⟩

variable {document : Document}

@[simp] theorem textOfValue_valueOfText (text : Text) : textOfValue (valueOfText text) = text :=
  String.toList_ofList

theorem contentOfValue_valueOfContent {content : Content} (sound : content.Sound) :
    contentOfValue (valueOfContent content) = content := by
  cases content with
  | plain text => exact congrArg Content.plain (textOfValue_valueOfText text)
  | perLanguage texts =>
    have same := Entries.foldl_put_nil (fun entry : String × Text => entry.1) (fun entry => entry.2)
      sound
    rw [valueOfContent, contentOfValue, List.foldl_map]
    simpa [Value.plain] using same

theorem fieldsOfValue_of_sound (sound : document.Sound) :
    fieldsOfValue (document.fields.map fun entry => (.text entry.1, valueOfContent entry.2)) =
      document.fields := by
  have same := Entries.foldl_put_nil (fun entry : String × Content => entry.1)
    (fun entry => contentOfValue (valueOfContent entry.2)) sound.fields
  rw [fieldsOfValue, List.foldl_map]
  refine same.trans ?_
  conv => rhs; rw [← List.map_id document.fields]
  exact List.map_congr_left fun entry member =>
    Prod.ext rfl (contentOfValue_valueOfContent (sound.contents entry member))

/-- What is written of a document reads as the document. -/
theorem ofValue?_toValue (sound : document.Sound) :
    ofValue? document.id document.toValue = some document := by
  have fields : document.toValue.get? "fields" =
      some (.map (document.fields.map fun entry => (.text entry.1, valueOfContent entry.2))) := rfl
  have language : document.toValue.get? "default_language" =
      some (.text document.defaultLanguage) := rfl
  have published : flagAt document.toValue "published" = document.published := rfl
  have viewable : flagAt document.toValue "viewable" = document.viewable := rfl
  have own : (Value.text document.defaultLanguage).isTruthy = true := by
    simpa [Value.isTruthy, String.isEmpty_iff] using sound.language
  simp only [ofValue?, fields, language, published, viewable, own, if_true,
    fieldsOfValue_of_sound sound, Option.map_some]
  rfl

-- All that is read of a document as text is written as text.
theorem isReadable_toValue (document : Document) : isReadable document.toValue = true := by
  have contents : ∀ content, (valueOfContent content).hasText = true := by
    intro content
    cases content with
    | plain text => rfl
    | perLanguage texts =>
      induction texts with
      | nil => rfl
      | cons entry texts ih => exact ih
  have fields : ∀ fields : List (String × Content), Value.entriesHaveText
      (fields.map fun entry => (.text entry.1, valueOfContent entry.2)) = true := by
    intro fields
    induction fields with
    | nil => rfl
    | cons entry fields ih =>
      rw [List.map_cons, Value.entriesHaveText, contents, ih]
      rfl
  have read : document.toValue.get? "fields" =
      some (.map (document.fields.map fun entry => (.text entry.1, valueOfContent entry.2))) := rfl
  have language : document.toValue.get? "default_language" =
      some (.text document.defaultLanguage) := rfl
  simp [isReadable, read, language, Value.hasText, fields]

variable {field : String} {text : Text} {language : Option String}

theorem Sound.setText (sound : document.Sound) : (document.setText field text language).Sound := by
  have kept : ∀ {content : Content}, content.Sound →
      ∀ entry ∈ Entries.put field content document.fields, entry.2.Sound := by
    intro content new entry member
    rcases Entries.mem_put member with same | old
    · exact same ▸ new
    · exact sound.contents entry old
  refine ⟨Entries.nodup_put sound.fields, kept ?_, sound.language⟩
  cases present : document.fields.lookup field with
  | none =>
    dsimp only
    split
    · trivial
    · exact Entries.nodup_put (by simp)
  | some content =>
    cases content with
    | plain base =>
      dsimp only
      split
      · trivial
      · exact Entries.nodup_put (by simp)
    | perLanguage texts =>
      obtain ⟨before, after, parts, _⟩ := List.lookup_eq_some_iff.mp present
      exact Entries.nodup_put (sound.contents (field, .perLanguage texts) (by simp [parts]))

section Kept

variable {documents : List Document}

/-- The ids of documents grow. -/
def Ascending (documents : List Document) : Prop := documents.Pairwise (·.id < ·.id)

instance : DecidablePred Ascending := fun documents =>
  inferInstanceAs (Decidable (documents.Pairwise (·.id < ·.id)))

theorem ids_putInto (present : document.id ∈ documents.map (·.id)) :
    (document.putInto documents).map (·.id) = documents.map (·.id) := by
  induction documents with
  | nil => cases present
  | cons other documents ih =>
    rw [putInto]
    split
    · next same => rw [List.map_cons, List.map_cons, same]
    · next differs =>
      rw [List.map_cons, List.map_cons, ih]
      simpa [Ne.symm differs] using present

end Kept

end Document

end Transclusion
