import Transclusion.Proofs.LoadedDocuments
import Transclusion.Proofs.Yaml.RecordReads

/-!
What becomes of a document that is written and read. Its texts and names are settled in the styles
that are chosen for them, which changes next-line characters that are not between double quotes;
nothing else about it changes.
-/

namespace Transclusion

namespace Yaml

variable {isKey : Bool} {text run : Text} {content : String}

/-- A text that is read as it is: no next-line character in it is outside of double quotes. -/
def Lasts (isKey : Bool) (content : String) : Prop :=
  '\u0085' ∈ content.toList → (Leaf.ofText content).style isKey = .double

instance (isKey : Bool) (content : String) : Decidable (Lasts isKey content) :=
  inferInstanceAs (Decidable (_ → _))

theorem settledBreak_ne (c : Char) : settledBreak c ≠ '\u0085' := by
  rw [settledBreak]
  split
  · decide
  · assumption

theorem not_mem_settledBreaks (text : Text) : '\u0085' ∉ text.map settledBreak := by
  intro member
  obtain ⟨c, _, same⟩ := List.mem_map.mp member
  exact settledBreak_ne c same

theorem map_settledBreak (absent : '\u0085' ∉ text) : text.map settledBreak = text := by
  conv => rhs; rw [← List.map_id text]
  refine List.map_congr_left fun c member => ?_
  have other : c ≠ '\u0085' := fun same => absent (same ▸ member)
  simp [settledBreak, other]

theorem settledRun_of_word (noEnd : ∀ c ∈ run.head?, isBreak c = false) : settledRun run = run := by
  rw [settledRun, if_neg]
  cases first : run.head? with
  | none => simp
  | some c => simp [noEnd c first]

theorem not_mem_settledRun (noEnd : ∀ c ∈ run.head?, isBreak c = false → '\u0085' ∉ run) :
    '\u0085' ∉ settledRun run := by
  cases run with
  | nil => decide
  | cons c run =>
    cases isEnd : isBreak c with
    | false =>
      rw [settledRun_of_word (by simpa using isEnd)]
      exact noEnd c rfl isEnd
    | true =>
      rw [settledRun, List.head?_cons, Option.map_some, Option.getD_some, if_pos isEnd]
      generalize foldedEnds (c :: run) = ends
      cases ends with
      | nil => decide
      | cons first more =>
        have settled := settledBreak_ne first
        rw [settledBreaks, List.mem_append, not_or]
        refine ⟨?_, not_mem_settledBreaks more⟩
        split
        · split <;> decide
        · simpa using settled.symm

theorem settledRun_eq (noFeed : '\n' ∉ run) (absent : '\u0085' ∉ run) : settledRun run = run := by
  cases run with
  | nil => rfl
  | cons c run =>
    simp only [List.mem_cons, not_or] at noFeed absent
    cases isEnd : isBreak c with
    | false => exact settledRun_of_word (by simpa using isEnd)
    | true =>
      have same : settledBreak c = c := by simp [settledBreak, Ne.symm absent.1]
      have folded : foldedEnds (c :: run) = c :: run := by simp [foldedEnds, Ne.symm noFeed.1]
      rw [settledRun, List.head?_cons, Option.map_some, Option.getD_some, if_pos isEnd, folded, settledBreaks,
        same, if_neg (Ne.symm noFeed.1), map_settledBreak absent.2, List.singleton_append]

theorem not_mem_of_parts {runs : List Text} (parts : Parts runs) : ∀ run ∈ runs,
    ∀ c ∈ run.head?, isBreak c = false → '\u0085' ∉ run := by
  induction parts with
  | nil => simp
  | word _ solid _ _ ih =>
    refine List.forall_mem_cons.mpr ⟨fun _ _ _ member => ?_, ih⟩
    exact nomatch solid _ member
  | gap _ blank _ _ ih =>
    refine List.forall_mem_cons.mpr ⟨fun c first noEnd member => ?_, ih⟩
    rcases blank with spaces | ends
    · exact nomatch spaces _ member
    · rw [ends c (List.mem_of_mem_head? first)] at noEnd
      exact nomatch noEnd

theorem noFeed_of_single (single : (Leaf.ofText content).style isKey = .single) :
    '\n' ∉ content.toList := by
  rw [Leaf.style] at single
  split at single
  · cases single
  · split at single
    · cases single
    · split at single
      · next chosen =>
        simp only [Leaf.ofText, Bool.and_eq_true, Bool.not_eq_true'] at chosen
        simpa using chosen.1.1
      · cases single

/-- What is read of a text in the style that is chosen for it is the text, unless a next-line
character is lost. -/
theorem settled_eq_iff :
    (Leaf.ofText content).settled isKey = content.toList ↔ Lasts isKey content := by
  rw [Leaf.settled, Lasts]
  cases chosen : (Leaf.ofText content).style isKey with
  | plain =>
    have bare := bare_of_plain (filled_text content isKey chosen) (Leaf.shape_of_plain chosen)
    refine iff_of_true rfl fun member => ?_
    cases bare.noEnd _ member
  | double => exact iff_of_true rfl fun _ => rfl
  | literal =>
    constructor
    · intro same member
      refine (not_mem_settledBreaks content.toList ?_).elim
      rwa [show content.toList.map settledBreak = content.toList from same]
    · refine fun lasts => map_settledBreak fun member => ?_
      cases lasts member
  | single =>
    have parts := (orderly_of_single (Leaf.shape_of_single chosen)).parts
    have whole : (Sheet.runs content.toList).flatten = content.toList := List.flatten_splitBy _ _
    constructor
    · intro same member
      rw [← show _ = content.toList from same] at member
      obtain ⟨run, inRuns, inRun⟩ := List.mem_flatMap.mp member
      exact (not_mem_settledRun (not_mem_of_parts parts run inRuns) inRun).elim
    · intro lasts
      have inside : ∀ run ∈ Sheet.runs content.toList, ∀ c ∈ run, c ∈ content.toList := by
        intro run inRuns c inRun
        rw [← whole]
        exact List.mem_flatten.mpr ⟨run, inRuns, inRun⟩
      have unchanged : ∀ run ∈ Sheet.runs content.toList, settledRun run = run := by
        intro run inRuns
        apply settledRun_eq
        · exact fun feed => noFeed_of_single chosen (inside run inRuns _ feed)
        · intro lost
          cases lasts (inside run inRuns _ lost)
      show (Sheet.runs content.toList).flatMap settledRun = content.toList
      rw [List.flatMap_def, List.map_congr_left unchanged, List.map_id', whole]

theorem settledRun_ne_nil (present : run ≠ []) : settledRun run ≠ [] := by
  obtain ⟨c, run, rfl⟩ := List.exists_cons_of_ne_nil present
  rw [settledRun]
  split
  · have folded : ∃ first more, foldedEnds (c :: run) = first :: more := by
      rw [foldedEnds]
      split <;> exact ⟨_, _, rfl⟩
    obtain ⟨first, more, same⟩ := folded
    rw [same, settledBreaks]
    cases more with
    | nil => split <;> simp
    | cons second more => simp
  · exact present

theorem settled_ne_nil (present : content ≠ "") : (Leaf.ofText content).settled isKey ≠ [] := by
  have filled : content.toList ≠ [] := by simpa using present
  rw [Leaf.settled]
  cases chosen : (Leaf.ofText content).style isKey with
  | plain => exact filled
  | double => exact filled
  | literal =>
    show content.toList.map settledBreak ≠ []
    simpa using filled
  | single =>
    have parts : Parts (Sheet.runs content.toList) :=
      (orderly_of_single (Leaf.shape_of_single chosen)).parts
    have whole : (Sheet.runs content.toList).flatten = content.toList := List.flatten_splitBy _ _
    show (Sheet.runs content.toList).flatMap settledRun ≠ []
    generalize Sheet.runs content.toList = runs at parts whole
    cases parts with
    | nil => exact absurd whole.symm filled
    | word present _ _ _ => simp [settledRun_ne_nil present]
    | gap present _ _ _ => simp [settledRun_ne_nil present]

/-- A text as it is read where it is an item, and a name where it is a key. -/
def textBack (text : Text) : Text := (Leaf.ofText (String.ofList text)).settled false

def nameBack (name : String) : String :=
  String.ofList ((Leaf.ofText name).settled (Leaf.ofText name).isShortKey)

theorem textBack_eq_iff : textBack text = text ↔ Lasts false (String.ofList text) := by
  rw [← settled_eq_iff, String.toList_ofList]
  rfl

theorem nameBack_eq_iff {name : String} :
    nameBack name = name ↔ Lasts (Leaf.ofText name).isShortKey name := by
  rw [← settled_eq_iff, nameBack, ← String.toList_inj, String.toList_ofList]

end Yaml

namespace Value

theorem assign_text (key : String) (item : Value) (entries : List (String × Value)) :
    assign (.text key) item (entries.map fun entry => (.text entry.1, entry.2)) =
      (Entries.put key item entries).map fun entry => (.text entry.1, entry.2) := by
  induction entries with
  | nil => rfl
  | cons entry entries ih =>
    have same : sameKey (.text entry.1) (.text key) = (entry.1 == key) := rfl
    rw [List.map_cons, assign, Entries.put, same]
    split <;> simp [ih]

/-- A map whose keys are texts keeps the items that entries of the keys keep. -/
theorem ofEntries_text {Source Item : Type} (key : Source → String) (item : Source → Item)
    (write : Item → Value) (sources : List Source) :
    ofEntries (sources.map fun source => (.text (key source), write (item source))) =
      .map ((Entries.collect key item sources []).map fun entry => (.text entry.1, write entry.2)) := by
  have step : ∀ before : List (String × Value),
      (sources.map fun source => (Value.text (key source), write (item source))).foldl
          (fun found entry => assign entry.1 entry.2 found)
          (before.map fun entry => (Value.text entry.1, entry.2)) =
        (Entries.collect key (fun source => write (item source)) sources before).map fun entry =>
          (.text entry.1, entry.2) := by
    induction sources with
    | nil => exact fun _ => rfl
    | cons source sources ih =>
      intro before
      rw [List.map_cons, List.foldl_cons, assign_text, ih, Entries.collect_cons]
  have written := @Entries.map_collect _ _ _ _ _ key item sources [] write
  refine congrArg Value.map ((step []).trans ?_)
  rw [show [] = [].map fun entry : String × Item => (entry.1, write entry.2) from rfl, ← written, List.map_map]
  rfl

end Value

namespace Yaml.Record

variable {Source : Type} (key : Source → String) (item : Source → Record) (sources : List Source)

theorem entryValues_map : entryValues (sources.map fun source => (key source, item source)) =
    sources.map fun source => (.text (key source), (item source).value) := by
  induction sources with
  | nil => rfl
  | cons source sources ih => rw [List.map_cons, entryValues, ih, List.map_cons]

theorem entriesBack_cons (name : String) (item : Record) (rest : List (String × Record)) :
    entriesBack ((name, item) :: rest) = (.text (nameBack name), item.readBack) :: entriesBack rest := by
  rw [entriesBack, nameBack]

theorem entriesBack_map : entriesBack (sources.map fun source => (key source, item source)) =
    sources.map fun source => (.text (nameBack (key source)), (item source).readBack) := by
  induction sources with
  | nil => rfl
  | cons source sources ih =>
    rw [List.map_cons, entriesBack_cons, ih, List.map_cons]

theorem entriesFit_map {column : Nat} :
    EntriesFit (sources.map fun source => (key source, item source)) column ↔ ∀ source ∈ sources,
      (column + 2 < Sheet.widest ∧ Keyable (key source)) ∧ (item source).Fits column := by
  induction sources with
  | nil => simp [EntriesFit]
  | cons source sources ih => rw [List.map_cons, EntriesFit, ih, List.forall_mem_cons, ← and_assoc]

end Yaml.Record

open Yaml

namespace Content

/-- What is read back of the content of a field. -/
def settled : Content → Content
  | .plain text => .plain (textBack text)
  | .perLanguage texts =>
      .perLanguage (Entries.collect (fun entry => nameBack entry.1) (fun entry => textBack entry.2) texts [])

/-- All texts of the field, and what their languages are called, are read as they are. -/
def Lasting : Content → Prop
  | .plain text => Lasts false (String.ofList text)
  | .perLanguage texts => ∀ entry ∈ texts,
      Lasts (Leaf.ofText entry.1).isShortKey entry.1 ∧ Lasts false (String.ofList entry.2)

/-- No language is longer than a key may be. -/
def Fits : Content → Prop
  | .plain _ => True
  | .perLanguage texts => ∀ entry ∈ texts, Keyable entry.1

instance : DecidablePred Lasting
  | .plain text => inferInstanceAs (Decidable (Lasts false (String.ofList text)))
  | .perLanguage texts => inferInstanceAs (Decidable (∀ entry ∈ texts, _ ∧ _))

instance : DecidablePred Fits
  | .plain _ => inferInstanceAs (Decidable True)
  | .perLanguage texts => inferInstanceAs (Decidable (∀ entry ∈ texts, Keyable entry.1))

def record : Content → Yaml.Record
  | .plain text => .text (String.ofList text)
  | .perLanguage texts => .map (texts.map fun entry => (entry.1, .text (String.ofList entry.2)))

variable {content : Content}

theorem sound_settled (content : Content) : content.settled.Sound := by
  cases content with
  | plain text => trivial
  | perLanguage texts => exact Entries.nodup_collect List.nodup_nil

theorem settled_eq_iff (sound : content.Sound) : content.settled = content ↔ content.Lasting := by
  cases content with
  | plain text => rw [settled, plain.injEq, textBack_eq_iff, Lasting]
  | perLanguage texts =>
    rw [settled, perLanguage.injEq, Entries.collect_eq_self_iff sound, Lasting]
    simp only [nameBack_eq_iff, textBack_eq_iff]

theorem readBack_text (text : Text) :
    (Record.text (String.ofList text)).readBack = Document.valueOfText (textBack text) := by
  rw [Record.readBack, textBack, Document.valueOfText]

theorem value_record (content : Content) : content.record.value = Document.valueOfContent content := by
  cases content with
  | plain text => rfl
  | perLanguage texts =>
    rw [record, Record.value, Record.entryValues_map]
    rfl

theorem readBack_record (content : Content) :
    content.record.readBack = Document.valueOfContent content.settled := by
  cases content with
  | plain text => exact readBack_text text
  | perLanguage texts =>
    rw [record, Record.readBack, Record.entriesBack_map]
    simp only [readBack_text, settled, Document.valueOfContent, ← Value.ofEntries_text]

end Content

namespace Document

/-- What is read back of a document. -/
def settled (document : Document) : Document :=
  { document with
    fields := Entries.collect (fun field => nameBack field.1) (fun field => field.2.settled)
      document.fields []
    defaultLanguage := String.ofList ((Leaf.ofText document.defaultLanguage).settled false) }

/-- All texts and names of the document are read as they are. -/
structure Lasting (document : Document) : Prop where
  language : Lasts false document.defaultLanguage
  fields : ∀ field ∈ document.fields,
    Lasts (Leaf.ofText field.1).isShortKey field.1 ∧ field.2.Lasting

/-- No field and no language of a field is longer than a key may be. -/
def Fits (document : Document) : Prop :=
  ∀ field ∈ document.fields, Keyable field.1 ∧ field.2.Fits

instance : DecidablePred Lasting := fun document =>
  decidable_of_iff (Lasts false document.defaultLanguage ∧ ∀ field ∈ document.fields,
      Lasts (Leaf.ofText field.1).isShortKey field.1 ∧ field.2.Lasting)
    ⟨fun ⟨language, fields⟩ => ⟨language, fields⟩, fun lasting => ⟨lasting.language, lasting.fields⟩⟩

instance : DecidablePred Fits := fun document =>
  inferInstanceAs (Decidable (∀ field ∈ document.fields, Keyable field.1 ∧ field.2.Fits))

def entries (document : Document) : List (String × Yaml.Record) :=
  [("published", .flag document.published), ("viewable", .flag document.viewable),
   ("default_language", .text document.defaultLanguage),
   ("fields", .map (document.fields.map fun field => (field.1, field.2.record)))]

variable {document : Document}

theorem Sound.settled (sound : document.Sound) : document.settled.Sound := by
  refine ⟨Entries.nodup_collect List.nodup_nil, ?_, fun empty => ?_⟩
  · exact Entries.forall_mem_collect (fun field _ => field.2.sound_settled) (by simp)
  · exact settled_ne_nil sound.language (by simpa [Document.settled] using empty)

theorem settled_eq_iff (sound : document.Sound) : document.settled = document ↔ document.Lasting := by
  have language : (document.settled.defaultLanguage = document.defaultLanguage) ↔
      Lasts false document.defaultLanguage := by
    rw [← Yaml.settled_eq_iff, ← String.toList_inj, Document.settled, String.toList_ofList]
  have fields : document.settled.fields = document.fields ↔ ∀ field ∈ document.fields,
      Lasts (Leaf.ofText field.1).isShortKey field.1 ∧ field.2.Lasting := by
    rw [Document.settled, Entries.collect_eq_self_iff sound.fields]
    refine forall₂_congr fun field member => ?_
    rw [nameBack_eq_iff, Content.settled_eq_iff (sound.contents field member)]
  constructor
  · intro same
    exact ⟨language.mp (by rw [same]), fields.mp (by rw [same])⟩
  · intro lasting
    have parts : document.settled =
        { document with
          fields := document.settled.fields, defaultLanguage := document.settled.defaultLanguage } := rfl
    rw [parts, fields.mpr lasting.fields, language.mpr lasting.language]

theorem value_entries (document : Document) : (Record.map document.entries).value = document.toValue := by
  have fields : (Record.map (document.fields.map fun field => (field.1, field.2.record))).value =
      .map (document.fields.map fun field => (.text field.1, valueOfContent field.2)) := by
    rw [Record.value, Record.entryValues_map]
    simp only [Content.value_record]
  rw [entries, Record.value]
  simp only [Record.entryValues, fields]
  rfl

theorem readBack_entries (document : Document) :
    (Record.map document.entries).readBack = document.settled.toValue := by
  have fields : (Record.map (document.fields.map fun field => (field.1, field.2.record))).readBack =
      .map (document.settled.fields.map fun field => (.text field.1, valueOfContent field.2)) := by
    rw [Record.readBack, Record.entriesBack_map]
    simp only [Content.readBack_record, settled, ← Value.ofEntries_text]
  have names : nameBack "published" = "published" ∧ nameBack "viewable" = "viewable" ∧
      nameBack "default_language" = "default_language" ∧ nameBack "fields" = "fields" := by
    decide +kernel
  have flag : ∀ isSet, (Record.flag isSet).readBack = .bool isSet := fun _ => by rw [Record.readBack]
  have text : (Record.text document.defaultLanguage).readBack = .text document.settled.defaultLanguage := by
    rw [Record.readBack, settled]
  have last : Record.entriesBack [] = [] := rfl
  rw [entries, Record.readBack]
  simp only [Record.entriesBack_cons, last, names, flag, text, fields]
  rfl

theorem Fits.entriesFit (fits : document.Fits) : Record.EntriesFit document.entries 0 := by
  have room : ∀ column ≤ 4, column + 2 < Sheet.widest := by decide
  have constants : Keyable "published" ∧ Keyable "viewable" ∧ Keyable "default_language" ∧ Keyable "fields" := by
    decide +kernel
  have contents : ∀ field ∈ document.fields, field.2.record.Fits 2 := by
    intro field member
    have inside := (fits field member).2
    cases same : field.2 with
    | plain text =>
      rw [Content.record, Record.Fits]
      exact room 2 (by decide)
    | perLanguage texts =>
      rw [same] at inside
      rw [Content.record, Record.Fits, Record.entriesFit_map]
      intro entry within
      rw [Record.Fits]
      exact ⟨⟨room 4 (by decide), inside entry within⟩, room 4 (by decide)⟩
  have fields :
      Record.EntriesFit (document.fields.map fun field => (field.1, field.2.record)) 2 := by
    rw [Record.entriesFit_map]
    exact fun field member => ⟨⟨room 2 (by decide), (fits field member).1⟩, contents field member⟩
  have wide := room 0 (by decide)
  rw [entries]
  simp only [Record.EntriesFit, Record.Fits]
  exact ⟨⟨wide, constants.1⟩, wide, ⟨wide, constants.2.1⟩, wide, ⟨wide, constants.2.2.1⟩, wide,
    ⟨wide, constants.2.2.2⟩, fields, trivial⟩

/-- What is written of a document reads as the settled document. -/
theorem Fits.read_write (fits : document.Fits) :
    Yaml.read (Yaml.write document.toValue).toList none = .ok document.settled.toValue := by
  rw [← value_entries, ← readBack_entries]
  exact Yaml.read_write (by simp [entries]) fits.entriesFit

end Document

end Transclusion
