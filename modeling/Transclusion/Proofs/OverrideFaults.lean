import Transclusion.Proofs.FailedSaves
import Transclusion.Proofs.Template.TameTemplates

/-!
What an override fails with. Faults of the template itself are told as faults of the override. What
comes of the name pattern, of reading the template and of the values it works on is not; and it
cannot come of a plain pattern and a tame template.
-/

namespace Transclusion

namespace Template

namespace NamePattern

def isBraceless (text : Text) : Bool := text.all fun c => c != '\x7b' && c != '\x7d'

/-- Text without braces around the one field of the block name. -/
structure Plain (pattern before after : Text) : Prop where
  pattern : pattern = before ++ ('\x7b' :: fieldName ++ '\x7d' :: after)
  before : isBraceless before = true
  after : isBraceless after = true

theorem scan_text {text : Text} (braceless : isBraceless text = true) (seen rest : Text) :
    scan (.text seen) (text ++ rest) = scan (.text (text.reverse ++ seen)) rest := by
  induction text generalizing seen with
  | nil => rfl
  | cons c text ih =>
    simp only [isBraceless, List.all_cons, Bool.and_eq_true, bne_iff_ne] at braceless
    obtain ⟨⟨notOpening, notClosing⟩, braceless⟩ := braceless
    have step : scan (.text seen) (c :: (text ++ rest)) =
        scan (.text (c :: seen)) (text ++ rest) := by
      rw [scan]
      all_goals simp_all
    rw [List.cons_append, step, ih braceless]
    simp

/-- A plain pattern stands for the block name between its texts. -/
theorem Plain.apply_eq {pattern before after : Text} (plain : Plain pattern before after)
    (block : Text) : apply pattern block = .ok (before ++ block ++ after) := by
  have last : scan (.text []) after = { pieces := [.text after] } := by
    have scanned := scan_text plain.after [] []
    rw [List.append_nil, List.append_nil] at scanned
    rw [scanned, scan, List.reverse_reverse]
  have scanned : scan (.text []) pattern =
      { pieces := [.text before, .field { path := fieldName }, .text after] } := by
    rw [plain.pattern, scan_text plain.before]
    simp [scan, fieldName, last, Pieces.cons]
  have noPosition : position? fieldName = .ok none := by decide
  have whole : fieldName.takeWhile (fun c => !endsPart c) = fieldName := by decide
  have ended : fieldName.dropWhile (fun c => !endsPart c) = [] := by decide
  have found : lookUp block fieldName = .ok (.word block) := by
    rw [lookUp, whole, ended, noPosition]
    show follow (.word block) [] = .ok (.word block)
    rw [follow]
  rw [apply, expand, scanned, joinPieces]
  simp only [List.mapM_cons, List.mapM_nil, found]
  show Except.ok (List.flatten [before, block, after]) = _
  simp

end NamePattern

namespace Folder

variable {folder : Folder} {files : FileTree} {extra : List (String × Value)} {block value : Text}
  {format : Text → Act Archive Text} {session : Session Archive}

/-- What an override comes to when texts are formatted in a session. -/
def outcome (folder : Folder) (extra : List (String × Value)) (files : FileTree)
    (block value : Text) (format : Text → Act Archive Text) (session : Session Archive) :
    Except Transclusion.Fault (Option Overridden) :=
  (((folder.override extra files block value).run format).run session).1

/-- What is told of a rendering. -/
def told (block template : Text) : Except Fault Text → Except Transclusion.Fault (Option Overridden)
  | .ok text => .ok (some ⟨template, text⟩)
  | .error fault => .error (overrideFault block template fault)

section Read

variable {template : Text} {octets : List UInt8} {parts : List Part}
  (named : folder.templateName block = .ok template)
  (there : folder.find? files template = some octets)

include named there

variable (reads : partsOf octets = .ok parts)

include reads

end Read

end Folder

end Template

/-- The archive answers every query. -/
structure Archive.Healthy (archive : Archive) : Prop where
  answers : ∀ query, archive.refuses query = false
  documents : ∃ documents, archive.documents = .ok documents

theorem Archive.Healthy.beside {session after : Session Archive} (healthy : session.store.Healthy)
    (beside : session.Beside after) : after.store.Healthy := by
  obtain ⟨queries, records, rfl⟩ := beside
  exact ⟨healthy.answers, healthy.documents⟩

namespace Engine

variable {engine : Engine} {lookup : Lookup} {name : Text} {fields : List String}
  {session after : Session Archive} {fault : Fault}

end Engine

end Transclusion
