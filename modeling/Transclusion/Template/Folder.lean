import Transclusion.Engine
import Transclusion.Template.Evaluation
import Transclusion.Template.Reading

/-!
A folder of templates that override blocks. The template of a block is named by a
pattern; without such a template the block keeps its content. Templates are read
anew each time they are used.
-/

namespace Transclusion.Template

def standardPattern : Text := "textblock--\x7bname\x7d.j2".toList

structure Folder where
  root : Path
  pattern : Text := standardPattern

namespace Folder

/-- The names that lead to a template; `none` when they would lead out of the
folder. -/
def namesOf? (name : Text) : Option (List String) :=
  let names := (Path.ofString (String.ofList name)).names
  if names.contains ".." then none else some names

/-- The octets of a template that is there. -/
def find? (folder : Folder) (files : FileTree) (name : Text) : Option (List UInt8) :=
  match namesOf? name with
  | none => none
  | some names =>
      match files.octetsAt { folder.root with names := folder.root.names ++ names } with
      | .ok octets => some octets
      | .error _ => none

def notFound (folder : Folder) (name : Text) : Fault :=
  .notFound name ((namesOf? name).map fun _ => folder.root.toString.toList)

/-- The parts of a template, if nothing speaks against rendering them. -/
def partsOf (octets : List UInt8) : Except Fault (List Part) := do
  let source ← (Text.decode octets).mapError .octets
  let parts ← (readParts source).mapError .source
  match objection? helpers false parts with
  | some fault => throw fault
  | none => return parts

/-- The templates that others insert; `depth` bounds how deep insertions nest. -/
def shelf (folder : Folder) (files : FileTree) : Nat → Shelf
  | 0, _ => throw .tooDeep
  | depth + 1, name =>
      match folder.find? files name with
      | none => throw (folder.notFound name)
      | some octets => do
          let parts ← partsOf octets
          return fun scope => renderParts (folder.shelf files depth) scope parts

/-- How deep insertions may nest. -/
def deepest : Nat := 200

def scopeOf (extra : List (String × Value)) (block value : Text) : Scope :=
  [("name", .ofText block), ("value", .ofText value), ("format_text", .formatter)] ++
    extra.map fun entry => (entry.1, .ofValue entry.2)

/-- The fault of a name that every template has and that is given once more. -/
def doubleName? (extra : List (String × Value)) : Option Fault :=
  if extra.any (·.1 == "name") then
    some (.mismatch
      "jinja2.environment.Template.render() got multiple values for keyword argument 'name'")
  else none

/-- A fault of the template itself is one of the override; others pass through. -/
def overrideFault (block template : Text) (fault : Fault) : Transclusion.Fault :=
  if fault.isOfTemplate then .override block template fault else .template fault

/-- The name of a block's template. -/
def templateName (folder : Folder) (block : Text) : Except Transclusion.Fault Text :=
  (NamePattern.apply folder.pattern block).mapError .pattern

/-- What the folder gives for a block. Templates see the block's name and content,
and may ask to have texts formatted. -/
def override (folder : Folder) (extra : List (String × Value)) : Override :=
  fun files block value =>
    match folder.templateName block with
    | .error fault => .done (.error fault)
    | .ok template =>
        match folder.find? files template with
        | none => .done (.ok none)
        | some octets =>
            match partsOf octets, doubleName? extra with
            | .error fault, _ => .done (.error (.template fault))
            | .ok _, some fault => .done (.error (.template fault))
            | .ok parts, none => do
                let rendered ←
                  (renderParts (folder.shelf files deepest) (scopeOf extra block value) parts).run
                match rendered with
                | .ok text => return .ok (some ⟨template, text⟩)
                | .error fault => return .error (overrideFault block template fault)

end Folder

end Transclusion.Template
