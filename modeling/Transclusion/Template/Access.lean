import Transclusion.Template.Operation

/-!
Parts and items of an item. What is asked for and is not there has no value, which is
no fault yet.
-/

namespace Transclusion.Template

/-- What a loop tells about its round. -/
def roundPart? (place : Nat) (walked : List Item) : String → Option Item
  | "index" => some (.ofNat (place + 1))
  | "index0" => some (.ofNat place)
  | "revindex" => some (.ofNat (walked.length - place))
  | "revindex0" => some (.ofNat (walked.length - place - 1))
  | "first" => some (.ofBool (place == 0))
  | "last" => some (.ofBool (place + 1 == walked.length))
  | "length" => some (.ofNat walked.length)
  | "depth" => some (.ofNat 1)
  | "depth0" => some (.ofNat 0)
  | "previtem" =>
      some
        (match place with
         | 0 => .missing (.noted "there is no previous item")
         | before + 1 => walked.getD before .nothing)
  | "nextitem" => some (walked.getD (place + 1) (.missing (.noted "there is no next item")))
  | _ => none

/-- The operation of an item under a name, or a part of a loop's round. -/
def member? (owner : Item) (name : String) : Option Item :=
  match owner with
  | .scalar (.text _) =>
      if Operation.ofTexts.contains name then some (.operation owner name) else none
  | .map _ => if Operation.ofMaps.contains name then some (.operation owner name) else none
  | .round place walked => roundPart? place walked name
  | _ => none

def absentPart (owner : Item) (name : String) : Item := .missing (.part owner.owner name)

def absentItem (owner index : Item) : Item := .missing (.item owner.owner index.shown)

/-- A part by its name; operations come before the entries of a map. -/
def partOf (owner : Item) (name : String) : Outcome Item := do
  let owner ← owner.settled
  match member? owner name, owner with
  | some item, _ => return item
  | none, .map entries =>
      return (Item.at? entries (.scalar (.text name))).getD (absentPart owner name)
  | none, _ => return absentPart owner name

/-- The place of an index in a sequence; negative ones count from the end. -/
def place? (length : Nat) (index : Int) : Option Nat :=
  if 0 ≤ index then (if index.toNat < length then some index.toNat else none)
  else if index.natAbs ≤ length then some (length - index.natAbs) else none

/-- An item of a map; entries come before operations. -/
def entryOf (owner : Item) (entries : List (Item × Item)) (key : Item) : Outcome Item :=
  match Item.asKey key, Item.at? entries key, key with
  | .error (.missing what), _, _ => throw (.missing what)
  | .error _, _, _ => return absentItem owner key
  | .ok _, some item, _ => return item
  | .ok _, none, .scalar (.text name) => return (member? owner name).getD (absentPart owner name)
  | .ok _, none, _ => return absentItem owner key

/-- An item by its index. A name as the index of anything but a map asks for a part. -/
def itemOf (owner index : Item) : Outcome Item := do
  let owner ← owner.settled
  match owner, index with
  | .map entries, key => entryOf owner entries key
  | owner, .scalar (.text name) => return (member? owner name).getD (absentPart owner name)
  | owner, index =>
      match (if owner.isIndexed then owner.elements? else none), index.integer? with
      | some items, some number =>
          return ((place? items.length number).bind (items[·]?)).getD (absentItem owner index)
      | _, _ => return absentItem owner index

/-- An end of a slice; nothing there means as far as possible. -/
def bound? : Option Item → Outcome (Option Int)
  | none => return none
  | some (.scalar .null) => return none
  | some item =>
      match item.integer? with
      | some number => return some number
      | none =>
          throw (.mismatch "slice indices must be integers or None or have an __index__ method")

/-- Where an end of a slice falls in a sequence. -/
def clamped (length : Nat) (backwards : Bool) (bound : Int) : Int :=
  let lowest : Int := if backwards then -1 else 0
  let highest : Int := if backwards then length - 1 else length
  if bound < 0 then max (bound + length) lowest else min bound highest

/-- Every `step`-th element from one end of a slice to the other. -/
def sliceOf {Element : Type} (items : List Element) (first last : Option Int) (step : Int) :
    List Element :=
  let backwards := decide (step < 0)
  let length := items.length
  let start := (first.map (clamped length backwards)).getD (if backwards then length - 1 else 0)
  let stop := (last.map (clamped length backwards)).getD (if backwards then -1 else length)
  let distance := if backwards then start - stop else stop - start
  let count := ((distance + step.natAbs - 1) / step.natAbs).toNat
  let all := items.toArray
  (List.range count).filterMap fun round => all[(start + step * Int.ofNat round).toNat]?

def slice (owner : Item) (first last step : Option Item) : Outcome Item := do
  let owner ← owner.settled
  let chosen {Element : Type} (items : List Element) : Outcome (List Element) := do
    let step ← bound? step
    if step = some 0 then throw (.badValue "slice step cannot be zero")
    let first ← bound? first
    let last ← bound? last
    return sliceOf items first last (step.getD 1)
  match owner with
  | .scalar (.text content) => return .ofText (← chosen content.toList)
  | .list items => return .list (← chosen items)
  | .tuple items => return .tuple (← chosen items)
  | .map _ => throw (.mismatch "unhashable type: 'slice'")
  | .span start step count =>
      return .list (← chosen ((Item.span start step count).elements?.getD []))
  | other => throw (.mismatch ("'" ++ other.kind ++ "' object is not subscriptable"))

end Transclusion.Template
