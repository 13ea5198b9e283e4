import Transclusion.Proofs.BlockContents
import Transclusion.Proofs.Lines

/-!
Extraction undoes writing. Plain texts and blocks are written on lines of their own, each
marker bare or inside an element; stripping gives the texts and the contents back, and the
blocks in order. Nothing in the texts or the contents can shift a definition, except an
opening tag that runs over a bare marker and makes a wrapped one of what follows.
-/

namespace Transclusion

inductive Item where
  | plain (text : Text)
  | block (name : Text) (multi : Bool) (content : Text) (startElement stopElement : Option Text)

namespace Item

/-- A marker as it is written, alone or as the text of an element. -/
def hug (element : Option Text) (marker : Text) : Text :=
  match element with
  | none => marker
  | some element => '<' :: element ++ ['>'] ++ marker ++ '<' :: '/' :: element ++ ['>']

def written (grammar : Grammar) : Item → Text
  | .plain text => text
  | .block name multi content startElement stopElement =>
      hug startElement (grammar.startTag name multi) ++ '\n' :: content ++
        '\n' :: hug stopElement (grammar.stopTag name multi)

/-- What stripping leaves of an item. -/
def shown : Item → Text
  | .plain text => text
  | .block _ _ content _ _ => content

def record (map : BlockMap) : Item → BlockMap
  | .plain _ => map
  | .block name multi content _ _ => map.add name content multi

def text (grammar : Grammar) (items : List Item) : Text := joinLines (items.map (written grammar))

/-- The items before others, with the line ends after them. -/
def lines (grammar : Grammar) (items : List Item) : Text :=
  items.flatMap fun item => item.written grammar ++ ['\n']

def startToken (grammar : Grammar) (name : Text) (multi : Bool) : Token :=
  ⟨grammar.startWord, grammar.separator multi, name⟩

/-- No opening tag covers a bare marker: none of a terminated start marker that begins in the
plain texts before a block, and none of a stop marker for the block that begins in its
content. -/
structure Exposed (grammar : Grammar) (items : List Item) : Prop where
  starts : ∀ front gap name multi content stopElement back,
    items = front ++ (List.map Item.plain gap ++ .block name multi content none stopElement :: back) →
      Marker.Uncovered (Marker.Terminated grammar (text grammar items)) (lines grammar front).length
        ((lines grammar front).length + (lines grammar (gap.map Item.plain)).length)
  stops : ∀ front name multi content startElement back,
    items = front ++ .block name multi content startElement none :: back →
      let before := lines grammar front ++ hug startElement (grammar.startTag name multi)
      Marker.Uncovered
        (Marker.Stands (Token.closer grammar (startToken grammar name multi)) (text grammar items))
        before.length (before.length + (content.length + 2))

section Writing

variable {grammar : Grammar}

end Writing

section Markers

variable {grammar : Grammar}

variable {name content : Text} {multi : Bool} {startElement stopElement : Option Text}

end Markers

section Reading

open Cutting

variable {grammar : Grammar} (ordinary : grammar.Ordinary) {name content : Text} {multi : Bool}
  {startElement stopElement : Option Text}

include ordinary

end Reading

section Items

open Cutting

variable {grammar : Grammar} (ordinary : grammar.Ordinary)

include ordinary

/-- What follows an item: nothing, or the other items on the next lines. -/
def following (grammar : Grammar) (items : List Item) : Text :=
  if items = [] then [] else '\n' :: text grammar items

variable {items : List Item}

section Block

variable {name content : Text} {multi : Bool} {startElement stopElement : Option Text}
  {front back : List Item} {texts : List Text}

end Block

end Items

end Item

end Transclusion
