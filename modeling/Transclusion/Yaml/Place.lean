import Transclusion.Yaml.Fault

/-!
A place in a YAML text: the characters from it on, and how far it is from the
beginning of the text and of its line. Where the text can only be read up to a point,
what keeps the rest from being read counts as soon as the point is reached. Lines end with line feeds, with U+0085, or
with the line and paragraph separators; the last two stay as they are when a line
end is kept, and the others become line feeds.
-/

namespace Transclusion.Yaml

def isBreak (c : Char) : Bool :=
  c == '\n' || c == '\u0085' || c == '\u2028' || c == '\u2029'

def isBreakOrEnd (c : Option Char) : Bool :=
  match c with
  | none => true
  | some c => isBreak c

def isSpaceOrEnd (c : Option Char) : Bool :=
  match c with
  | none => true
  | some c => c == ' ' || c == '\t' || isBreak c

structure Place where
  rest : Text
  index : Nat := 0
  line : Nat := 0
  column : Nat := 0
  obstacle : Option Fault := none

namespace Place

/-- The fault of a text that is not as it should be at this place. -/
def refusal (place : Place) : Fault :=
  if place.rest.isEmpty then place.obstacle.getD .token else .token

/-- Nothing, as long as the text can be read from here on. -/
def check (place : Place) : Except Fault Unit :=
  match place.rest, place.obstacle with
  | [], some fault => .error fault
  | _, _ => .ok ()

def peek (place : Place) : Option Char := place.rest.head?

def peekAt (place : Place) (distance : Nat) : Option Char := place.rest[distance]?

def sees (place : Place) (c : Char) : Bool := place.peek == some c

/-- One character on. A byte order mark takes no column. -/
def next (place : Place) : Place :=
  match place.rest with
  | [] => place
  | c :: rest =>
      if isBreak c then
        { place with rest, index := place.index + 1, line := place.line + 1, column := 0 }
      else
        { place with
          rest, index := place.index + 1
          column := if c = '\uFEFF' then place.column else place.column + 1 }

def forward : Nat → Place → Place
  | 0, place => place
  | count + 1, place => forward count place.next

/-- The characters ahead that satisfy `accept`. -/
def ahead (accept : Char → Bool) (place : Place) : Text := place.rest.takeWhile accept

def skip (accept : Char → Bool) (place : Place) : Place :=
  place.forward (place.ahead accept).length

def skipSpaces (place : Place) : Place := place.skip (· == ' ')

def skipLine (place : Place) : Place := place.skip fun c => !isBreak c

/-- The line end here, as it is kept, and the place after it; nothing if there is none. -/
def lineBreak (place : Place) : Text × Place :=
  match place.rest with
  | [] => ([], place)
  | c :: _ =>
      if c = '\n' || c = '\u0085' then (['\n'], place.next)
      else if c = '\u2028' || c = '\u2029' then ([c], place.next)
      else ([], place)

/-- Whether a document marker of three `mark` characters stands here. -/
def atMarker (mark : Char) (place : Place) : Bool :=
  [mark, mark, mark].isPrefixOf place.rest && isSpaceOrEnd (place.peekAt 3)

def atSeparator (place : Place) : Bool := place.atMarker '-' || place.atMarker '.'

end Place

end Transclusion.Yaml
