import Transclusion.Cutting
import Transclusion.Grammar
import Transclusion.Text.Alphanumeric
import Transclusion.Text.Blank
import Transclusion.Text.CaseVariant

/-!
Reading one marker: a word, a separator and a name that together stand as a
whole word, bare or hugged on both sides by the tags of one wrapping element.
All letters are read without regard to case. Every reader takes its characters
from the head of the text and gives them back with what follows.
-/

namespace Transclusion

/-- Reads `expected`, comparing character by character. -/
def expect (same : Char → Char → Bool) : Text → Text → Option (Text × Text)
  | [], text => some ([], text)
  | _ :: _, [] => none
  | letter :: expected, c :: text =>
      if same letter c then
        (expect same expected text).map fun read => (c :: read.1, read.2)
      else none

def opensWord (previous : Option Char) : Bool :=
  match previous with
  | none => true
  | some c => !Text.isWord c

def closesWord : Text → Bool
  | [] => true
  | c :: _ => !Text.isWord c

/-- Case forms of an ASCII letter: those that lower to one, and the dotless i and
long s that match one. -/
def isLetterForm (c : Char) : Bool :=
  let low := Text.lowered c
  low.isLower || low == '\u0131' || low == '\u017F'

def isNameHead (c : Char) : Bool := isLetterForm c || c.isDigit

def isNameTail (c : Char) : Bool := isNameHead c || c == '_'

def readName : Text → Option (Text × Text)
  | [] => none
  | c :: rest =>
      if isNameHead c then some (c :: rest.takeWhile isNameTail, rest.dropWhile isNameTail)
      else none

structure Token where
  word : Text
  separator : Text
  name : Text
  deriving DecidableEq, Repr

namespace Token

def written (token : Token) : Text := token.word ++ token.separator ++ token.name

/-- The separator doubled where it can be, then the separator once. -/
def separators (split text : Text) : List (Text × Text) :=
  match expect Text.alike split text with
  | none => []
  | some (once, rest) =>
      match expect Text.alike split rest with
      | none => [(once, rest)]
      | some (twice, beyond) => [(once ++ twice, beyond), (once, rest)]

/-- Markers that open with `word`, whatever name they carry. -/
def withWord (grammar : Grammar) (word : Text) : Recogniser Token := fun previous text =>
  if opensWord previous then
    match expect Text.alike word text with
    | none => []
    | some (spelled, rest) =>
        (separators grammar.split rest).filterMap fun (separator, rest) =>
          match readName rest with
          | some (name, rest) =>
              if closesWord rest then some (⟨spelled, separator, name⟩, rest) else none
          | none => none
  else []

/-- The stop marker that repeats the separator and the name of `opened`. -/
def closing (grammar : Grammar) (opened : Token) : Recogniser Token := fun previous text =>
  if opensWord previous then
    match expect Text.alike grammar.stopWord text with
    | none => []
    | some (spelled, rest) =>
        match expect Text.sameLowered opened.separator rest with
        | none => []
        | some (separator, rest) =>
            match expect Text.sameLowered opened.name rest with
            | none => []
            | some (name, rest) =>
                if closesWord rest then [(⟨spelled, separator, name⟩, rest)] else []
  else []

/-- Start and stop markers of `name` with the separator written once. -/
def named (grammar : Grammar) (name : Text) : Recogniser Token := fun previous text =>
  if opensWord previous then
    [grammar.startWord, grammar.stopWord].filterMap fun word =>
      match expect Text.alike word text with
      | none => none
      | some (spelled, rest) =>
          match expect Text.alike grammar.split rest with
          | none => none
          | some (separator, rest) =>
              match expect Text.alike name rest with
              | none => none
              | some (name, rest) =>
                  if closesWord rest then some (⟨spelled, separator, name⟩, rest) else none
  else []

end Token

def isInlineSpace (c : Char) : Bool := c == ' ' || c == '\t'

def isAngle (c : Char) : Bool := c == '<' || c == '>'

def isElementTail (c : Char) : Bool := isLetterForm c || c.isDigit

/-- An opening tag: an element name, then attributes after a blank, none of them
holding an angle bracket. -/
def readOpeningTag : Text → Option (Text × Text)
  | '<' :: c :: rest =>
      if isLetterForm c then
        let element := c :: rest.takeWhile isElementTail
        match rest.dropWhile isElementTail with
        | '>' :: after => some ('<' :: element ++ ['>'], after)
        | blank :: more =>
            if Text.isBlank blank then
              let attributes := more.takeWhile fun c => !isAngle c
              match more.dropWhile fun c => !isAngle c with
              | '>' :: after => some ('<' :: element ++ blank :: attributes ++ ['>'], after)
              | _ => none
            else none
        | [] => none
      else none
  | _ => none

/-- A closing tag with the spaces before it. -/
def readClosingTag (text : Text) : Option (Text × Text) :=
  let spaces := text.takeWhile isInlineSpace
  match text.dropWhile isInlineSpace with
  | '<' :: '/' :: c :: rest =>
      if isLetterForm c then
        let element := c :: rest.takeWhile isElementTail
        let afterName := rest.dropWhile isElementTail
        let blanks := afterName.takeWhile Text.isBlank
        match afterName.dropWhile Text.isBlank with
        | '>' :: after => some (spaces ++ '<' :: '/' :: element ++ blanks ++ ['>'], after)
        | _ => none
      else none
  | _ => none

/-- The places a marker may begin after an opening tag, past most spaces first:
the spaces passed, the character before the place, the text from it on. -/
def afterSpaces (previous : Option Char) : Text → List (Text × Option Char × Text)
  | [] => [([], previous, [])]
  | c :: rest =>
      if isInlineSpace c then
        (afterSpaces (some c) rest).map (fun place => (c :: place.1, place.2)) ++
          [([], previous, c :: rest)]
      else [([], previous, c :: rest)]

/-- A marker token with the wrapper consumed around it, if any. -/
structure Marker where
  opening : Option Text
  token : Token
  ending : Text
  deriving DecidableEq, Repr

namespace Marker

def written (marker : Marker) : Text :=
  marker.opening.getD [] ++ marker.token.written ++ marker.ending

def bare (token : Token) : Marker := ⟨none, token, []⟩

/-- The wrapper is taken when there is one on both sides; otherwise the marker
is read bare, and a tag on one side only stays in the text. -/
def recognise (tokens : Recogniser Token) : Recogniser Marker := fun previous text =>
  let wrapped :=
    match readOpeningTag text with
    | none => []
    | some (tag, rest) =>
        (afterSpaces (some '>') rest).flatMap fun (spaces, before, rest) =>
          (tokens before rest).filterMap fun (token, rest) =>
            (readClosingTag rest).map fun (ending, rest) =>
              (⟨some (tag ++ spaces), token, ending⟩, rest)
  wrapped ++ (tokens previous text).map fun (token, rest) => (bare token, rest)

/-- Show markers: references to a block. -/
def shows (grammar : Grammar) : Recogniser Marker :=
  recognise (Token.withWord grammar grammar.showWord)

end Marker

end Transclusion
