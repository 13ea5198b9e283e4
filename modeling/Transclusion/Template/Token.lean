import Transclusion.Template.Numeral
import Transclusion.Text.Blank
import Transclusion.Text.Identifier

/-!
The tokens of a template. Text stands between tags; inside a tag there are names,
texts in quotes, numbers and signs. A tag alone on its line takes the spaces
before it and the line end after it along, and a minus at either end of a tag takes
all blanks on its side.
-/

namespace Transclusion.Template

inductive Token where
  | data (text : Text)
  | openPrint
  | closePrint
  | openTag
  | closeTag
  | name (name : String)
  | text (content : Text)
  | integer (number : Nat)
  | float (bits : UInt64)
  | sign (sign : String)
  deriving DecidableEq, Repr

namespace Token

/-- How messages call a token. -/
def described : Token → String
  | .data _ => "template data / text"
  | .openPrint => "begin of print statement"
  | .closePrint => "end of print statement"
  | .openTag => "begin of statement block"
  | .closeTag => "end of statement block"
  | .name word => word
  | .text _ => "string"
  | .integer _ => "integer"
  | .float _ => "float"
  | .sign written => written

end Token

/-- Tokens in order, up to the end or up to a place that cannot be read. -/
structure Tokens where
  tokens : List Token := []
  fault : Option SourceFault := none

namespace Tokens

def prepend (first : List Token) (rest : Tokens) : Tokens :=
  { rest with tokens := first ++ rest.tokens }

end Tokens

inductive TagKind where
  | print
  | statement
  deriving DecidableEq

/-- Where reading stands: in text, or in a tag with the brackets that are open in
it, innermost first. Directly after a point a number has no fraction. -/
inductive ScanMode where
  | text (lineStart : Bool)
  | tag (kind : TagKind) (closings : List Char) (afterPoint : Bool)

/-- What comes after some tokens. -/
inductive ScanNext where
  | more (mode : ScanMode) (rest : Text)
  | done
  | failed (fault : SourceFault)

namespace Scan

def opensTag : Text → Bool
  | '\x7b' :: c :: _ => c == '\x7b' || c == '%' || c == '#'
  | _ => false

/-- The text before the first tag. -/
def beforeTag : Text → Text
  | [] => []
  | c :: rest => if opensTag (c :: rest) then [] else c :: beforeTag rest

/-- A text without the spaces after its last line end, when there are only spaces
and the line begins in it. -/
def dropIndent (lineStart : Bool) (text : Text) : Text :=
  let line := (text.reverse.takeWhile (· != '\n')).reverse
  if line.all Text.isBlank && (lineStart || line.length < text.length) then
    text.take (text.length - line.length)
  else text

def readMark : Text → Option Char × Text
  | '-' :: rest => (some '-', rest)
  | '+' :: rest => (some '+', rest)
  | text => (none, text)

/-- The text before a tag as its mark leaves it; tags that print keep it. -/
def trimmedBefore (mark : Option Char) (isPrint lineStart : Bool) (text : Text) : Text :=
  if mark == some '-' then Text.trimRight text
  else if mark == some '+' || isPrint then text
  else dropIndent lineStart text

def dropLineEnd : Text → Text
  | '\n' :: rest => rest
  | text => text

/-- What follows the end of a tag, given the end without its mark, and whether a
line begins there. -/
def afterEnd (ending : Text) (keepsLine : Bool) (text : Text) : Option (Text × Bool) :=
  if (['-'] ++ ending).isPrefixOf text then
    let rest := text.drop (ending.length + 1)
    let blanks := rest.takeWhile Text.isBlank
    some (rest.dropWhile Text.isBlank, blanks.getLast? == some '\n')
  else if !keepsLine && (['+'] ++ ending).isPrefixOf text then
    some (text.drop (ending.length + 1), false)
  else if ending.isPrefixOf text then
    let rest := text.drop ending.length
    if keepsLine then some (rest, false) else some (dropLineEnd rest, rest.head? == some '\n')
  else none

def commentEnd : Text := ['#', '\x7d']

def afterComment : Text → Option (Text × Bool)
  | [] => none
  | c :: rest => (afterEnd commentEnd false (c :: rest)).or (afterComment rest)

def dataToken (text : Text) : List Token := if text.isEmpty then [] else [.data text]

/-- Text up to a tag, and the tag's opening; a comment is passed whole. -/
def scanText (lineStart : Bool) (text : Text) : List Token × ScanNext :=
  let before := beforeTag text
  match text.drop before.length with
  | '\x7b' :: c :: rest =>
      let (mark, rest) := readMark rest
      let data := dataToken (trimmedBefore mark (c == '\x7b') lineStart before)
      if c == '\x7b' then (data ++ [.openPrint], .more (.tag .print [] false) rest)
      else if c == '%' then (data ++ [.openTag], .more (.tag .statement [] false) rest)
      else
        match rest, afterComment rest with
        | [], _ => (data, .done)
        | _, some (rest, lineStart) => (data, .more (.text lineStart) rest)
        | _, none => (data, .failed .openComment)
  | _ => (dataToken before, .done)

def doubleSigns : List String := ["//", "**", "==", "!=", ">=", "<="]

def singleSigns : List Char :=
  ['+', '-', '/', '*', '%', '~', '[', ']', '(', ')', '\x7b', '\x7d', '>', '<', '=', '.', ':', '|',
   ',', ';']

/-- A sign in front: two characters where they make one. -/
def readSign (text : Text) : Option (String × Text) :=
  match text with
  | c :: d :: rest =>
      let both := String.ofList [c, d]
      if doubleSigns.contains both then some (both, rest)
      else if singleSigns.contains c then some (String.ofList [c], d :: rest)
      else none
  | [c] => if singleSigns.contains c then some (String.ofList [c], []) else none
  | [] => none

/-- The characters up to a closing quote, with their escapes. -/
def readQuoted (quote : Char) : Text → Option (Text × Text)
  | [] => none
  | '\\' :: c :: rest => (readQuoted quote rest).map fun read => ('\\' :: c :: read.1, read.2)
  | c :: rest =>
      if c = quote then some ([], rest)
      else (readQuoted quote rest).map fun read => (c :: read.1, read.2)

def closingOf : String → Option Char
  | "(" => some ')'
  | "[" => some ']'
  | "\x7b" => some '\x7d'
  | _ => none

/-- The brackets that are open after a sign. -/
def balance (closings : List Char) (sign : String) : Except SourceFault (List Char) :=
  match closingOf sign with
  | some closing => .ok (closing :: closings)
  | none =>
      if sign = ")" || sign = "]" || sign = "\x7d" then
        let c := sign.toList.headD ')'
        match closings with
        | [] => .error (.unexpectedClosing c)
        | expected :: outer => if expected = c then .ok outer else .error (.otherClosing c expected)
      else .ok closings

def endOf : TagKind → Text
  | .print => ['\x7d', '\x7d']
  | .statement => ['%', '\x7d']

def closeOf : TagKind → Token
  | .print => .closePrint
  | .statement => .closeTag

/-- A number in front. -/
def readNumber (afterPoint : Bool) (text : Text) : Option (Except SourceFault Token × Text) :=
  match if afterPoint then none else Numeral.readFloat? text with
  | some (read, after) => some (read.map .float, after)
  | none => (Numeral.readInteger? text).map fun (read, after) => (read.map .integer, after)

/-- A name in front, if there are characters that names are looked for in. -/
def readName (text : Text) : Option (Except SourceFault Token × Text) :=
  let word := text.takeWhile Text.isNameLike
  if word.isEmpty then none
  else
    some (if Text.isName word then .ok (.name (String.ofList word)) else .error .badName,
      text.drop word.length)

/-- A text in quotes in front. -/
def readText (text : Text) : Option (Except SourceFault Token × Text) :=
  match text with
  | quote :: rest =>
      if quote = '\'' || quote = '"' then
        (readQuoted quote rest).map fun (content, after) =>
          (((Escape.read content).map Token.text).mapError .escape, after)
      else none
  | [] => none

/-- One token inside a tag. An end of the tag counts only when no bracket is open. -/
def scanTag (kind : TagKind) (closings : List Char) (afterPoint : Bool) (position : Nat)
    (text : Text) : List Token × ScanNext :=
  let closed := if closings.isEmpty then afterEnd (endOf kind) (kind == .print) text else none
  match closed, text with
  | some (rest, lineStart), _ => ([closeOf kind], .more (.text lineStart) rest)
  | none, [] => ([], .done)
  | none, c :: rest =>
      if Text.isBlank c then
        ([], .more (.tag kind closings false) (rest.dropWhile Text.isBlank))
      else
        match ((readNumber afterPoint text).or (readName text)).or (readText text) with
        | some (.ok token, rest) => ([token], .more (.tag kind closings false) rest)
        | some (.error fault, _) => ([], .failed fault)
        | none =>
            match readSign text with
            | none => ([], .failed (.unexpectedChar c position))
            | some (sign, rest) =>
                match balance closings sign with
                | .ok closings => ([.sign sign], .more (.tag kind closings (sign == ".")) rest)
                | .error fault => ([], .failed fault)

def step (mode : ScanMode) (position : Nat) (text : Text) : List Token × ScanNext :=
  match mode with
  | .text lineStart => scanText lineStart text
  | .tag kind closings afterPoint => scanTag kind closings afterPoint position text

/-- All tokens from a place on; `length` is that of the whole template. -/
def tokens (length : Nat) (mode : ScanMode) (text : Text) : Tokens :=
  match step mode (length - text.length) text with
  | (first, .done) => { tokens := first }
  | (first, .failed fault) => { tokens := first, fault := some fault }
  | (first, .more mode rest) =>
      if _ : rest.length < text.length then (tokens length mode rest).prepend first
      else { tokens := first }
  termination_by text.length

end Scan

/-- The tokens of a template; one line end at its end does not count. -/
def Tokens.ofText (source : Text) : Tokens :=
  let lines := Text.unixLines source
  let text := if lines.getLast? == some '\n' then lines.dropLast else lines
  Scan.tokens text.length (.text true) text

end Transclusion.Template
