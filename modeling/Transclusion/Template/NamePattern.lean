import Transclusion.Template.NamePart

/-!
Patterns for template names. Text stands for itself, doubled braces for single
ones, and a field in braces for the block name: `\x7bname\x7d`, with parts taken from it,
a conversion and a layout, as in `\x7bname[0]!r:>6\x7d`. A layout may hold fields itself.
-/

namespace Transclusion.Template

namespace NamePattern

inductive Fault where
  | loneOpening
  | loneClosing
  | openField
  | openingInField
  | openLayout
  | noConversion
  | afterConversion
  | conversion (c : Char)
  | emptyPart
  | afterBracket
  | tooManyDigits
  | tooDeep
  | position (index : Nat)
  | unknown (name : Text)
  | partByName
  | memberByName
  | beyondEnd (kind : String)
  | noPart (kind : String) (name : Text)
  | noParts (kind : String)
  | noLayout (kind : String)
  | layout (fault : Layout.Fault)
  deriving DecidableEq, Repr

namespace Fault

def message : Fault → String
  | .loneOpening => "Single '\x7b' encountered in format string"
  | .loneClosing => "Single '\x7d' encountered in format string"
  | .openField => "expected '\x7d' before end of string"
  | .openingInField => "unexpected '\x7b' in field name"
  | .openLayout => "unmatched '\x7b' in format spec"
  | .noConversion => "end of string while looking for conversion specifier"
  | .afterConversion => "expected ':' after conversion specifier"
  | .conversion c => "Unknown conversion specifier " ++ Layout.shownChar c
  | .emptyPart => "Empty attribute in format string"
  | .afterBracket => "Only '.' or '[' may follow ']' in format field specifier"
  | .tooManyDigits => "Too many decimal digits in format string"
  | .tooDeep => "Max string recursion exceeded"
  | .position index =>
      "Replacement index " ++ toString index ++ " out of range for positional args tuple"
  | .unknown name => String.ofList (Text.quoted name)
  | .partByName => "string indices must be integers, not 'str'"
  | .memberByName => "tuple indices must be integers or slices, not str"
  | .beyondEnd kind => kind ++ " index out of range"
  | .noPart kind name => kind ++ " has no attribute '" ++ String.ofList name ++ "'"
  | .noParts kind => kind ++ " is not subscriptable"
  | .noLayout kind => "unsupported format string passed to " ++ kind ++ ".__format__"
  | .layout fault => fault.message

end Fault

/-- A field as it is written, before its name is looked up. -/
structure Field where
  path : Text
  conversion : Option Char := none
  layout : Text := []
  nested : Bool := false
  deriving DecidableEq, Repr

inductive Piece where
  | text (text : Text)
  | field (field : Field)
  deriving DecidableEq, Repr

/-- The pieces up to the end of a pattern, or up to what is wrong with it. -/
structure Pieces where
  pieces : List Piece := []
  fault : Option Fault := none

namespace Pieces

def cons (piece : Piece) (rest : Pieces) : Pieces := { rest with pieces := piece :: rest.pieces }

def failed (fault : Fault) : Pieces := { fault := some fault }

end Pieces

/-- Where in a pattern reading stands; what was read of a piece is kept reversed. -/
inductive Stage where
  | text (seen : Text)
  | path (seen : Text) (inBrackets : Bool)
  | conversion (path : Text)
  | converted (path : Text) (conversion : Char)
  | layout (field : Field) (seen : Text) (depth : Nat)

def scan : Stage → Text → Pieces
  | .text seen, [] => { pieces := [.text seen.reverse] }
  | .text seen, '\x7b' :: '\x7b' :: rest => scan (.text ('\x7b' :: seen)) rest
  | .text seen, '\x7d' :: '\x7d' :: rest => scan (.text ('\x7d' :: seen)) rest
  | .text _, ['\x7b'] => .failed .loneOpening
  | .text _, '\x7d' :: _ => .failed .loneClosing
  | .text seen, '\x7b' :: rest => (scan (.path [] false) rest).cons (.text seen.reverse)
  | .text seen, c :: rest => scan (.text (c :: seen)) rest
  | .path _ _, [] => .failed .openField
  | .path seen true, c :: rest => scan (.path (c :: seen) (c != ']')) rest
  | .path _ false, '\x7b' :: _ => .failed .openingInField
  | .path seen false, '[' :: rest => scan (.path ('[' :: seen) true) rest
  | .path seen false, '\x7d' :: rest =>
      (scan (.text []) rest).cons (.field { path := seen.reverse })
  | .path seen false, ':' :: rest => scan (.layout { path := seen.reverse } [] 0) rest
  | .path seen false, '!' :: rest => scan (.conversion seen.reverse) rest
  | .path seen false, c :: rest => scan (.path (c :: seen) false) rest
  | .conversion _, [] => .failed .noConversion
  | .conversion path, c :: rest => scan (.converted path c) rest
  | .converted _ _, [] => .failed .openLayout
  | .converted path c, '\x7d' :: rest =>
      (scan (.text []) rest).cons (.field { path, conversion := some c })
  | .converted path c, ':' :: rest => scan (.layout { path, conversion := some c } [] 0) rest
  | .converted _ _, _ => .failed .afterConversion
  | .layout _ _ _, [] => .failed .openLayout
  | .layout field seen 0, '\x7d' :: rest =>
      (scan (.text []) rest).cons (.field { field with layout := seen.reverse })
  | .layout field seen (depth + 1), '\x7d' :: rest =>
      scan (.layout field ('\x7d' :: seen) depth) rest
  | .layout field seen depth, '\x7b' :: rest =>
      scan (.layout { field with nested := true } ('\x7b' :: seen) (depth + 1)) rest
  | .layout field seen depth, c :: rest => scan (.layout field (c :: seen) depth) rest

namespace Thing

def part (thing : Thing) (name : Text) : Except Fault Thing :=
  match thing.part? (String.ofList name) with
  | some found => .ok found
  | none => .error (.noPart thing.described name)

def item (thing : Thing) (index : Option Nat) : Except Fault Thing :=
  match thing, index with
  | .word _, none => .error .partByName
  | .word letters, some index =>
      match letters[index]? with
      | some c => .ok (.word [c])
      | none => .error (.beyondEnd "string")
  | .several _, none => .error .memberByName
  | .several members, some index =>
      match members[index]? with
      | some member => .ok (.species member)
      | none => .error (.beyondEnd "tuple")
  | thing, _ => .error (.noParts thing.container)

end Thing

/-- A name that is all digits is a position. Digits beyond the largest number are
a fault even when other characters follow them. -/
def position? (name : Text) : Except Fault (Option Nat) :=
  let digits := name.takeWhile Text.isDigit
  if Layout.largestNumber < Text.number digits then .error .tooManyDigits
  else if name.isEmpty || digits.length < name.length then .ok none
  else .ok (some (Text.number digits))

def endsPart (c : Char) : Bool := c == '.' || c == '['

/-- The thing that parts taken one after the other lead to. -/
def follow (thing : Thing) : Text → Except Fault Thing
  | [] => .ok thing
  | '.' :: rest => do
      let name := rest.takeWhile fun c => !endsPart c
      if name.isEmpty then throw .emptyPart
      follow (← thing.part name) (rest.dropWhile fun c => !endsPart c)
  | '[' :: rest => do
      let name := rest.takeWhile (· != ']')
      let index ← position? name
      if name.isEmpty then throw .emptyPart
      follow (← thing.item index) ((rest.dropWhile (· != ']')).drop 1)
  | _ :: _ => .error .afterBracket
  termination_by path => path.length
  decreasing_by
    · have bound : (rest.dropWhile fun c => !endsPart c).length ≤ rest.length :=
        (List.dropWhile_sublist _).length_le
      simp only [List.length_cons]
      omega
    · have bound : (rest.dropWhile (· != ']')).length ≤ rest.length :=
        (List.dropWhile_sublist _).length_le
      simp only [List.length_cons, List.length_drop]
      omega

def fieldName : Text := ['n', 'a', 'm', 'e']

/-- The only field is `name`; fields by position stand for nothing. -/
def lookUp (blockName path : Text) : Except Fault Thing := do
  let first := path.takeWhile fun c => !endsPart c
  match ← position? first with
  | some index => throw (.position index)
  | none =>
      if first.isEmpty then throw (.position 0)
      else if first = fieldName then
        follow (.word blockName) (path.dropWhile fun c => !endsPart c)
      else throw (.unknown first)

/-- Characters beyond ASCII by their codes. -/
def asciiEscaped (text : Text) : Text :=
  text.flatMap fun c =>
    if c.toNat < 0x80 then [c]
    else if c.toNat < 0x100 then '\\' :: 'x' :: Text.hexadecimal 2 c.toNat
    else if c.toNat < 0x10000 then '\\' :: 'u' :: Text.hexadecimal 4 c.toNat
    else '\\' :: 'U' :: Text.hexadecimal 8 c.toNat

def convert (conversion : Option Char) (thing : Thing) : Except Fault Thing :=
  match conversion with
  | none => .ok thing
  | some 's' => .ok (.word thing.plain)
  | some 'r' => .ok (.word thing.shown)
  | some 'a' => .ok (.word (asciiEscaped thing.shown))
  | some c => .error (.conversion c)

def present (layout : Text) : Thing → Except Fault Text
  | .word letters => (layOut layout letters).mapError .layout
  | thing => if layout.isEmpty then .ok thing.plain else .error (.noLayout thing.kind)

def joinPieces (field : Field → Except Fault Text) (pieces : Pieces) : Except Fault Text := do
  let texts ← pieces.pieces.mapM fun piece =>
    match piece with
    | .text text => pure text
    | .field written => field written
  match pieces.fault with
  | some fault => throw fault
  | none => return texts.flatten

/-- `depth` is how many layouts may still be read inside one another. -/
def expand (blockName : Text) : Nat → Text → Except Fault Text
  | 0, _ => .error .tooDeep
  | depth + 1, pattern =>
      joinPieces
        (fun written => do
          let thing ← convert written.conversion (← lookUp blockName written.path)
          let layout ←
            if written.nested then expand blockName depth written.layout
            else pure written.layout
          present layout thing)
        (scan (.text []) pattern)

/-- The template name that a pattern gives for a block name. -/
def apply (pattern blockName : Text) : Except Fault Text := expand blockName 2 pattern

end NamePattern

end Transclusion.Template
