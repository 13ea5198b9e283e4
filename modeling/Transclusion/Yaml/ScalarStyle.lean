import Transclusion.Yaml.Sheet

/-!
How a scalar's text may be written, and writing it in each style. Plain text and
quoted text may wrap at single spaces; a literal block keeps its lines; double
quotes hold every character, escaped where it is not printable.
-/

namespace Transclusion.Yaml

structure Shape where
  empty : Bool
  multiline : Bool
  plain : Bool
  single : Bool
  block : Bool

namespace Shape

def isPlainBlank (c : Option Char) : Bool :=
  match c with
  | none => true
  | some c => c == '\x00' || c == ' ' || c == '\t' || c == '\r' || isBreak c

/-- Marks that may not begin a plain scalar. -/
def leadingMarks : List Char := "#,[]\x7b\x7d&*!|>'\"%@`".toList

def isOrdinary (c : Char) : Bool :=
  c == '\n' || (' ' ≤ c && c ≤ '~') ||
    ((c == '\u0085' || ('\u00A0' ≤ c && c.toNat ≤ 0xD7FF) ||
      (0xE000 ≤ c.toNat && c.toNat ≤ 0xFFFD) || (0x10000 ≤ c.toNat && c.toNat < 0x10FFFF)) &&
      c != '\uFEFF')

def isMarkAtStart (c : Char) (after : Option Char) : Bool :=
  leadingMarks.contains c || ((c == '?' || c == ':' || c == '-') && isPlainBlank after)

def isMarkInside (before c : Char) (after : Option Char) : Bool :=
  (c == ':' && isPlainBlank after) || (c == '#' && isPlainBlank (some before))

/-- Whether some character inside has the look of a mark. -/
def hasMarkInside : Text → Bool
  | [] => false
  | [_] => false
  | before :: c :: rest => isMarkInside before c rest.head? || hasMarkInside (c :: rest)

def hasMarks (text : Text) : Bool :=
  "---".toList.isPrefixOf text || "...".toList.isPrefixOf text ||
    (match text with
     | [] => false
     | c :: rest => isMarkAtStart c rest.head?) ||
    hasMarkInside text

/-- Whether two neighbours satisfy `first` and `second`. -/
def hasNeighbours (first second : Char → Bool) : Text → Bool
  | [] => false
  | [_] => false
  | a :: b :: rest => (first a && second b) || hasNeighbours first second (b :: rest)

def isSpace (c : Char) : Bool := c == ' '

def isSpaceOrBreak (c : Char) : Bool := isSpace c || isBreak c

def ofText (text : Text) : Shape :=
  if text.isEmpty then
    { empty := true, multiline := false, plain := true, single := true, block := false }
  else
    let multiline := text.any isBreak
    let special := text.any fun c => !isOrdinary c
    let edged := (text.head?.map isSpaceOrBreak).getD false ||
      (text.getLast?.map isSpaceOrBreak).getD false
    let breakSpace := hasNeighbours isBreak isSpace text
    let spaceBreak := hasNeighbours isSpace isBreak text
    let single := !breakSpace && !spaceBreak && !special
    { empty := false
      multiline
      plain := !edged && single && !multiline && !hasMarks text
      single
      block := !(text.getLast?.map isSpace).getD false && !spaceBreak && !special }

end Shape

namespace Sheet

/-- Runs of spaces, runs of line ends, and runs of anything else. -/
def runs (text : Text) : List Text :=
  text.splitBy fun a b =>
    (Shape.isSpace a == Shape.isSpace b) && (isBreak a == isBreak b)

/-- Line ends inside a scalar; one line feed alone would read as a space, so the
first one is doubled. -/
def foldedBreaks (endings : Text) (sheet : Sheet) : Sheet :=
  let sheet := if endings.head? == some '\n' then sheet.newLine '\n' else sheet
  toIndent (sheet.newLines endings)

/-- Runs of a plain scalar. A single space past the width becomes a new line. -/
def plainRuns (wrap : Bool) : List Text → Sheet → Sheet
  | [], sheet => sheet
  | run :: rest, sheet =>
      let sheet :=
        match run with
        | [] => sheet
        | c :: more =>
            if c = ' ' then
              if more.isEmpty && widest < sheet.column && wrap then
                { sheet.toIndent with atBlank := false, onlyMarks := false }
              else sheet.write run
            else sheet.write run
      plainRuns wrap rest sheet

def plain (root wrap : Bool) (text : Text) (sheet : Sheet) : Sheet :=
  let sheet := if root then { sheet with openEnded := true } else sheet
  if text.isEmpty then sheet
  else
    let sheet := if sheet.atBlank then sheet else sheet.write [' ']
    plainRuns wrap (runs text) { sheet with atBlank := false, onlyMarks := false }

def doubledQuotes (text : Text) : Text :=
  text.flatMap fun c => if c = '\'' then ['\'', '\''] else [c]

/-- Runs of a single-quoted scalar; `first` tells that nothing was written yet. -/
def singleRuns (wrap : Bool) : Bool → List Text → Sheet → Sheet
  | _, [], sheet => sheet
  | first, run :: rest, sheet =>
      let sheet :=
        match run with
        | [] => sheet
        | c :: more =>
            if c = ' ' then
              if more.isEmpty && widest < sheet.column && wrap && !first && !rest.isEmpty then
                sheet.toIndent
              else sheet.write run
            else if isBreak c then foldedBreaks run sheet
            else sheet.write (doubledQuotes run)
      singleRuns wrap false rest sheet

def single (wrap : Bool) (text : Text) (sheet : Sheet) : Sheet :=
  (singleRuns wrap true (runs text) (sheet.mark ['\''] true)).mark ['\''] false

def escapes : List (Char × Char) :=
  [('\x00', '0'), ('\x07', 'a'), ('\x08', 'b'), ('\t', 't'), ('\n', 'n'), ('\x0b', 'v'),
   ('\x0c', 'f'), ('\r', 'r'), ('\x1b', 'e'), ('"', '"'), ('\\', '\\'), ('\u0085', 'N'),
   ('\u00A0', '_'), ('\u2028', 'L'), ('\u2029', 'P')]

def isVerbatim (c : Char) : Bool :=
  !(c == '"' || c == '\\' || c == '\u0085' || c == '\u2028' || c == '\u2029' || c == '\uFEFF') &&
    ((' ' ≤ c && c ≤ '~') || ('\u00A0' ≤ c && c.toNat ≤ 0xD7FF) ||
      (0xE000 ≤ c.toNat && c.toNat ≤ 0xFFFD))

def upperHex (width value : Nat) : Text :=
  let digits := (Nat.toDigits 16 value).map Char.toUpper
  List.replicate (width - digits.length) '0' ++ digits

def escape (c : Char) : Text :=
  match escapes.lookup c with
  | some letter => ['\\', letter]
  | none =>
      if c.toNat ≤ 0xFF then '\\' :: 'x' :: upperHex 2 c.toNat
      else if c.toNat ≤ 0xFFFF then '\\' :: 'u' :: upperHex 4 c.toNat
      else '\\' :: 'U' :: upperHex 8 c.toNat

/-- A line end behind a backslash; a space that comes next is escaped. -/
def breakLine (next : Option Char) (sheet : Sheet) : Sheet :=
  let sheet := { (sheet.write ['\\']).toIndent with atBlank := false, onlyMarks := false }
  if next == some ' ' then sheet.write ['\\'] else sheet

/-- Writes a double-quoted scalar. `pending` holds verbatim characters not yet
written, last first; `position` counts from the beginning of a text of `size`
characters. Past the width a line ends at a space or beside an escape. -/
def doubleRest (wrap : Bool) (size : Nat) : Nat → Text → Text → Sheet → Sheet
  | _, pending, [], sheet => sheet.write pending.reverse
  | position, pending, c :: rest, sheet =>
      let inside := wrap && 0 < position && position + 1 < size
      if isVerbatim c then
        if inside && (c == ' ' || pending.isEmpty) && widest < sheet.column + pending.length then
          doubleRest wrap size (position + 1) [c] rest
            ((sheet.write pending.reverse).breakLine (some c))
        else doubleRest wrap size (position + 1) (c :: pending) rest sheet
      else
        let sheet := (sheet.write pending.reverse).write (escape c)
        let sheet :=
          if inside && widest + 1 < sheet.column then sheet.breakLine rest.head? else sheet
        doubleRest wrap size (position + 1) [] rest sheet

def double (wrap : Bool) (text : Text) (sheet : Sheet) : Sheet :=
  (doubleRest wrap text.length 0 [] text (sheet.mark ['"'] true)).mark ['"'] false

/-- The digit and the sign after a block mark: indentation when the text begins
with a blank, and what becomes of the line ends at its end. -/
def blockHints (text : Text) : Text :=
  let leading := if (text.head?.map Shape.isSpaceOrBreak).getD false then ['2'] else []
  let chomping :=
    match text.reverse with
    | [] => []
    | [c] => if isBreak c then ['+'] else ['-']
    | c :: d :: _ => if !isBreak c then ['-'] else if isBreak d then ['+'] else []
  leading ++ chomping

def literalRuns : List Text → Sheet → Sheet
  | [], sheet => sheet
  | run :: rest, sheet =>
      let isEnd := (run.head?.map isBreak).getD false
      let sheet :=
        if isEnd then
          let sheet := sheet.newLines run
          if rest.isEmpty then sheet else sheet.toIndent
        else
          let sheet := { sheet with written := sheet.written ++ String.ofList run }
          if rest.isEmpty then sheet.newLine '\n' else sheet
      literalRuns rest sheet

def lineRuns (text : Text) : List Text := text.splitBy fun a b => isBreak a == isBreak b

def literal (text : Text) (sheet : Sheet) : Sheet :=
  let hints := blockHints text
  let sheet := sheet.mark ('|' :: hints) true
  let sheet := { sheet with openEnded := hints.getLast? == some '+' }
  let sheet := sheet.newLine '\n'
  let runs := lineRuns text
  let startsWithBreak := (text.head?.map isBreak).getD false
  literalRuns runs (if startsWithBreak then sheet else sheet.toIndent)

end Sheet

end Transclusion.Yaml
