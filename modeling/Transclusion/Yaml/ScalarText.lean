import Transclusion.Json
import Transclusion.Yaml.Fault
import Transclusion.Yaml.Place

/-!
Reading the text of one scalar: plain, in single or double quotes, or as a
literal or folded block. Each reader starts at the first character of the scalar
and gives its text and the place after it.
-/

namespace Transclusion.Yaml.ScalarText

abbrev Read := Except Fault (Text × Place)

/-- Line ends with blanks before and between them, in a quoted scalar. -/
def quotedBreaks : Nat → Place → Except Fault (Text × Place)
  | 0, _ => .error .token
  | fuel + 1, place =>
      if place.atSeparator then .error .token
      else
        let place := place.skip fun c => c == ' ' || c == '\t'
        if (place.peek.map isBreak).getD false then
          let (kept, place) := place.lineBreak
          do
            let (more, place) ← quotedBreaks fuel place
            return (kept ++ more, place)
        else .ok ([], place)

/-- Blanks in a quoted scalar; a single line end among them reads as a space. -/
def quotedSpaces (fuel : Nat) (place : Place) : Read :=
  let blanks := place.ahead fun c => c == ' ' || c == '\t'
  let place := place.forward blanks.length
  match place.peek with
  | none => .error place.refusal
  | some c =>
      if isBreak c then
        let (kept, place) := place.lineBreak
        do
          let (breaks, place) ← quotedBreaks fuel place
          let first := if kept != ['\n'] then kept else if breaks.isEmpty then [' '] else []
          return (first ++ breaks, place)
      else .ok (blanks, place)

def escapes : List (Char × Char) :=
  [('0', '\x00'), ('a', '\x07'), ('b', '\x08'), ('t', '\t'), ('\t', '\t'), ('n', '\n'),
   ('v', '\x0b'), ('f', '\x0c'), ('r', '\r'), ('e', '\x1b'), (' ', ' '), ('"', '"'),
   ('\\', '\\'), ('/', '/'), ('N', '\u0085'), ('_', '\u00A0'), ('L', '\u2028'), ('P', '\u2029')]

def escapeWidth? (c : Char) : Option Nat :=
  if c = 'x' then some 2 else if c = 'u' then some 4 else if c = 'U' then some 8 else none

def hexNumber? (digits : Text) : Option Nat :=
  digits.foldl (fun total c => do return (← total) * 16 + (← Json.hexValue? c)) (some 0)

/-- The characters of a double-quoted escape, its backslash passed. -/
def escape (fuel : Nat) (place : Place) : Read :=
  match place.peek with
  | none => .error place.refusal
  | some c =>
      match escapes.lookup c with
      | some image => .ok ([image], place.next)
      | none =>
          match escapeWidth? c with
          | some width =>
              let place := place.next
              let digits := place.rest.take width
              match hexNumber? digits with
              | some code =>
                  if digits.length < width then .error (place.forward digits.length).refusal
                  else if code < 0x110000 then .ok ([Char.ofNat code], place.forward width)
                  else if code < 0x80000000 then
                    .error (.number "chr() arg not in range(0x110000)")
                  else .error (.tooLarge "Python int too large to convert to C int")
              | none => .error .token
          | none =>
              if isBreak c then quotedBreaks fuel place.lineBreak.2 else .error .token

def endsRun (c : Char) : Bool :=
  c == '\'' || c == '"' || c == '\\' || c == ' ' || c == '\t' || isBreak c

/-- What is not blank in a quoted scalar, up to a blank or the closing quote. -/
def quotedRun (double : Bool) : Nat → Place → Read
  | 0, _ => .error .token
  | fuel + 1, place =>
      let run := place.ahead fun c => !endsRun c
      let place := place.forward run.length
      let continueAfter (text : Text) (place : Place) : Read := do
        let (more, place) ← quotedRun double fuel place
        return (run ++ text ++ more, place)
      match place.peek with
      | some '\'' =>
          if double then continueAfter ['\''] place.next
          else if place.peekAt 1 == some '\'' then continueAfter ['\''] (place.forward 2)
          else .ok (run, place)
      | some '"' => if double then .ok (run, place) else continueAfter ['"'] place.next
      | some '\\' =>
          if double then do
            let (text, place) ← escape fuel place.next
            continueAfter text place
          else continueAfter ['\\'] place.next
      | _ => .ok (run, place)

def quotedRest (double : Bool) (quote : Char) : Nat → Place → Read
  | 0, _ => .error .token
  | fuel + 1, place =>
      if place.sees quote then .ok ([], place.next)
      else do
        let (spaces, place) ← quotedSpaces fuel place
        let (run, place) ← quotedRun double fuel place
        let (more, place) ← quotedRest double quote fuel place
        return (spaces ++ run ++ more, place)

/-- A scalar in quotes, from its opening quote on. -/
def quoted (double : Bool) (place : Place) : Read := do
  let fuel := place.rest.length + 2
  let (run, place) ← quotedRun double fuel place.next
  let (more, place) ← quotedRest double (if double then '"' else '\'') fuel place
  return (run ++ more, place)

/-- Whether a plain scalar ends before `c`, which `after` follows. -/
def endsPlain (flow : Bool) (c : Char) (after : Option Char) : Bool :=
  c == ' ' || c == '\t' || isBreak c ||
    (c == ':' && (isSpaceOrEnd after ||
      (flow && (after == some ',' || after == some '[' || after == some ']' ||
        after == some '\x7b' || after == some '\x7d')))) ||
    (flow && (c == ',' || c == '?' || c == '[' || c == ']' || c == '\x7b' || c == '\x7d'))

def plainRun (flow : Bool) : Text → Text
  | [] => []
  | c :: rest => if endsPlain flow c rest.head? then [] else c :: plainRun flow rest

/-- Line ends and spaces between two lines of a plain scalar; nothing when a
document marker follows. -/
def plainBreaks : Nat → Place → Option Text × Place
  | 0, place => (some [], place)
  | fuel + 1, place =>
      match place.peek with
      | some c =>
          if c = ' ' then plainBreaks fuel place.next
          else if isBreak c then
            let (kept, place) := place.lineBreak
            if place.atSeparator then (none, place)
            else
              let (more, place) := plainBreaks fuel place
              (more.map (kept ++ ·), place)
          else (some [], place)
      | none => (some [], place)

/-- What joins two runs of a plain scalar, the place after it, and whether a line
end was passed. No text means that the scalar ends. -/
def plainSpaces (place : Place) : Text × Place × Bool :=
  let spaces := place.ahead (· == ' ')
  let place := place.forward spaces.length
  match place.peek with
  | some c =>
      if isBreak c then
        let (kept, place) := place.lineBreak
        if place.atSeparator then ([], place, true)
        else
          match plainBreaks (place.rest.length + 1) place with
          | (none, place) => ([], place, true)
          | (some breaks, place) =>
              let first := if kept != ['\n'] then kept else if breaks.isEmpty then [' '] else []
              (first ++ breaks, place, true)
      else (spaces, place, false)
  | none => (spaces, place, false)

/-- Runs of a plain scalar that continues at `indent` or deeper; `joint` goes
before the next run. The last component tells whether a line end was passed since
the last run. -/
def plainRuns (flow : Bool) (indent : Int) :
    Nat → Text → Bool → Place → Text × Place × Bool
  | 0, _, broken, place => ([], place, broken)
  | fuel + 1, joint, broken, place =>
      if place.sees '#' then ([], place, broken)
      else
        let run := plainRun flow place.rest
        if run.isEmpty then ([], place, broken)
        else
          let (spaces, after, broken) := plainSpaces (place.forward run.length)
          if spaces.isEmpty || after.sees '#' || (!flow && Int.ofNat after.column < indent) then
            (joint ++ run, after, broken)
          else
            let (more, after, broken) := plainRuns flow indent fuel spaces broken after
            (joint ++ run ++ more, after, broken)

/-- A plain scalar; `broken` tells whether it ends past a line end. -/
def plain (flow : Bool) (indent : Int) (place : Place) : Text × Place × Bool :=
  plainRuns flow indent (place.rest.length + 1) [] false place

inductive Chomping where
  | clip
  | strip
  | keep
  deriving DecidableEq

/-- The digit that sets the indentation of a block scalar. -/
def indentDigit? (place : Place) : Except Fault (Option Nat × Place) :=
  match place.peek with
  | some c =>
      if c = '0' then .error .token
      else if c.isDigit then .ok (some (c.toNat - '0'.toNat), place.next)
      else .ok (none, place)
  | none => .ok (none, place)

def chompingMark? (place : Place) : Option (Chomping × Place) :=
  match place.peek with
  | some '+' => some (.keep, place.next)
  | some '-' => some (.strip, place.next)
  | _ => none

def blockIndicators (place : Place) : Except Fault (Chomping × Option Nat × Place) := do
  let (chomping, increment, place) ←
    match chompingMark? place with
    | some (chomping, place) =>
        let (increment, place) ← indentDigit? place
        pure (chomping, increment, place)
    | none =>
        let (increment, place) ← indentDigit? place
        match increment, chompingMark? place with
        | some _, some (chomping, place) => pure (chomping, increment, place)
        | _, _ => pure (.clip, increment, place)
  if isBreakOrEnd place.peek || place.sees ' ' then return (chomping, increment, place)
  else .error .token

/-- The rest of the line that a block scalar opens on: spaces and a comment. -/
def restOfLine (place : Place) : Except Fault Place :=
  let place := place.skipSpaces
  let place := if place.sees '#' then place.skipLine else place
  if isBreakOrEnd place.peek then .ok place.lineBreak.2 else .error .token

/-- Blank lines before a block scalar's text, and the deepest column reached. -/
def blockIndentation : Nat → Nat → Place → Text × Nat × Place
  | 0, deepest, place => ([], deepest, place)
  | fuel + 1, deepest, place =>
      match place.peek with
      | some c =>
          if c = ' ' then
            let place := place.next
            blockIndentation fuel (max deepest place.column) place
          else if isBreak c then
            let (kept, place) := place.lineBreak
            let (more, deepest, place) := blockIndentation fuel deepest place
            (kept ++ more, deepest, place)
          else ([], deepest, place)
      | none => ([], deepest, place)

def skipIndent (indent : Nat) (place : Place) : Place :=
  place.forward (min (indent - place.column) (place.ahead (· == ' ')).length)

/-- Blank lines between lines of a block scalar. -/
def blockBreaks (indent : Nat) : Nat → Place → Text × Place
  | 0, place => ([], place)
  | fuel + 1, place =>
      let place := skipIndent indent place
      if (place.peek.map isBreak).getD false then
        let (kept, place) := place.lineBreak
        let (more, place) := blockBreaks indent fuel place
        (kept ++ more, place)
      else ([], place)

def isIndented (place : Place) : Bool := place.sees ' ' || place.sees '\t'

/-- Lines of a block scalar; `breaks` are the blank lines before the next one. The
last line end and the blank lines after it are given apart. -/
def blockLines (folded : Bool) (indent : Nat) :
    Nat → Text → Place → Text × Text × Text × Place
  | 0, breaks, place => ([], [], breaks, place)
  | fuel + 1, breaks, place =>
      if place.column = indent && place.peek.isSome then
        let flush := !isIndented place
        let line := place.ahead fun c => !isBreak c
        let (kept, after) := (place.forward line.length).lineBreak
        let (next, after) := blockBreaks indent (after.rest.length + 1) after
        if after.column = indent && after.peek.isSome then
          let joint :=
            if folded && kept == ['\n'] && flush && !isIndented after then
              (if next.isEmpty then [' '] else [])
            else kept
          let (more, last, blanks, after) := blockLines folded indent fuel next after
          (breaks ++ line ++ joint ++ more, last, blanks, after)
        else (breaks ++ line, kept, next, after)
      else ([], [], breaks, place)

/-- A block scalar, from its indicator on, inside a block indented by `indent`. -/
def block (folded : Bool) (indent : Int) (place : Place) : Read := do
  let (chomping, increment, place) ← blockIndicators place.next
  let place ← restOfLine place
  let fuel := place.rest.length + 1
  let least := (max (indent + 1) 1).toNat
  let (breaks, depth, place) :=
    match increment with
    | none =>
        let (breaks, deepest, place) := blockIndentation fuel 0 place
        (breaks, max least deepest, place)
    | some increment =>
        let depth := least + increment - 1
        let (breaks, place) := blockBreaks depth fuel place
        (breaks, depth, place)
  let (text, last, blanks, place) := blockLines folded depth fuel breaks place
  let text := if chomping = .strip then text else text ++ last
  return (if chomping = .keep then text ++ blanks else text, place)

end Transclusion.Yaml.ScalarText
