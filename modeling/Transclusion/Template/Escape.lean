import Transclusion.Text.Ranges

/-!
Escapes in quoted texts. Characters beyond ASCII are first written as escapes
themselves, so a backslash before one of them stays and takes its escape apart.
-/

namespace Transclusion.Template.Escape

/-- An escape that lacks digits, by the letter it begins with, or one whose number is
no character. -/
inductive Fault where
  | cutOff (letter : Char)
  | noCharacter
  deriving DecidableEq, Repr

def Fault.message : Fault → String
  | .cutOff 'x' => "truncated \\xXX escape"
  | .cutOff 'u' => "truncated \\uXXXX escape"
  | .cutOff 'U' => "truncated \\UXXXXXXXX escape"
  | .cutOff _ => "malformed \\N character escape"
  | .noCharacter => "illegal Unicode character"

def hexDigits (width number : Nat) : Text :=
  let digits := Nat.toDigits 16 number
  List.replicate (width - digits.length) '0' ++ digits

/-- The character in ASCII. -/
def plainForm (c : Char) : Text :=
  let code := c.toNat
  if code < 0x80 then [c]
  else if code < 0x100 then '\\' :: 'x' :: hexDigits 2 code
  else if code < 0x10000 then '\\' :: 'u' :: hexDigits 4 code
  else '\\' :: 'U' :: hexDigits 8 code

def hexValue? (c : Char) : Option Nat :=
  if c.isDigit then some (c.toNat - '0'.toNat)
  else if 'a' ≤ c && c ≤ 'f' then some (c.toNat - 'a'.toNat + 10)
  else if 'A' ≤ c && c ≤ 'F' then some (c.toNat - 'A'.toNat + 10)
  else none

def isOctal (c : Char) : Bool := '0' ≤ c && c ≤ '7'

/-- The digits of an escape that belong to its number. -/
def digitsAfter (letter : Char) (text : Text) : Text :=
  match letter with
  | 'x' => text.take 2
  | 'u' => text.take 4
  | _ => text.take 8

def digitCount : Char → Nat
  | 'x' => 2
  | 'u' => 4
  | _ => 8

def number? (digits : Text) : Option Nat :=
  digits.foldlM (fun number c => (hexValue? c).map (number * 16 + ·)) 0

def character (code : Nat) : Except Fault Char :=
  if code.isValidChar then .ok (Char.ofNat code) else .error .noCharacter

/-- The character that an escape with a letter for hexadecimal digits stands for. -/
def hexCharacter (letter : Char) (text : Text) : Except Fault Char :=
  let digits := digitsAfter letter text
  if digits.length < digitCount letter then .error (.cutOff letter)
  else
    match number? digits with
    | some code => character code
    | none => .error (.cutOff letter)

/-- The character that a letter after a backslash stands for. -/
def simple? : Char → Option Char
  | '\\' => some '\\'
  | '\'' => some '\''
  | '"' => some '"'
  | 'a' => some '\x07'
  | 'b' => some '\x08'
  | 't' => some '\t'
  | 'n' => some '\n'
  | 'v' => some '\x0b'
  | 'f' => some '\x0c'
  | 'r' => some '\r'
  | _ => none

/-- Reads ASCII text. `skip` counts the characters that belong to an escape already
read; an unknown escape stays as it is. -/
def readFrom : Nat → Text → Except Fault Text
  | _, [] => .ok []
  | skip + 1, _ :: rest => readFrom skip rest
  | 0, '\\' :: c :: rest => do
      if c = '\n' then readFrom 0 rest
      else if isOctal c then
        let digits := c :: (rest.take 2).takeWhile isOctal
        let code := digits.foldl (fun code digit => code * 8 + (digit.toNat - '0'.toNat)) 0
        return Char.ofNat code :: (← readFrom (digits.length - 1) rest)
      else if c = 'x' || c = 'u' || c = 'U' then
        let found ← hexCharacter c rest
        return found :: (← readFrom (digitCount c) rest)
      else if c = 'N' then throw (.cutOff c)
      else
        match simple? c with
        | some found => return found :: (← readFrom 0 rest)
        | none => return '\\' :: c :: (← readFrom 0 rest)
  | 0, c :: rest => return c :: (← readFrom 0 rest)

/-- The text that a quoted text stands for. -/
def read (text : Text) : Except Fault Text := readFrom 0 (text.flatMap plainForm)

end Transclusion.Template.Escape
