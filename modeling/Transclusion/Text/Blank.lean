import Transclusion.Text.Ranges

/-!
Whitespace of every script (Unicode 14, with the four separator controls
U+001C to U+001F), trimming, and the characters that end a line.
-/

namespace Transclusion.Text

def blankRanges : Array (Nat × Nat) :=
  #[(0x9, 0xD), (0x1C, 0x20), (0x85, 0x85), (0xA0, 0xA0), (0x1680, 0x1680), (0x2000, 0x200A),
   (0x2028, 0x2029), (0x202F, 0x202F), (0x205F, 0x205F), (0x3000, 0x3000)]

def isBlank (c : Char) : Bool :=
  Ranges.contains blankRanges c.toNat

def trimLeft (text : Text) : Text := text.dropWhile isBlank

def trimRight (text : Text) : Text := (text.reverse.dropWhile isBlank).reverse

def trim (text : Text) : Text := trimRight (trimLeft text)

/-- Characters that end a line. A carriage return directly before a line feed
belongs to the same line end. -/
def isLineEnd (c : Char) : Bool :=
  c == '\n' || c == '\r' || c == '\x0b' || c == '\x0c' || c == '\x1c' || c == '\x1d' ||
    c == '\x1e' || c == '\u0085' || c == '\u2028' || c == '\u2029'

/-- The first line, without its end. -/
def firstLine (text : Text) : Text := text.takeWhile fun c => !isLineEnd c

/-- Every line feed, carriage return or pair of both becomes one line feed. -/
def unixLines : Text → Text
  | [] => []
  | '\r' :: '\n' :: rest => '\n' :: unixLines rest
  | c :: rest => (if c = '\r' then '\n' else c) :: unixLines rest

end Transclusion.Text
