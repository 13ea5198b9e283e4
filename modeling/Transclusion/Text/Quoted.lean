import Transclusion.Text.Printable

/-!
A text in quotes, as messages show it. Apostrophes are the quotes unless the text
holds an apostrophe and no double quote. The quote and the backslash are escaped,
and so is every character without a visible form.
-/

namespace Transclusion.Text

/-- Hexadecimal digits of a number, at least `width` of them. -/
def hexadecimal (width value : Nat) : Text :=
  let digits := Nat.toDigits 16 value
  List.replicate (width - digits.length) '0' ++ digits

def escaped (quote c : Char) : Text :=
  if c = quote || c = '\\' then ['\\', c]
  else if c = '\t' then ['\\', 't']
  else if c = '\n' then ['\\', 'n']
  else if c = '\r' then ['\\', 'r']
  else if isPrintable c then [c]
  else if c.toNat < 0x100 then '\\' :: 'x' :: hexadecimal 2 c.toNat
  else if c.toNat < 0x10000 then '\\' :: 'u' :: hexadecimal 4 c.toNat
  else '\\' :: 'U' :: hexadecimal 8 c.toNat

def quoteFor (text : Text) : Char :=
  if text.contains '\'' && !text.contains '"' then '"' else '\''

def quoted (text : Text) : Text :=
  let quote := quoteFor text
  quote :: text.flatMap (escaped quote) ++ [quote]

end Transclusion.Text
