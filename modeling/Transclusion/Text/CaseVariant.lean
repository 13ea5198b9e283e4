import Transclusion.Text.Lowercase

/-!
When two characters count as the same letter while a marker is matched. Lower
case decides, and some lower-case letters have several forms: the long and the
round s, the dotless and the dotted i, the Greek symbol letters.
-/

namespace Transclusion.Text

/-- Lower-case characters that match each other, the first standing for all. -/
def caseVariants : List (List Nat) :=
  [[0x69, 0x131], [0x73, 0x17F], [0xB5, 0x3BC], [0x345, 0x3B9, 0x1FBE], [0x390, 0x1FD3],
   [0x3B0, 0x1FE3], [0x3B2, 0x3D0], [0x3B5, 0x3F5], [0x3B8, 0x3D1], [0x3BA, 0x3F0],
   [0x3C0, 0x3D6], [0x3C1, 0x3F1], [0x3C2, 0x3C3], [0x3C6, 0x3D5], [0x432, 0x1C80],
   [0x434, 0x1C81], [0x43E, 0x1C82], [0x441, 0x1C83], [0x442, 0x1C84, 0x1C85], [0x44A, 0x1C86],
   [0x463, 0x1C87], [0x1C88, 0xA64B], [0x1E61, 0x1E9B], [0xFB05, 0xFB06]]

/-- The character that stands for all case forms of `c`. -/
def caseKey (c : Char) : Char :=
  let low := lowered c
  if low.val < 0x80 && low != 'i' && low != 's' then low
  else match caseVariants.find? fun forms => forms.contains low.toNat with
    | some (first :: _) => Char.ofNat first
    | _ => low

/-- Whether `c` is a case form of the letter `letter`. -/
def alike (letter c : Char) : Bool := caseKey letter == caseKey c

/-- Equal up to lower case; stricter than `alike`, which also joins the several
lower-case forms of one letter. -/
def sameLowered (first second : Char) : Bool := lowered first == lowered second

end Transclusion.Text
