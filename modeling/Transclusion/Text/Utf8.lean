import Transclusion.Text.Quoted

/-!
Text as UTF-8 octets. Octets that are no text are reported with the place and the
length of the first sequence that does not decode.
-/

namespace Transclusion.Text

inductive OctetProblem where
  | badStart
  | badContinuation
  | cutOff
  deriving DecidableEq, Repr

structure OctetFault where
  problem : OctetProblem
  first : UInt8
  position : Nat
  length : Nat
  deriving DecidableEq, Repr

namespace OctetFault

def reason : OctetProblem → String
  | .badStart => "invalid start byte"
  | .badContinuation => "invalid continuation byte"
  | .cutOff => "unexpected end of data"

def message (fault : OctetFault) : String :=
  "'utf-8' codec can't decode " ++
    (if fault.length = 1 then
      "byte 0x" ++ String.ofList (hexadecimal 2 fault.first.toNat) ++ " in position " ++
        toString fault.position
    else
      "bytes in position " ++ toString fault.position ++ "-" ++
        toString (fault.position + fault.length - 1)) ++
    ": " ++ reason fault.problem

end OctetFault

def isContinuation (octet : UInt8) : Bool := 0x80 ≤ octet && octet < 0xC0

/-- How many octets a sequence has, by its first one, and the range of the second. -/
def sequenceShape? (first : UInt8) : Option (Nat × UInt8 × UInt8) :=
  if first < 0x80 then some (1, 0, 0)
  else if first < 0xC2 then none
  else if first < 0xE0 then some (2, 0x80, 0xBF)
  else if first = 0xE0 then some (3, 0xA0, 0xBF)
  else if first = 0xED then some (3, 0x80, 0x9F)
  else if first < 0xF0 then some (3, 0x80, 0xBF)
  else if first = 0xF0 then some (4, 0x90, 0xBF)
  else if first < 0xF4 then some (4, 0x80, 0xBF)
  else if first = 0xF4 then some (4, 0x80, 0x8F)
  else none

def sequenceCode (first : UInt8) (others : List UInt8) : Nat :=
  let lead :=
    match others.length with
    | 0 => first.toNat
    | 1 => first.toNat - 0xC0
    | 2 => first.toNat - 0xE0
    | _ => first.toNat - 0xF0
  others.foldl (fun code octet => code * 64 + (octet.toNat - 0x80)) lead

/-- The continuation octets that fit at the head, of at most `count`. -/
def continuations (count : Nat) (low high : UInt8) (octets : List UInt8) : List UInt8 :=
  match octets.take count with
  | [] => []
  | second :: rest =>
      if low ≤ second && second ≤ high then second :: rest.takeWhile isContinuation else []

/-- Decodes from `position` on; `skip` octets belong to a character already read. -/
def decodeFrom : Nat → Nat → List UInt8 → Except OctetFault Text
  | _, _, [] => .ok []
  | position, skip + 1, _ :: rest => decodeFrom (position + 1) skip rest
  | position, 0, first :: rest =>
      match sequenceShape? first with
      | none => .error ⟨.badStart, first, position, 1⟩
      | some (size, low, high) =>
          let others := continuations (size - 1) low high rest
          if others.length + 1 = size then do
            let text ← decodeFrom (position + 1) (size - 1) rest
            return Char.ofNat (sequenceCode first others) :: text
          else if others.length < rest.length then
            .error ⟨.badContinuation, first, position, others.length + 1⟩
          else .error ⟨.cutOff, first, position, others.length + 1⟩

def decode (octets : List UInt8) : Except OctetFault Text := decodeFrom 0 0 octets

/-- Octets that are decoded at once where a file is read piece by piece. -/
def pieceSize : Nat := 8192

/-- The octets of one piece decoded, without those of a last character that is cut
off, and these. -/
def decodePiece (octets : List UInt8) : Except OctetFault (Text × List UInt8) :=
  match decode octets with
  | .ok text => .ok (text, [])
  | .error fault =>
      if fault.problem = .cutOff then
        (decode (octets.take fault.position)).map fun text => (text, octets.drop fault.position)
      else .error fault

/-- Decodes piece by piece, as far as whole pieces can be decoded. A fault is placed
within its piece, which begins with what the piece before left over. -/
def decodePieces : Nat → List UInt8 → List UInt8 → Text × Option OctetFault
  | 0, _, _ => ([], none)
  | _ + 1, kept, [] =>
      match decode kept with
      | .ok text => (text, none)
      | .error fault => ([], some fault)
  | count + 1, kept, octets =>
      match decodePiece (kept ++ octets.take pieceSize) with
      | .error fault => ([], some fault)
      | .ok (text, kept) =>
          let (more, fault) := decodePieces count kept (octets.drop pieceSize)
          (text ++ more, fault)

/-- The characters of a file that is read piece by piece, up to octets that are
none. -/
def decodeFile (octets : List UInt8) : Text × Option OctetFault :=
  decodePieces (octets.length / pieceSize + 2) [] octets

def encode (text : Text) : List UInt8 := (String.ofList text).toUTF8.toList

end Transclusion.Text
