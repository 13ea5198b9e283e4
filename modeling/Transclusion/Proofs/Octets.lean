import Mathlib.Data.List.TakeWhile
import Transclusion.Text.Utf8

/-!
Octets of a text decode to the text, also where a file is read piece by piece and a piece
ends within a character: the octets of that character are kept for the next piece.
-/

namespace Transclusion.Text

section Encoding

theorem toList_loop (octets : ByteArray) (index : Nat) (before : List UInt8) :
    ByteArray.toList.loop octets index before =
      before.reverse ++ octets.data.toList.drop index := by
  fun_induction ByteArray.toList.loop octets index before with
  | case1 index before inside ih =>
    have present : index < octets.data.toList.length := by simpa using inside
    have here : octets.get! index = octets.data.toList[index] := by
      simp [ByteArray.get!, getElem!_pos octets.data index (by simpa using present)]
    rw [ih, List.reverse_cons, List.append_assoc, List.drop_eq_getElem_cons present, here]
    rfl
  | case2 index before outside =>
    have past : octets.data.toList.length ≤ index := by simpa using Nat.not_lt.mp outside
    rw [List.drop_eq_nil_of_le past, List.append_nil]

theorem encode_eq (text : Text) : encode text = text.flatMap String.utf8EncodeChar := by
  rw [encode, ByteArray.toList, toList_loop]
  simp [List.utf8Encode]

@[simp] theorem encode_nil : encode [] = [] := by simp [encode_eq]

@[simp] theorem encode_cons (c : Char) (text : Text) :
    encode (c :: text) = String.utf8EncodeChar c ++ encode text := by simp [encode_eq]

@[simp] theorem encode_append (first second : Text) :
    encode (first ++ second) = encode first ++ encode second := by simp [encode_eq]

end Encoding

section Sequences

/-- The octets of one character, as they are decoded: the first tells how many others there
are and in which range the second lies. -/
structure Sequence (c : Char) (first : UInt8) (others : List UInt8) (low high : UInt8) : Prop where
  octets : String.utf8EncodeChar c = first :: others
  shape : sequenceShape? first = some (others.length + 1, low, high)
  second : ∀ octet ∈ others.head?, low ≤ octet ∧ octet ≤ high
  later : ∀ octet ∈ others.tail, isContinuation octet = true
  code : Char.ofNat (sequenceCode first others) = c

theorem toNat_octet {code : Nat} (small : code < 256) : (UInt8.ofNat code).toNat = code := by
  rw [UInt8.toNat_ofNat']
  exact Nat.mod_eq_of_lt small

/-- An octet that goes on with a character carries six bits of its code. -/
def follower (code : Nat) : UInt8 := UInt8.ofNat (code % 64 + 0x80)

@[simp] theorem toNat_follower (code : Nat) : (follower code).toNat = code % 64 + 0x80 :=
  toNat_octet (by omega)

@[simp] theorem isContinuation_follower (code : Nat) : isContinuation (follower code) = true := by
  simp only [isContinuation, UInt8.le_iff_toNat_le, UInt8.lt_iff_toNat_lt, toNat_follower,
    Bool.and_eq_true, decide_eq_true_eq]
  exact ⟨Nat.le_add_left _ _, show code % 64 + 0x80 < 192 by omega⟩

theorem encodeChar_eq (c : Char) : String.utf8EncodeChar c =
    if c.toNat ≤ 0x7F then [UInt8.ofNat c.toNat]
    else if c.toNat ≤ 0x7FF then [UInt8.ofNat (c.toNat / 64 % 0x20 + 0xC0), follower c.toNat]
    else if c.toNat ≤ 0xFFFF then
      [UInt8.ofNat (c.toNat / 4096 % 0x10 + 0xE0), follower (c.toNat / 64), follower c.toNat]
    else
      [UInt8.ofNat (c.toNat / 262144 % 8 + 0xF0), follower (c.toNat / 4096), follower (c.toNat / 64),
        follower c.toNat] := rfl

theorem sequenceShape?_eq (first : UInt8) : sequenceShape? first =
    if first.toNat < 0x80 then some (1, 0, 0)
    else if first.toNat < 0xC2 then none
    else if first.toNat < 0xE0 then some (2, 0x80, 0xBF)
    else if first.toNat = 0xE0 then some (3, 0xA0, 0xBF)
    else if first.toNat = 0xED then some (3, 0x80, 0x9F)
    else if first.toNat < 0xF0 then some (3, 0x80, 0xBF)
    else if first.toNat = 0xF0 then some (4, 0x90, 0xBF)
    else if first.toNat < 0xF4 then some (4, 0x80, 0xBF)
    else if first.toNat = 0xF4 then some (4, 0x80, 0x8F)
    else none := by
  simp only [sequenceShape?, UInt8.lt_iff_toNat_lt, ← UInt8.toNat_inj]
  rfl

variable {c : Char}

theorem sequence_one (small : c.toNat ≤ 0x7F) : Sequence c (UInt8.ofNat c.toNat) [] 0 0 := by
  have octet : (UInt8.ofNat c.toNat).toNat = c.toNat := toNat_octet (by omega)
  refine ⟨by rw [encodeChar_eq, if_pos small], ?_, by simp, by simp, ?_⟩
  · rw [sequenceShape?_eq, octet, if_pos (by omega)]
    rfl
  · rw [sequenceCode, List.foldl_nil, octet]
    exact Char.ofNat_toNat c

theorem sequence_two (large : ¬ c.toNat ≤ 0x7F) (small : c.toNat ≤ 0x7FF) :
    Sequence c (UInt8.ofNat (c.toNat / 64 % 0x20 + 0xC0)) [follower c.toNat] 0x80 0xBF := by
  have octet : (UInt8.ofNat (c.toNat / 64 % 0x20 + 0xC0)).toNat = c.toNat / 64 + 0xC0 := by
    rw [toNat_octet (by omega)]
    omega
  refine ⟨by rw [encodeChar_eq, if_neg large, if_pos small], ?_, ?_, by simp, ?_⟩
  · rw [sequenceShape?_eq, octet, if_neg (by omega), if_neg (by omega), if_pos (by omega)]
    rfl
  · simp [UInt8.le_iff_toNat_le]
    omega
  · simp only [sequenceCode, List.length_singleton, List.foldl_cons, List.foldl_nil, octet, toNat_follower]
    rw [show (c.toNat / 64 + 0xC0 - 0xC0) * 64 + (c.toNat % 64 + 0x80 - 0x80) = c.toNat by omega]
    exact Char.ofNat_toNat c

theorem sequence_three (large : ¬ c.toNat ≤ 0x7FF) (small : c.toNat ≤ 0xFFFF) :
    ∃ low high, Sequence c (UInt8.ofNat (c.toNat / 4096 % 0x10 + 0xE0))
      [follower (c.toNat / 64), follower c.toNat] low high := by
  have valid : c.toNat < 0xD800 ∨ (0xDFFF < c.toNat ∧ c.toNat < 0x110000) := c.valid
  have octet : (UInt8.ofNat (c.toNat / 4096 % 0x10 + 0xE0)).toNat = c.toNat / 4096 + 0xE0 := by
    rw [toNat_octet (by omega)]
    omega
  have octets := encodeChar_eq c
  rw [if_neg (by omega), if_neg large, if_pos small] at octets
  have code : Char.ofNat (sequenceCode (UInt8.ofNat (c.toNat / 4096 % 0x10 + 0xE0))
      [follower (c.toNat / 64), follower c.toNat]) = c := by
    simp only [sequenceCode, List.length_cons, List.length_nil, List.foldl_cons, List.foldl_nil,
      octet, toNat_follower]
    rw [show ((c.toNat / 4096 + 0xE0 - 0xE0) * 64 + (c.toNat / 64 % 64 + 0x80 - 0x80)) * 64 +
      (c.toNat % 64 + 0x80 - 0x80) = c.toNat by omega]
    exact Char.ofNat_toNat c
  have shape := sequenceShape?_eq (UInt8.ofNat (c.toNat / 4096 % 0x10 + 0xE0))
  rw [octet, if_neg (by omega), if_neg (by omega), if_neg (by omega)] at shape
  -- shortest forms begin beyond 0x7FF, and no character is a surrogate
  by_cases first : c.toNat / 4096 = 0
  · rw [if_pos (by omega)] at shape
    refine ⟨0xA0, 0xBF, octets, shape, ?_, by simp, code⟩
    simp [UInt8.le_iff_toNat_le]
    omega
  · by_cases surrogates : c.toNat / 4096 = 13
    · rw [if_neg (by omega), if_pos (by omega)] at shape
      refine ⟨0x80, 0x9F, octets, shape, ?_, by simp, code⟩
      simp [UInt8.le_iff_toNat_le]
      omega
    · rw [if_neg (by omega), if_neg (by omega), if_pos (by omega)] at shape
      refine ⟨0x80, 0xBF, octets, shape, ?_, by simp, code⟩
      simp [UInt8.le_iff_toNat_le]
      omega

theorem sequence_four (large : ¬ c.toNat ≤ 0xFFFF) :
    ∃ low high, Sequence c (UInt8.ofNat (c.toNat / 262144 % 8 + 0xF0))
      [follower (c.toNat / 4096), follower (c.toNat / 64), follower c.toNat] low high := by
  have valid : c.toNat < 0xD800 ∨ (0xDFFF < c.toNat ∧ c.toNat < 0x110000) := c.valid
  have octet : (UInt8.ofNat (c.toNat / 262144 % 8 + 0xF0)).toNat = c.toNat / 262144 + 0xF0 := by
    rw [toNat_octet (by omega)]
    omega
  have octets := encodeChar_eq c
  rw [if_neg (by omega), if_neg (by omega), if_neg large] at octets
  have code : Char.ofNat (sequenceCode (UInt8.ofNat (c.toNat / 262144 % 8 + 0xF0))
      [follower (c.toNat / 4096), follower (c.toNat / 64), follower c.toNat]) = c := by
    simp only [sequenceCode, List.length_cons, List.length_nil, List.foldl_cons, List.foldl_nil,
      octet, toNat_follower]
    rw [show (((c.toNat / 262144 + 0xF0 - 0xF0) * 64 + (c.toNat / 4096 % 64 + 0x80 - 0x80)) * 64 +
      (c.toNat / 64 % 64 + 0x80 - 0x80)) * 64 + (c.toNat % 64 + 0x80 - 0x80) = c.toNat by omega]
    exact Char.ofNat_toNat c
  have shape := sequenceShape?_eq (UInt8.ofNat (c.toNat / 262144 % 8 + 0xF0))
  rw [octet, if_neg (by omega), if_neg (by omega), if_neg (by omega), if_neg (by omega),
    if_neg (by omega), if_neg (by omega)] at shape
  -- shortest forms begin beyond 0xFFFF, and the last character is 0x10FFFF
  by_cases first : c.toNat / 262144 = 0
  · rw [if_pos (by omega)] at shape
    refine ⟨0x90, 0xBF, octets, shape, ?_, by simp, code⟩
    simp [UInt8.le_iff_toNat_le]
    omega
  · by_cases last : c.toNat / 262144 = 4
    · rw [if_neg (by omega), if_neg (by omega), if_pos (by omega)] at shape
      refine ⟨0x80, 0x8F, octets, shape, ?_, by simp, code⟩
      simp [UInt8.le_iff_toNat_le]
      omega
    · rw [if_neg (by omega), if_pos (by omega)] at shape
      refine ⟨0x80, 0xBF, octets, shape, ?_, by simp, code⟩
      simp [UInt8.le_iff_toNat_le]
      omega

-- One case for each number of octets, as the encoder distinguishes them.
theorem exists_sequence (c : Char) : ∃ first others low high, Sequence c first others low high := by
  by_cases one : c.toNat ≤ 0x7F
  · exact ⟨_, _, _, _, sequence_one one⟩
  · by_cases two : c.toNat ≤ 0x7FF
    · exact ⟨_, _, _, _, sequence_two one two⟩
    · by_cases three : c.toNat ≤ 0xFFFF
      · exact ⟨_, _, sequence_three two three⟩
      · exact ⟨_, _, sequence_four three⟩

end Sequences

section Decoding

theorem decodeFrom_skip {skip : Nat} {front : List UInt8} (read : front.length = skip)
    (position : Nat) (rest : List UInt8) :
    decodeFrom position skip (front ++ rest) = decodeFrom (position + skip) 0 rest := by
  induction front generalizing position skip with
  | nil =>
    subst read
    rfl
  | cons octet front ih =>
    subst read
    rw [List.cons_append, List.length_cons, decodeFrom, ih rfl, Nat.add_assoc,
      Nat.add_comm 1]

variable {c : Char} {first : UInt8} {others : List UInt8} {low high : UInt8}

-- Of the octets of a character none is refused, however few of them are there.
theorem Sequence.continuations_eq (sequence : Sequence c first others low high)
    {rest : List UInt8} (inside : rest.take others.length <+: others) :
    continuations others.length low high rest = rest.take others.length := by
  rw [continuations]
  cases taken : rest.take others.length with
  | nil => rfl
  | cons second later =>
    rw [taken] at inside
    obtain ⟨more, whole⟩ := inside
    have between := sequence.second second (by simp [← whole])
    have going : later.takeWhile isContinuation = later := by
      rw [List.takeWhile_eq_self_iff]
      exact fun octet member => sequence.later octet (by simp [← whole, member])
    simp only [going]
    rw [if_pos (by simp [between])]

theorem Sequence.decodeFrom_append (sequence : Sequence c first others low high) (position : Nat)
    (rest : List UInt8) : decodeFrom position 0 (String.utf8EncodeChar c ++ rest) =
      (decodeFrom (position + (String.utf8EncodeChar c).length) 0 rest).map (c :: ·) := by
  have all : continuations others.length low high (others ++ rest) = others := by
    rw [sequence.continuations_eq (by simp), List.take_left]
  rw [sequence.octets, List.cons_append, decodeFrom]
  simp only [sequence.shape, Nat.add_sub_cancel, all, if_true, sequence.code]
  rw [decodeFrom_skip rfl, Nat.add_assoc, Nat.add_comm 1, List.length_cons]
  cases decodeFrom (position + (others.length + 1)) 0 rest <;> rfl

theorem decodeFrom_encode (text : Text) (position : Nat) (rest : List UInt8) :
    decodeFrom position 0 (encode text ++ rest) =
      (decodeFrom (position + (encode text).length) 0 rest).map (text ++ ·) := by
  induction text generalizing position with
  | nil => cases read : decodeFrom position 0 rest <;> simp [Except.map, read]
  | cons c text ih =>
    obtain ⟨first, others, low, high, sequence⟩ := exists_sequence c
    rw [encode_cons, List.append_assoc, sequence.decodeFrom_append, ih, List.length_append,
      Nat.add_assoc]
    cases decodeFrom _ 0 rest <;> rfl

theorem decode_encode (text : Text) : decode (encode text) = .ok text := by
  have decoded := decodeFrom_encode text 0 []
  rw [List.append_nil] at decoded
  rw [decode, decoded, decodeFrom]
  simp [Except.map]

theorem Sequence.decodeFrom_cut (sequence : Sequence c first others low high) (position : Nat)
    {kept : List UInt8} (present : kept ≠ []) (inside : kept <+: String.utf8EncodeChar c)
    (cut : kept ≠ String.utf8EncodeChar c) :
    decodeFrom position 0 kept = .error ⟨.cutOff, first, position, kept.length⟩ := by
  rw [sequence.octets] at inside cut
  obtain ⟨octet, later, rfl⟩ := List.exists_cons_of_ne_nil present
  obtain ⟨rfl, part⟩ := List.cons_prefix_cons.mp inside
  have shorter : later.length < others.length := by
    refine Nat.lt_of_le_of_ne part.length_le fun same => cut ?_
    rw [part.eq_of_length same]
  have taken : later.take others.length = later := List.take_of_length_le (Nat.le_of_lt shorter)
  have all : continuations others.length low high later = later := by
    rw [sequence.continuations_eq (by rwa [taken]), taken]
  rw [decodeFrom]
  simp only [sequence.shape, Nat.add_sub_cancel, all]
  rw [if_neg (by omega), if_neg (Nat.lt_irrefl _), List.length_cons]

-- Where octets of a text are cut, the last character may lack some of its own.
theorem exists_cut_encode {front after : List UInt8} {text : Text}
    (whole : front ++ after = encode text) :
    ∃ done rest kept, text = done ++ rest ∧ front = encode done ++ kept ∧
      kept ++ after = encode rest ∧ (kept = [] ∨ ∃ c, kept <+: String.utf8EncodeChar c ∧
        kept ≠ String.utf8EncodeChar c) := by
  induction text generalizing front with
  | nil =>
    obtain ⟨rfl, rfl⟩ := List.append_eq_nil_iff.mp (whole.trans encode_nil)
    exact ⟨[], [], [], rfl, by simp, by simp, .inl rfl⟩
  | cons c text ih =>
    rw [encode_cons] at whole
    rcases List.append_eq_append_iff.mp whole with ⟨missing, parts, rfl⟩ | ⟨front, rfl, parts⟩
    · cases missing with
      | nil =>
        rw [List.append_nil] at parts
        exact ⟨[c], text, [], rfl, by simp [parts], rfl, .inl rfl⟩
      | cons octet missing =>
        refine ⟨[], c :: text, front, rfl, by simp, by rw [whole, encode_cons],
          .inr ⟨c, ⟨_, parts.symm⟩, fun same => ?_⟩⟩
        rw [← same] at parts
        simpa using congrArg List.length parts
    · obtain ⟨done, rest, kept, rfl, rfl, remaining, broken⟩ := ih parts.symm
      exact ⟨c :: done, rest, kept, rfl, by simp, remaining, broken⟩

theorem decodePiece_eq {done : Text} {kept : List UInt8}
    (broken : kept = [] ∨ ∃ c, kept <+: String.utf8EncodeChar c ∧ kept ≠ String.utf8EncodeChar c) :
    decodePiece (encode done ++ kept) = .ok (done, kept) := by
  by_cases whole : kept = []
  · subst whole
    rw [List.append_nil, decodePiece, decode_encode]
  · obtain ⟨c, inside, cut⟩ := broken.resolve_left whole
    obtain ⟨first, others, low, high, sequence⟩ := exists_sequence c
    have decoded := decodeFrom_encode done 0 kept
    rw [sequence.decodeFrom_cut _ whole inside cut, Nat.zero_add] at decoded
    have cutOff : decode (encode done ++ kept) =
        .error ⟨.cutOff, first, (encode done).length, kept.length⟩ := decoded
    rw [decodePiece, cutOff]
    simp [decode_encode, Except.map]

theorem decodePieces_eq {count : Nat} {kept octets : List UInt8} {text : Text}
    (whole : kept ++ octets = encode text)
    (enough : (octets.length + (pieceSize - 1)) / pieceSize + 1 ≤ count) :
    decodePieces count kept octets = (text, none) := by
  induction count generalizing kept octets text with
  | zero => exact absurd enough (Nat.not_succ_le_zero _)
  | succ count ih =>
    cases octets with
    | nil =>
      rw [List.append_nil] at whole
      rw [decodePieces, whole, decode_encode]
    | cons octet octets =>
      have pieces : (kept ++ (octet :: octets).take pieceSize) ++ (octet :: octets).drop pieceSize =
          encode text := by
        rw [List.append_assoc, List.take_append_drop, whole]
      obtain ⟨done, rest, kept', rfl, front, remaining, broken⟩ := exists_cut_encode pieces
      have fewer : (((octet :: octets).drop pieceSize).length + (pieceSize - 1)) / pieceSize + 1 ≤
          count := by
        rw [List.length_drop]
        simp only [pieceSize, List.length_cons] at enough ⊢
        omega
      rw [decodePieces, front, decodePiece_eq broken]
      · simp only [ih remaining fewer]
      · simp

/-- A file that a text was written to reads as the text. -/
theorem decodeFile_encode (text : Text) : decodeFile (encode text) = (text, none) := by
  refine decodePieces_eq (List.nil_append _) ?_
  simp only [pieceSize]
  omega

end Decoding

end Transclusion.Text
