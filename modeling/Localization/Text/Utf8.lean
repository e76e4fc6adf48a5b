import Localization.Text.Digit

/-!
# UTF-8

Texts are written to files and hashed as UTF-8. Writing fails at a surrogate; reading fails at the
first byte that no character starts with, at a byte that does not continue the character begun
before it, and at an end inside a character. Both failures say where they happened, in code points
when writing and in bytes when reading. A lenient reading, used to count columns, puts one
replacement character for every maximal piece that is no character.
-/

namespace Localization.Utf8

/-! ## Writing -/

/-- A run of surrogates `first … last` (places in the text) that has no UTF-8 form. -/
structure EncodeFault where
  first : Nat
  last : Nat
  culprit : CodePoint
  deriving DecidableEq

/-- The report on a text that has no UTF-8 form. -/
def EncodeFault.message (f : EncodeFault) : Text :=
  if f.first = f.last then
    "'utf-8' codec can't encode character '\\u" ++ Text.hex 4 f.culprit.toNat ++ "' in position " ++
      Text.ofNumber f.first ++ ": surrogates not allowed"
  else
    "'utf-8' codec can't encode characters in position " ++ Text.ofNumber f.first ++ "-" ++
      Text.ofNumber f.last ++ ": surrogates not allowed"

/-- The bytes of the characters of a text; the surrogate runs are reported by their places. -/
def encodeFrom (place : Nat) : Text → Except EncodeFault (List UInt8)
  | [] => .ok []
  | .surrogate i :: t =>
    .error ⟨place, place + (t.takeWhile CodePoint.isSurrogate).length, .surrogate i⟩
  | .scalar c :: t => (encodeFrom (place + 1) t).map (String.utf8EncodeChar c ++ ·)

/-- The UTF-8 form of a text. -/
def encode (t : Text) : Except EncodeFault (List UInt8) := encodeFrom 0 t

/-- The UTF-8 form of a list of characters. -/
def encodeChars (cs : List Char) : List UInt8 := cs.flatMap String.utf8EncodeChar

/-! ## Reading -/

/-- Why a byte sequence is no UTF-8. -/
inductive DecodeCause where
  | invalidStart
  | invalidContinuation
  | unexpectedEnd
  deriving DecidableEq

/-- The bytes `first … last` that are no character, with the cause and the first of them. -/
structure DecodeFault where
  first : Nat
  last : Nat
  culprit : UInt8
  cause : DecodeCause
  deriving DecidableEq

/-- The report on bytes that are no UTF-8. -/
def DecodeFault.message (f : DecodeFault) : Text :=
  let reason : Text :=
    match f.cause with
    | .invalidStart => "invalid start byte"
    | .invalidContinuation => "invalid continuation byte"
    | .unexpectedEnd => "unexpected end of data"
  if f.first = f.last then
    "'utf-8' codec can't decode byte 0x" ++ Text.hex 2 f.culprit.toNat ++ " in position " ++
      Text.ofNumber f.first ++ ": " ++ reason
  else
    "'utf-8' codec can't decode bytes in position " ++ Text.ofNumber f.first ++ "-" ++
      Text.ofNumber f.last ++ ": " ++ reason

/-- What a first byte promises: its share of the number, and the range of each byte to follow. -/
def lead (b : UInt8) : Option (Nat × List (UInt8 × UInt8)) :=
  let tail : UInt8 × UInt8 := (0x80, 0xBF)
  if b < 0x80 then some (b.toNat, [])
  else if b < 0xC2 then none
  else if b < 0xE0 then some (b.toNat - 0xC0, [tail])
  else if b = 0xE0 then some (0, [(0xA0, 0xBF), tail])
  else if b = 0xED then some (0xD, [(0x80, 0x9F), tail])
  else if b < 0xF0 then some (b.toNat - 0xE0, [tail, tail])
  else if b = 0xF0 then some (0, [(0x90, 0xBF), tail, tail])
  else if b < 0xF4 then some (b.toNat - 0xF0, [tail, tail, tail])
  else if b = 0xF4 then some (4, [(0x80, 0x8F), tail, tail])
  else none

/-- Reads the bytes that continue a character: the number so far and the bytes left, or how many
bytes did continue it and why the next one does not. -/
def continuation (taken acc : Nat) :
    List (UInt8 × UInt8) → List UInt8 → Except (Nat × DecodeCause) (Nat × List UInt8)
  | [], bs => .ok (acc, bs)
  | _ :: _, [] => .error (taken, .unexpectedEnd)
  | (low, high) :: rs, b :: bs =>
    if low ≤ b ∧ b ≤ high then continuation (taken + 1) (acc * 64 + (b.toNat - 0x80)) rs bs
    else .error (taken, .invalidContinuation)

/-- Bytes that continue a character are taken from the front. -/
theorem continuation_length {rs : List (UInt8 × UInt8)} {bs rest : List UInt8} {taken acc n : Nat}
    (h : continuation taken acc rs bs = .ok (n, rest)) : rest.length ≤ bs.length := by
  induction rs generalizing taken acc bs with
  | nil => simp [continuation] at h; simp [h]
  | cons r rs ih =>
    obtain ⟨low, high⟩ := r
    cases bs with
    | nil => simp [continuation] at h
    | cons b bs =>
      simp only [continuation] at h
      split at h
      · exact Nat.le_succ_of_le (ih h)
      · cases h

/-- The characters of a byte sequence that starts at byte `offset`. -/
def decodeFrom (offset : Nat) : List UInt8 → Except DecodeFault (List Char)
  | [] => .ok []
  | b :: bs =>
    match lead b with
    | none => .error ⟨offset, offset, b, .invalidStart⟩
    | some (acc, rs) =>
      match h : continuation 1 acc rs bs with
      | .error (taken, cause) => .error ⟨offset, offset + taken - 1, b, cause⟩
      | .ok (n, rest) => (decodeFrom (offset + 1 + rs.length) rest).map (Char.ofNat n :: ·)
termination_by bs => bs.length
decreasing_by exact Nat.lt_succ_of_le (continuation_length h)

/-- The characters of a byte sequence. -/
def decode (bs : List UInt8) : Except DecodeFault (List Char) := decodeFrom 0 bs

/-- How many characters a byte sequence shows when each maximal piece that is no character shows as
one replacement character. -/
def shownLength : List UInt8 → Nat
  | [] => 0
  | b :: bs =>
    match lead b with
    | none => 1 + shownLength bs
    | some (acc, rs) =>
      match h : continuation 1 acc rs bs with
      | .error (taken, _) => 1 + shownLength (bs.drop (taken - 1))
      | .ok (_, rest) => 1 + shownLength rest
termination_by bs => bs.length
decreasing_by
  · exact Nat.lt_succ_self _
  · exact Nat.lt_succ_of_le (List.length_drop ▸ Nat.sub_le ..)
  · exact Nat.lt_succ_of_le (continuation_length h)

end Localization.Utf8
