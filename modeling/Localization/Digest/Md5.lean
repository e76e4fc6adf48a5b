import Localization.Digest.Block

/-!
# MD5

The digest that records which source text a translation was made from.
-/

namespace Localization.Digest.Md5

/-- The constants of the sixty-four rounds. -/
def constants : List UInt32 :=
  [0xD76AA478, 0xE8C7B756, 0x242070DB, 0xC1BDCEEE, 0xF57C0FAF, 0x4787C62A, 0xA8304613, 0xFD469501,
   0x698098D8, 0x8B44F7AF, 0xFFFF5BB1, 0x895CD7BE, 0x6B901122, 0xFD987193, 0xA679438E, 0x49B40821,
   0xF61E2562, 0xC040B340, 0x265E5A51, 0xE9B6C7AA, 0xD62F105D, 0x02441453, 0xD8A1E681, 0xE7D3FBC8,
   0x21E1CDE6, 0xC33707D6, 0xF4D50D87, 0x455A14ED, 0xA9E3E905, 0xFCEFA3F8, 0x676F02D9, 0x8D2A4C8A,
   0xFFFA3942, 0x8771F681, 0x6D9D6122, 0xFDE5380C, 0xA4BEEA44, 0x4BDECFA9, 0xF6BB4B60, 0xBEBFBC70,
   0x289B7EC6, 0xEAA127FA, 0xD4EF3085, 0x04881D05, 0xD9D4D039, 0xE6DB99E5, 0x1FA27CF8, 0xC4AC5665,
   0xF4292244, 0x432AFF97, 0xAB9423A7, 0xFC93A039, 0x655B59C3, 0x8F0CCC92, 0xFFEFF47D, 0x85845DD1,
   0x6FA87E4F, 0xFE2CE6E0, 0xA3014314, 0x4E0811A1, 0xF7537E82, 0xBD3AF235, 0x2AD7D2BB, 0xEB86D391]

/-- The rotations of the rounds, four in turn for each group of sixteen. -/
def rotations : List (List UInt32) :=
  [[7, 12, 17, 22], [5, 9, 14, 20], [4, 11, 16, 23], [6, 10, 15, 21]]

/-- The four words a digest is carried in. -/
structure State where
  a : UInt32
  b : UInt32
  c : UInt32
  d : UInt32

/-- The state before the first block. -/
def start : State := ⟨0x67452301, 0xEFCDAB89, 0x98BADCFE, 0x10325476⟩

/-- The mixing function of a round and the word of the block it takes. -/
def mix (round : Nat) (s : State) : UInt32 × Nat :=
  if round < 16 then ((s.b &&& s.c) ||| (~~~s.b &&& s.d), round)
  else if round < 32 then ((s.d &&& s.b) ||| (~~~s.d &&& s.c), (5 * round + 1) % 16)
  else if round < 48 then (s.b ^^^ s.c ^^^ s.d, (3 * round + 5) % 16)
  else (s.c ^^^ (s.b ||| ~~~s.d), (7 * round) % 16)

/-- The rounds from `round` on, one for each constant left. -/
def rounds (block : List UInt32) : (round : Nat) → List UInt32 → State → State
  | _, [], s => s
  | round, k :: rest, s =>
    let (f, g) := mix round s
    let turn := (rotations.getD (round / 16) []).getD (round % 4) 0
    let b := s.b + rotate (s.a + f + k + block.getD g 0) turn
    rounds block (round + 1) rest ⟨s.d, b, s.b, s.c⟩

/-- The state after a block. -/
def absorb (s : State) (block : List UInt32) : State :=
  let r := rounds block 0 constants s
  ⟨s.a + r.a, s.b + r.b, s.c + r.c, s.d + r.d⟩

/-- The thirty-two hexadecimal digits of a message's digest. -/
def hexDigest (message : List UInt8) : Text :=
  let s := (blocks .littleEndian message).foldl absorb start
  hexOf .littleEndian [s.a, s.b, s.c, s.d]

end Localization.Digest.Md5
