import Localization.Digest.Block

/-!
# SHA-1

The digest behind the short marks that keep two keys of a file apart.
-/

namespace Localization.Digest.Sha1

/-- The five words a digest is carried in. -/
structure State where
  a : UInt32
  b : UInt32
  c : UInt32
  d : UInt32
  e : UInt32

/-- The state before the first block. -/
def start : State := ⟨0x67452301, 0xEFCDAB89, 0x98BADCFE, 0x10325476, 0xC3D2E1F0⟩

/-- The mixing function and the constant of a round. -/
def mix (round : Nat) (s : State) : UInt32 × UInt32 :=
  if round < 20 then ((s.b &&& s.c) ||| (~~~s.b &&& s.d), 0x5A827999)
  else if round < 40 then (s.b ^^^ s.c ^^^ s.d, 0x6ED9EBA1)
  else if round < 60 then ((s.b &&& s.c) ||| (s.b &&& s.d) ||| (s.c &&& s.d), 0x8F1BBCDC)
  else (s.b ^^^ s.c ^^^ s.d, 0xCA62C1D6)

/-- The next word of the schedule, from the last sixteen. -/
def nextWord (window : List UInt32) : UInt32 :=
  rotate (window.getD 13 0 ^^^ window.getD 8 0 ^^^ window.getD 2 0 ^^^ window.getD 0 0) 1

/-- `left` more rounds; `window` holds the sixteen words of the schedule from this round on. -/
def rounds : (left : Nat) → List UInt32 → State → State
  | 0, _, s => s
  | left + 1, window, s =>
    let (f, k) := mix (79 - left) s
    let t := rotate s.a 5 + f + s.e + k + window.getD 0 0
    rounds left (window.drop 1 ++ [nextWord window]) ⟨t, s.a, rotate s.b 30, s.c, s.d⟩

/-- The state after a block. -/
def absorb (s : State) (block : List UInt32) : State :=
  let r := rounds 80 block s
  ⟨s.a + r.a, s.b + r.b, s.c + r.c, s.d + r.d, s.e + r.e⟩

/-- The forty hexadecimal digits of a message's digest. -/
def hexDigest (message : List UInt8) : Text :=
  let s := (blocks .bigEndian message).foldl absorb start
  hexOf .bigEndian [s.a, s.b, s.c, s.d, s.e]

end Localization.Digest.Sha1
