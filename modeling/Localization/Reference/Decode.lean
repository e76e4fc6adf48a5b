import Localization.Reference.Table
import Localization.Text.Ranges

/-!
# Resolving character references

Text between tags and quoted attribute values may name characters: `&amp;`, `&#38;`, `&#x26;`.
`decode` replaces every reference by the characters it stands for, as HTML prescribes: numbers in
the range of the C1 controls mean the characters of an old code page, numbers of no character
give the replacement character or nothing, and of a name that is not listed the longest listed
beginning counts.

A decimal number that has more than `Text.digitLimit` digits is not read: `oversized?` finds it. In
a quoted value it may stand; between tags no reference has more than five digits, so `decode` is used
there without a look for one.
-/

namespace Localization.Reference

/-- Numbers that mean another character than the one they count. -/
def remapped : List (Nat × Nat) :=
  [(0x0, 0xFFFD), (0xD, 0xD), (0x80, 0x20AC), (0x81, 0x81), (0x82, 0x201A), (0x83, 0x192),
   (0x84, 0x201E), (0x85, 0x2026), (0x86, 0x2020), (0x87, 0x2021), (0x88, 0x2C6), (0x89, 0x2030),
   (0x8A, 0x160), (0x8B, 0x2039), (0x8C, 0x152), (0x8D, 0x8D), (0x8E, 0x17D), (0x8F, 0x8F),
   (0x90, 0x90), (0x91, 0x2018), (0x92, 0x2019), (0x93, 0x201C), (0x94, 0x201D), (0x95, 0x2022),
   (0x96, 0x2013), (0x97, 0x2014), (0x98, 0x2DC), (0x99, 0x2122), (0x9A, 0x161), (0x9B, 0x203A),
   (0x9C, 0x153), (0x9D, 0x9D), (0x9E, 0x17E), (0x9F, 0x178)]

/-- Ranges of numbers whose references vanish. -/
def vanishing : List (Nat × Nat) :=
  [(0x1, 0x8), (0xB, 0xB), (0xE, 0x1F), (0x7F, 0x9F), (0xFDD0, 0xFDEF), (0xFFFE, 0xFFFF),
   (0x1FFFE, 0x1FFFF), (0x2FFFE, 0x2FFFF), (0x3FFFE, 0x3FFFF), (0x4FFFE, 0x4FFFF),
   (0x5FFFE, 0x5FFFF), (0x6FFFE, 0x6FFFF), (0x7FFFE, 0x7FFFF), (0x8FFFE, 0x8FFFF),
   (0x9FFFE, 0x9FFFF), (0xAFFFE, 0xAFFFF), (0xBFFFE, 0xBFFFF), (0xCFFFE, 0xCFFFF),
   (0xDFFFE, 0xDFFFF), (0xEFFFE, 0xEFFFF), (0xFFFFE, 0xFFFFF), (0x10FFFE, 0x10FFFF)]

/-- What a numeric reference stands for. -/
def numeric (n : Nat) : Text :=
  match remapped.lookup n with
  | some m => [.ofNat m]
  | none =>
    if (0xD800 ≤ n ∧ n ≤ 0xDFFF) ∨ 0x10FFFF < n then [.scalar '\uFFFD']
    else if Text.inRanges vanishing n then []
    else [.ofNat n]

/-- The longest beginning of `name` with at least two and at most `length` code points that is
listed, resolved, with the rest of the name behind it. -/
def longestNamed? (name : Text) : Nat → Option Text
  | 0 => none
  | length + 1 =>
    if length + 1 < 2 then none
    else
      match named? (name.take (length + 1)) with
      | some t => some (t ++ name.drop (length + 1))
      | none => longestNamed? name length

/-- What a named reference stands for; an unknown name stands for itself. -/
def byName (name : Text) : Text :=
  match named? name with
  | some t => t
  | none => (longestNamed? name (name.length - 1)).getD (.scalar '&' :: name)

/-- Whether a code point may stand in a reference's name. -/
def isNamePoint (c : CodePoint) : Bool :=
  !(c = .scalar '\t' || c = .scalar '\n' || c = .scalar '\x0c' || c = .scalar ' ' ||
    c = .scalar '<' || c = .scalar '&' || c = .scalar '#' || c = .scalar ';')

/-- One if the text starts with a semicolon, else zero. -/
def semicolon (t : Text) : Nat :=
  match t with
  | .scalar ';' :: _ => 1
  | _ => 0

/-- The digits of a numeric reference in a base, after `skip` code points. -/
def digits? (base skip : Nat) (value? : CodePoint → Option Nat) (t : Text) : Option (Text × Nat) :=
  let body := t.drop skip
  let ds := (body.takeWhile fun c => (value? c).isSome).filterMap value?
  if ds.isEmpty then none
  else
    some (numeric (Text.fromDigits base ds), skip + ds.length + semicolon (body.drop ds.length))

/-- The reference that follows an ampersand: what it stands for and how many code points it
takes. -/
def reference? (t : Text) : Option (Text × Nat) :=
  match t with
  | .scalar '#' :: .scalar 'x' :: _ | .scalar '#' :: .scalar 'X' :: _ =>
    digits? 16 2 CodePoint.hexDigit? t
  | .scalar '#' :: _ => digits? 10 1 CodePoint.asciiDigit? t
  | _ =>
    let name := (t.takeWhile isNamePoint).take 32
    if name.isEmpty then none
    else
      let length := name.length + semicolon (t.drop name.length)
      some (byName (t.take length), length)

/-- Decodes a text whose first `skip` code points belong to a reference already resolved. -/
def decodeAfter : (skip : Nat) → Text → Text
  | _, [] => []
  | skip + 1, _ :: t => decodeAfter skip t
  | 0, c :: t =>
    if c = .scalar '&' then
      match reference? t with
      | some (resolved, length) => resolved ++ decodeAfter length t
      | none => c :: decodeAfter 0 t
    else c :: decodeAfter 0 t

/-- A text with its character references resolved. -/
def decode (t : Text) : Text := decodeAfter 0 t

/-- The number of digits of the decimal reference that follows an ampersand; zero if none does. -/
def decimalDigits (t : Text) : Nat :=
  match t with
  | .scalar '#' :: rest => (rest.takeWhile CodePoint.isAsciiDigit).length
  | _ => 0

/-- The number of digits of the first decimal reference with too many of them, in a text whose first
`skip` code points belong to a reference already passed. -/
def oversizedAfter : (skip : Nat) → Text → Option Nat
  | _, [] => none
  | skip + 1, _ :: t => oversizedAfter skip t
  | 0, c :: t =>
    if c = .scalar '&' then
      if Text.digitLimit < decimalDigits t then some (decimalDigits t)
      else
        match reference? t with
        | some (_, length) => oversizedAfter length t
        | none => oversizedAfter 0 t
    else oversizedAfter 0 t

/-- The number of digits of the first decimal reference with more of them than are read. -/
def oversized? (t : Text) : Option Nat := oversizedAfter 0 t

end Localization.Reference
