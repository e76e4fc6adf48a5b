import Localization.Number.Binary64
import Localization.Text.Basic

/-!
# Decimal text of binary numbers

A double-precision number is written with the fewest digits that read back as the same number, the
nearest to it among those. The reals that round to `m · 2 ^ q` form an interval around it whose
ends belong to it when `m` is even; in units of `2 ^ (q - 2)` the number is `4 m`, so both ends are
natural numbers and every comparison is exact. A second layout writes a fixed number of places,
with a tie going to the even digit.
-/

namespace Localization.Binary64

/-- Compares `c · 10 ^ s` with `x · 2 ^ (q - 2)`: the two sides as natural numbers. -/
def sides (c : Nat) (s : Int) (x : Nat) (q : Int) : Nat × Nat :=
  (c * Nat.pow 10 s.toNat * Nat.pow 2 (2 - q).toNat,
   x * Nat.pow 10 (-s).toNat * Nat.pow 2 (q - 2).toNat)

/-- Whether the decimal `c · 10 ^ s` reads back as `m · 2 ^ q`. -/
def readsBack (m : Nat) (q : Int) (c : Nat) (s : Int) : Bool :=
  let low := if m = Nat.pow 2 52 ∧ -1074 < q then 4 * m - 1 else 4 * m - 2
  let (cl, l) := sides c s low q
  let (ch, h) := sides c s (4 * m + 2) q
  if m % 2 = 0 then decide (l ≤ cl) && decide (ch ≤ h) else decide (l < cl) && decide (ch < h)

/-- The place `k` of the first digit: `10 ^ (k - 1) ≤ m · 2 ^ q < 10 ^ k`. -/
def firstPlace (m : Nat) (q : Int) : Int :=
  let found := (List.range 640).find? fun (i : Nat) =>
    let (c, x) := sides 1 (309 - (i : Int)) (4 * m) q
    decide (c ≤ x)
  310 - (found.getD 640 : Int)

/-- The decimals with `count` digits nearest to `m · 2 ^ q` from below and above, and the better of
those that read back. -/
def candidate? (m : Nat) (q k : Int) (count : Nat) : Option (Nat × Int) :=
  let s := k - count
  let (unit, x) := sides 1 s (4 * m) q
  let down := x / unit
  let rest := x % unit
  let downOk := readsBack m q down s
  let upOk := readsBack m q (down + 1) s
  if downOk && upOk then
    if 2 * rest < unit then some (down, s)
    else if unit < 2 * rest then some (down + 1, s)
    else some (down + down % 2, s)
  else if downOk then some (down, s)
  else if upOk then some (down + 1, s)
  else none

/-- The shortest decimal `digits · 10 ^ exponent` that reads back as `m · 2 ^ q`, for `m > 0`. -/
def shortest (m : Nat) (q : Int) : Nat × Int :=
  let k := firstPlace m q
  ((List.range 17).findSome? fun i => candidate? m q k (i + 1)).getD (m, 0)

/-- Digits without the zeros at their end. -/
def trimZeros (digits : List Char) : List Char :=
  (digits.reverse.dropWhile (· == '0')).reverse

/-- Where the layouts of a number change: positional while the first digit's place is above
`positionalAbove` and at most `positionalUpTo`, an exponent of at least two digits otherwise. -/
structure Layout where
  positionalAbove : Int
  positionalUpTo : Int
  infinityText : String
  nanText : String

/-- Digits with a point after the first `k` places. -/
def Layout.write (layout : Layout) (digits : List Char) (k : Int) : List Char :=
  if layout.positionalAbove < k ∧ k ≤ layout.positionalUpTo then
    if k ≤ 0 then ['0', '.'] ++ List.replicate (-k).toNat '0' ++ digits
    else
      let whole := digits.take k.toNat
      let zeros := List.replicate (k.toNat - whole.length) '0'
      let part := digits.drop k.toNat
      whole ++ zeros ++ ['.'] ++ (if part.isEmpty then ['0'] else part)
  else
    let head := digits.take 1
    let part := digits.drop 1
    let e := k - 1
    let places := Nat.toDigits 10 e.natAbs
    head ++ (if part.isEmpty then [] else '.' :: part) ++ ['e', if e < 0 then '-' else '+'] ++
      List.replicate (2 - places.length) '0' ++ places

/-- The text of a number in a layout. -/
def render (layout : Layout) : Binary64 → Text
  | .nan => Text.ofString layout.nanText
  | .infinite s => Text.ofString ((if s then "-" else "") ++ layout.infinityText)
  | .finite s m q =>
    let sign : List Char := if s then ['-'] else []
    if m = 0 then Text.ofChars (sign ++ ['0', '.', '0'])
    else
      let (c, e) := shortest m q
      let digits := Nat.toDigits 10 c
      Text.ofChars (sign ++ layout.write (trimZeros digits) (digits.length + e))

/-- Numbers in documents. -/
def documentLayout : Layout := ⟨-4, 16, "Infinity", "NaN"⟩

/-- Numbers in messages. -/
def messageLayout : Layout := ⟨-4, 16, "inf", "nan"⟩

/-- A finite number with one decimal place, a tie to the even digit. -/
def oneDecimal : Binary64 → Text
  | .finite s m q =>
    let (n, d) := fraction m q
    let tenths := roundDiv (10 * n) d
    (if s then ("-" : Text) else []) ++ Text.ofNumber (tenths / 10) ++ "." ++
      Text.ofNumber (tenths % 10)
  | x => render messageLayout x

end Localization.Binary64
