/-!
# Binary floating-point numbers

Numbers with a fraction or an exponent in a document, and the coverage percentages of a report, are
double-precision numbers. A finite one is `± mantissa · 2 ^ exponent` with a mantissa below
`2 ^ 53` and an exponent of at least `-1074`. All arithmetic is exact on natural numbers, followed
by one rounding to the nearest number, ties to the even mantissa.
-/

namespace Localization

/-- A double-precision number. -/
inductive Binary64 where
  | finite (negative : Bool) (mantissa : Nat) (exponent : Int)
  | infinite (negative : Bool)
  | nan
  deriving DecidableEq

namespace Binary64

/-- The quotient `num / (den · 2 ^ q)` as a fraction of natural numbers. -/
def scaled (num den : Nat) (q : Int) : Nat × Nat :=
  (num * Nat.pow 2 (-q).toNat, den * Nat.pow 2 q.toNat)

/-- The quotient of two natural numbers rounded to the nearest one, a tie to the even one. -/
def roundDiv (num den : Nat) : Nat :=
  let quotient := num / den
  let rest := 2 * (num % den)
  if rest < den then quotient
  else if den < rest then quotient + 1
  else quotient + quotient % 2

/-- The exponent of the grid on which `num / den` is rounded. -/
def gridExponent (num den : Nat) : Int :=
  let guess : Int := (num.log2 : Int) - (den.log2 : Int) - 53
  let (n, d) := scaled num den guess
  max (if Nat.pow 2 53 ≤ n / d then guess + 1 else guess) (-1074)

/-- The number nearest to `± num / den`. -/
def nearest (negative : Bool) (num den : Nat) : Binary64 :=
  if num = 0 then .finite negative 0 (-1074)
  else
    let q := gridExponent num den
    let (n, d) := scaled num den q
    let m := roundDiv n d
    let (m, q) := if m = Nat.pow 2 53 then (Nat.pow 2 52, q + 1) else (m, q)
    if 971 < q then .infinite negative else .finite negative m q

/-- The number nearest to `± digits · 10 ^ exponent`. -/
def ofDecimal (negative : Bool) (digits : Nat) (exponent : Int) : Binary64 :=
  if digits = 0 then .finite negative 0 (-1074)
  else if exponent > 400 then .infinite negative
  else if exponent + (Nat.toDigits 10 digits).length < -400 then .finite negative 0 (-1074)
  else nearest negative (digits * Nat.pow 10 exponent.toNat) (Nat.pow 10 (-exponent).toNat)

/-- The magnitude of a finite number as a fraction. -/
def fraction (m : Nat) (q : Int) : Nat × Nat := (m * Nat.pow 2 q.toNat, Nat.pow 2 (-q).toNat)

/-- A number times a natural number. -/
def timesNat (k : Nat) : Binary64 → Binary64
  | .finite s m q => let (n, d) := fraction m q; nearest s (k * n) d
  | x => x

/-- Whether a number is zero. -/
def isZero : Binary64 → Bool
  | .finite _ 0 _ => true
  | _ => false

/-- The integer a number equals, if it equals one. -/
def toInt? : Binary64 → Option Int
  | .finite s m q =>
    let (n, d) := fraction m q
    if n % d = 0 then some (if s then -((n / d : Nat) : Int) else ((n / d : Nat) : Int)) else none
  | _ => none

/-- Whether a number is below an integer. -/
def ltInt (x : Binary64) (k : Int) : Bool :=
  match x with
  | .finite s m q =>
    let (n, d) := fraction m q
    decide ((if s then -(n : Int) else (n : Int)) < k * (d : Int))
  | .infinite s => s
  | .nan => false

/-- The least integer that a number is not above. Beyond the largest numbers stands an integer that
none of them reaches, and what is no number is not above anything. -/
def ceiling : Binary64 → Int
  | .finite s m q =>
    let (n, d) := fraction m q
    if s then -((n / d : Nat) : Int) else (((n + d - 1) / d : Nat) : Int)
  | .infinite s => if s then -Int.ofNat (Nat.pow 2 1024) else Int.ofNat (Nat.pow 2 1024)
  | .nan => 0

end Binary64

end Localization
