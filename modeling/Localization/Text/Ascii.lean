import Localization.Text.Basic

/-!
# ASCII letters and digits

The classes of code points that keys, slugs, schemes and numbers are made of.
-/

namespace Localization.CodePoint

/-- Whether a code point is an ASCII letter from `A` to `Z`. -/
def isAsciiUpper (c : CodePoint) : Bool := 0x41 ≤ c.toNat && c.toNat ≤ 0x5A

/-- Whether a code point is an ASCII letter from `a` to `z`. -/
def isAsciiLower (c : CodePoint) : Bool := 0x61 ≤ c.toNat && c.toNat ≤ 0x7A

/-- Whether a code point is an ASCII letter. -/
def isAsciiLetter (c : CodePoint) : Bool := c.isAsciiUpper || c.isAsciiLower

/-- Whether a code point is one of the digits `0` to `9`. -/
def isAsciiDigit (c : CodePoint) : Bool := 0x30 ≤ c.toNat && c.toNat ≤ 0x39

/-- The value of one of the digits `0` to `9`. -/
def asciiDigit? (c : CodePoint) : Option Nat :=
  if c.isAsciiDigit then some (c.toNat - 0x30) else none

/-- The value of a hexadecimal digit. -/
def hexDigit? (c : CodePoint) : Option Nat :=
  let n := c.toNat
  if 0x30 ≤ n ∧ n ≤ 0x39 then some (n - 0x30)
  else if 0x41 ≤ n ∧ n ≤ 0x46 then some (n - 0x41 + 10)
  else if 0x61 ≤ n ∧ n ≤ 0x66 then some (n - 0x61 + 10)
  else none

/-- The value of an octal digit. -/
def octalDigit? (c : CodePoint) : Option Nat :=
  if 0x30 ≤ c.toNat ∧ c.toNat ≤ 0x37 then some (c.toNat - 0x30) else none

end Localization.CodePoint
