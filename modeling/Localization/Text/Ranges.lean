import Localization.Text.Basic

/-!
# Classes of code points given by ranges

A property of the Unicode character database is stored as the increasing list of its ranges, both
ends included. Membership walks the list and stops at the first range that starts above the number
asked for, so the common low code points are decided by the first few ranges.
-/

namespace Localization.Text

/-- Whether a number lies in one of the ranges of an increasing list. -/
def inRanges : List (Nat × Nat) → Nat → Bool
  | [], _ => false
  | (low, high) :: rest, n => if n < low then false else n ≤ high || inRanges rest n

/-- The range of an increasing list that holds a number. -/
def rangeOf? : List (Nat × Nat) → Nat → Option (Nat × Nat)
  | [], _ => none
  | (low, high) :: rest, n =>
    if n < low then none else if n ≤ high then some (low, high) else rangeOf? rest n

end Localization.Text
