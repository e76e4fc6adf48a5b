/-!
# Cancelling

Long runs can be stopped between files and between batches. A run that can be stopped asks before
each of them; `Checks` says after how many of these checks it is told to stop. What is under way is
never interrupted.
-/

namespace Localization

/-- How a run can be stopped: after a number of checks, or not at all. -/
abbrev Checks := Option Nat

/-- What is left of the checks after one more, or none if that one says to stop. -/
def Checks.step : Checks → Option Checks
  | none => some none
  | some 0 => none
  | some (n + 1) => some (some n)

end Localization
