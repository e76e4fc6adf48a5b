import Localization.Text.Basic

/-!
# Moments

A moment is the time since the start of 1970, in universal time. Its text has the date, the time of
day with six decimal places of the second if they are not all zero, and the distance from universal
time, which is none.
-/

namespace Localization

/-- Seconds since the start of 1970, and the millionths of a second after them. -/
structure Moment where
  seconds : Nat
  micros : Nat

namespace Moment

/-- A date. -/
structure Date where
  year : Nat
  month : Nat
  day : Nat
  deriving DecidableEq

/-- The date of a day, counted from the first day of 1970. Years are counted from March on, so that
the day that some years have more is the last one of its year; 400 years have 146097 days. -/
def dateOf (days : Nat) : Date :=
  let fromMarch := days + 719468
  let era := fromMarch / 146097
  let inEra := fromMarch % 146097
  let yearInEra := (inEra - inEra / 1460 + inEra / 36524 - inEra / 146096) / 365
  let inYear := inEra - (365 * yearInEra + yearInEra / 4 - yearInEra / 100)
  let month := (5 * inYear + 2) / 153
  let day := inYear - (153 * month + 2) / 5 + 1
  let year := 400 * era + yearInEra
  if month < 10 then ⟨year, month + 3, day⟩ else ⟨year + 1, month - 9, day⟩

/-- A number with zeros in front of it, to a width. -/
def padded (width n : Nat) : Text :=
  let digits := Text.ofNumber n
  List.replicate (width - digits.length) (.scalar '0') ++ digits

/-- The text of a moment. -/
def toText (m : Moment) : Text :=
  let date := dateOf (m.seconds / 86400)
  let second := m.seconds % 86400
  let fraction : Text := if m.micros = 0 then [] else "." ++ padded 6 m.micros
  padded 4 date.year ++ "-" ++ padded 2 date.month ++ "-" ++ padded 2 date.day ++ "T" ++
    padded 2 (second / 3600) ++ ":" ++ padded 2 (second / 60 % 60) ++ ":" ++ padded 2 (second % 60) ++
    fraction ++ "+00:00"

/-- The last day of February in a year that has it, and the first day of March after it. -/
example : dateOf 19782 = ⟨2024, 2, 29⟩ ∧ dateOf 19783 = ⟨2024, 3, 1⟩ ∧ dateOf 0 = ⟨1970, 1, 1⟩ := by
  decide

end Moment

end Localization
