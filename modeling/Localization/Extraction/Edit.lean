import Localization.Source

/-!
# Edits

An edit replaces a span of a file's bytes by a text. Edits speak of offsets in the file as it was,
so they are applied from the last one back to the first: what comes before an edit is not moved by
it. `weave` says the same in one pass over the gaps between edits.
-/

namespace Localization.Extraction

/-- Replaces the bytes from `start` up to `stop` by a text. -/
structure Edit where
  start : Nat
  stop : Nat
  replacement : Text
  deriving DecidableEq

namespace Edit

/-- Whether one edit is applied before another, or either may be first: the later span goes first. -/
def goesBefore (a b : Edit) : Bool :=
  b.start < a.start || (b.start = a.start && b.stop ≤ a.stop)

/-- The edits in the order in which they are applied. -/
def ordered (edits : List Edit) : List Edit := edits.mergeSort goesBefore

/-- Bytes with one span replaced. -/
def splice (bytes : List UInt8) (start stop : Nat) (new : List UInt8) : List UInt8 :=
  bytes.take start ++ new ++ bytes.drop (max start stop)

/-- Applies edits to bytes one after another. -/
def applyAll : List Edit → List UInt8 → Except Utf8.EncodeFault (List UInt8)
  | [], bytes => .ok bytes
  | e :: rest, bytes =>
    match Utf8.encode e.replacement with
    | .ok new => applyAll rest (splice bytes e.start e.stop new)
    | .error f => .error f

/-- The gaps between edits, given in increasing order from byte `offset` on, with the replacements
between them. -/
def weave (bytes : List UInt8) : (offset : Nat) → List (Nat × Nat × List UInt8) → List UInt8
  | offset, [] => bytes.drop offset
  | offset, (start, stop, new) :: rest =>
    (bytes.take start).drop offset ++ new ++ weave bytes stop rest

end Edit

end Localization.Extraction
