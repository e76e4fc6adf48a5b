import Localization.Text.Utf8

/-!
# Source files

A source file is a list of characters together with its UTF-8 bytes. Syntax trees and edits speak
of byte offsets; reports speak of a line, counted from one, and a column, counted in characters from
zero. Only a line feed ends a line.
-/

namespace Localization

/-- A source file: its characters and their UTF-8 form. -/
structure Source where
  chars : List Char
  bytes : List UInt8
  bytes_eq : bytes = Utf8.encodeChars chars

/-- A line, counted from one, and a column, counted in characters from zero. -/
structure Location where
  line : Nat
  column : Nat
  deriving DecidableEq

namespace Source

/-- The source file with the given characters. -/
def ofChars (chars : List Char) : Source := ⟨chars, Utf8.encodeChars chars, rfl⟩

/-- The bytes from `start` up to `stop`. -/
def slice (s : Source) (start stop : Nat) : List UInt8 := (s.bytes.take stop).drop start

/-- The characters between two byte offsets; a slice that cuts a character has none. -/
def sliceText (s : Source) (start stop : Nat) : Except Utf8.DecodeFault Text :=
  (Utf8.decode (s.slice start stop)).map Text.ofChars

/-- The location of a byte offset. -/
def location (s : Source) (offset : Nat) : Location :=
  let front := s.bytes.take offset
  let onLine := (front.reverse.takeWhile (· ≠ 0x0A)).reverse
  ⟨front.count 0x0A + 1, Utf8.shownLength onLine⟩

end Source

end Localization
