import Localization.Text.Ranges

/-!
# Blank code points

The code points that trimming and word splitting treat as blank: the separators of the Unicode
character database together with the control characters that act as white space. Bytes have a
narrower class of their own, the six ASCII blanks.
-/

namespace Localization

/-- The ranges of blank code points. -/
def blankRanges : List (Nat × Nat) :=
  [(0x9, 0xD), (0x1C, 0x20), (0x85, 0x85), (0xA0, 0xA0), (0x1680, 0x1680), (0x2000, 0x200A),
   (0x2028, 0x2029), (0x202F, 0x202F), (0x205F, 0x205F), (0x3000, 0x3000)]

namespace CodePoint

/-- Whether a code point is blank. -/
def isBlank (c : CodePoint) : Bool := Text.inRanges blankRanges c.toNat

/-- The six blanks of ASCII: space, tab, line feed, vertical tab, form feed, carriage return. -/
def isAsciiBlank (c : CodePoint) : Bool :=
  let n := c.toNat
  n == 0x20 || (0x09 ≤ n && n ≤ 0x0D)

end CodePoint

/-- The six ASCII blanks as bytes. -/
def isBlankByte (b : UInt8) : Bool := b == 0x20 || (0x09 ≤ b && b ≤ 0x0D)

namespace Text

/-- A text without blanks at either end. -/
def strip (t : Text) : Text := trim CodePoint.isBlank t

/-- The words of a text: its maximal runs of code points that are not blank. -/
def words (t : Text) : List Text := wordsBy CodePoint.isBlank t

end Text

end Localization
