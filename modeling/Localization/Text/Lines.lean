import Localization.Text.Utf8

/-!
# Line ends

Files that are read as text may end their lines with a carriage return, a line feed or both; all
three are read as one line feed.
-/

namespace Localization.Text

/-- A text with a line feed at every line end. -/
def unifyBreaks : List Char → List Char
  | [] => []
  | '\r' :: '\n' :: t => '\n' :: unifyBreaks t
  | '\r' :: t => '\n' :: unifyBreaks t
  | c :: t => c :: unifyBreaks t

/-- The text that the bytes of a file are read as. -/
def ofBytes (bytes : List UInt8) : Except Utf8.DecodeFault (List Char) :=
  (Utf8.decode bytes).map unifyBreaks

/-- The lines of a text, without their line feeds; nothing follows the last line feed. -/
def lines (t : Text) : List Text :=
  match (splitOn (.scalar '\n') t).reverse with
  | [] :: rest => rest.reverse
  | pieces => pieces.reverse

end Localization.Text
