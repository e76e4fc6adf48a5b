import Localization.Json.Basic
import Localization.Number.Shortest
import Localization.Text.Digit
import Localization.Text.Quoted

/-!
# Documents as text

Three written forms share one printer. The stored form breaks every object and array over lines and
indents by two spaces; the compact form has no blanks at all; the canonical form is the compact one
with the fields of every object in increasing order of their names, so it does not depend on the
order in which they came in. A fourth form, `shown`, is the one used inside messages.
-/

namespace Localization.Json

/-! ## Strings -/

/-- A code point in a JSON string: quotes, backslashes and controls are escaped. -/
def escapedPoint (c : CodePoint) : Text :=
  if c = .scalar '"' then "\\\""
  else if c = .scalar '\\' then "\\\\"
  else if c = .scalar '\n' then "\\n"
  else if c = .scalar '\r' then "\\r"
  else if c = .scalar '\t' then "\\t"
  else if c = .scalar '\x0c' then "\\f"
  else if c = .scalar '\x08' then "\\b"
  else if c.toNat < 0x20 then "\\u" ++ Text.hex 4 c.toNat
  else [c]

/-- A code point in an ASCII-only JSON string: whatever is not printable ASCII is written by its
UTF-16 units. -/
def asciiPoint (c : CodePoint) : Text :=
  let n := c.toNat
  if n < 0x7F then escapedPoint c
  else if n < 0x10000 then "\\u" ++ Text.hex 4 n
  else
    "\\u" ++ Text.hex 4 (0xD800 + (n - 0x10000) / 0x400) ++ "\\u" ++
      Text.hex 4 (0xDC00 + (n - 0x10000) % 0x400)

/-- A text as a JSON string, each code point written by `point`. -/
def quoteWith (point : CodePoint → Text) (t : Text) : Text :=
  .scalar '"' :: t.flatMap point ++ [.scalar '"']

/-! ## Values -/

/-- How a document is laid out: `indent` spaces per level over several lines, or all on one line
with nothing between the tokens. -/
structure Style where
  indent : Option Nat
  sortFields : Bool
  point : CodePoint → Text

/-- The form documents are stored in. -/
def Style.stored : Style := ⟨some 2, false, escapedPoint⟩

/-- The stored form restricted to ASCII. -/
def Style.ascii : Style := ⟨some 2, false, asciiPoint⟩

/-- The form without blanks. -/
def Style.compact : Style := ⟨none, false, escapedPoint⟩

/-- The form without blanks and with sorted fields. -/
def Style.canonical : Style := ⟨none, true, escapedPoint⟩

/-- The line break in front of an item at a depth. -/
def Style.lineBreak (style : Style) (depth : Nat) : Text :=
  match style.indent with
  | none => []
  | some n => .scalar '\n' :: List.replicate (n * depth) (.scalar ' ')

/-- What stands between a field's name and its value. -/
def Style.colon (style : Style) : Text :=
  match style.indent with
  | none => ":"
  | some _ => ": "

/-- Items between brackets. -/
def Style.enclose (style : Style) (depth : Nat) (opening closing : Char) (items : List Text) :
    Text :=
  if items.isEmpty then [.scalar opening, .scalar closing]
  else
    .scalar opening :: style.lineBreak (depth + 1) ++
      Text.join (.scalar ',' :: style.lineBreak (depth + 1)) items ++
      style.lineBreak depth ++ [.scalar closing]

mutual

/-- The text of a value at a depth. -/
def write (style : Style) (depth : Nat) : Json → Text
  | .null => "null"
  | .bool true => "true"
  | .bool false => "false"
  | .int n => Text.ofInteger n
  | .float x => x.render Binary64.documentLayout
  | .str t => quoteWith style.point t
  | .arr items => style.enclose depth '[' ']' (writeItems style (depth + 1) items)
  | .obj fields =>
    let written := writeFields style (depth + 1) fields
    let written := if style.sortFields then Entries.sorted written else written
    style.enclose depth '{' '}'
      (written.map fun f => quoteWith style.point f.1 ++ style.colon ++ f.2)

/-- The texts of the values of a list. -/
def writeItems (style : Style) (depth : Nat) : List Json → List Text
  | [] => []
  | j :: rest => write style depth j :: writeItems style depth rest

/-- The texts of the values of an object, with their names. -/
def writeFields (style : Style) (depth : Nat) : List (Text × Json) → List (Text × Text)
  | [] => []
  | (k, j) :: rest => (k, write style depth j) :: writeFields style depth rest

end

/-- The text of a document in a style. -/
def render (style : Style) (j : Json) : Text := write style 0 j

/-- The text of a document without blanks. -/
def compact (j : Json) : Text := render .compact j

/-! ## Values in messages -/

mutual

/-- A value inside a message: strings are quoted. -/
def shown : Json → Text
  | .null => "None"
  | .bool true => "True"
  | .bool false => "False"
  | .int n => Text.ofInteger n
  | .float x => x.render Binary64.messageLayout
  | .str t => t.quoted
  | .arr items => "[" ++ Text.join ", " (shownItems items) ++ "]"
  | .obj fields => "\x7b" ++ Text.join ", " (shownFields fields) ++ "\x7d"

/-- The values of a list inside a message. -/
def shownItems : List Json → List Text
  | [] => []
  | j :: rest => shown j :: shownItems rest

/-- The fields of an object inside a message. -/
def shownFields : List (Text × Json) → List Text
  | [] => []
  | (k, j) :: rest => (k.quoted ++ ": " ++ shown j) :: shownFields rest

end

/-- A value put into a message as it is: a string stands without quotes. -/
def bare : Json → Text
  | .str t => t
  | j => j.shown

end Localization.Json
