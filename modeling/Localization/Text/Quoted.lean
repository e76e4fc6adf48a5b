import Localization.Text.Digit
import Localization.Text.Printable

/-!
# Quoted texts

Messages quote the texts they mention. A quoted text stands in single quotes, or in double quotes
when it holds a single quote and no double one; the quote in use and the backslash are escaped,
line feeds, tabs and carriage returns have short escapes, and every other code point that is not
printable is written by its number.
-/

namespace Localization.Text

/-- One code point inside the given quotes. -/
def quotedPoint (quote c : CodePoint) : Text :=
  if c = quote ∨ c = .scalar '\\' then [.scalar '\\', c]
  else if c = .scalar '\n' then "\\n"
  else if c = .scalar '\t' then "\\t"
  else if c = .scalar '\r' then "\\r"
  else if c.isPrintable then [c]
  else if c.toNat < 0x100 then "\\x" ++ hex 2 c.toNat
  else if c.toNat < 0x10000 then "\\u" ++ hex 4 c.toNat
  else "\\U" ++ hex 8 c.toNat

/-- A text in quotes. -/
def quoted (t : Text) : Text :=
  let quote : CodePoint :=
    if .scalar '\'' ∈ t ∧ .scalar '"' ∉ t then .scalar '"' else .scalar '\''
  quote :: t.flatMap (quotedPoint quote) ++ [quote]

end Localization.Text
