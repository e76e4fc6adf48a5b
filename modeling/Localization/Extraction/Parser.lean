import Localization.Path
import Localization.Syntax.Parse
import Localization.Text.Case

/-!
# Which dialect a file is in

Plain typed modules are told by their suffix, in whatever case it is written; every other file may
hold markup. Extraction takes the parser as an argument, so that a parser which refuses a file can
stand in for this one.
-/

namespace Localization.Extraction

open Syntax

/-- The suffixes of plain typed modules. -/
def typedSuffixes : List Text := ([".ts", ".mts", ".cts"] : List String).map Text.ofString

/-- The dialect of the file with a name. -/
def dialectOf (file : Text) : Dialect :=
  if typedSuffixes.contains (Path.ofText file).suffix.lower then .typed else .markup

/-- Reads a file, given its name, or says why it cannot. -/
abbrev Parser := (file : Text) → Source → Except Text Tree

/-- The parser that reads every file. -/
def standardParser : Parser := fun file source => .ok (parse (dialectOf file) source)

end Localization.Extraction
