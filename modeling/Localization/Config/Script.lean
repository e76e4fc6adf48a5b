import Localization.Json.Basic
import Localization.Text.Blank
import Localization.Text.Word

/-!
# Configurations in scripts

A configuration may be a script that exports an object. Only settings that are written out are read:
texts in quotes, the list of locales, and a section for the service. Lines that are comments are
taken out first. Everything that would have to be computed is left to the defaults.
-/

namespace Localization.Script

/-! ## Comments -/

/-- Whether a line is a comment. -/
def isComment (line : Text) : Bool := Text.startsWith (line.dropWhile CodePoint.isBlank) "//"

/-- Lines with every comment, and the blank lines right before it, replaced by one empty line;
`held` are the blank lines that are not followed by anything yet. -/
def dropComments (held : List Text) : List Text → List Text
  | [] => held
  | line :: rest =>
    if isComment line then [] :: dropComments [] rest
    else if line.all CodePoint.isBlank then dropComments (held ++ [line]) rest
    else held ++ line :: dropComments [] rest

/-- A script without its comments. -/
def withoutComments (t : Text) : Text :=
  Text.join "\n" (dropComments [] (Text.splitOn (.scalar '\n') t))

/-! ## Settings -/

/-- What stands between the start of a text and the first code point of a class. -/
def upTo? (p : CodePoint → Bool) (t : Text) : Option Text :=
  if t.any p then some (t.takeWhile fun c => !p c) else none

/-- The value of a setting at the start of a text: after its name and a colon, perhaps blanks, an
opening mark, and then what `read` finds. -/
def valueHere? (name : Text) (opens : CodePoint → Bool) (read : Text → Option Text) (t : Text) :
    Option Text :=
  (Text.dropLead? (name ++ ":") t).bind fun after =>
    match after.dropWhile CodePoint.isBlank with
    | c :: rest => if opens c then read rest else none
    | [] => none

/-- The first value of a setting in a text. `wholeWord` asks that no word runs into its name; then
`inWord` says whether one ends right before the text. -/
def value? (name : Text) (wholeWord : Bool) (opens : CodePoint → Bool) (read : Text → Option Text)
    (inWord : Bool) : Text → Option Text
  | [] => none
  | c :: t =>
    match if wholeWord && inWord then none else valueHere? name opens read (c :: t) with
    | some v => some v
    | none => value? name wholeWord opens read c.isWord t

/-- Quotes around a text. -/
def isQuote (c : CodePoint) : Bool := c = .scalar '\'' || c = .scalar '"'

/-- A text up to a quote on the same line. -/
def quotedText? (t : Text) : Option Text :=
  match t.dropWhile fun c => !isQuote c && c ≠ .scalar '\n' with
  | c :: _ => if isQuote c then upTo? isQuote t else none
  | [] => none

/-- The value of a setting that is a text in quotes. -/
def textSetting? (t name : Text) : Option Text := value? name true isQuote quotedText? false t

/-- The locales of a script. -/
def locales? (t : Text) : Option (List Text) :=
  (value? "locales" false (· = .scalar '[') (upTo? (· = .scalar ']')) false t).map fun items =>
    (((Text.splitOn (.scalar ',') items).map Text.strip).filter fun i => !i.isEmpty).map
      (Text.trim isQuote)

/-- The section for the service. -/
def section? (t : Text) : Option Text :=
  value? "ai" true (· = .scalar '\x7b') (upTo? (· = .scalar '\x7d')) false t

/-- The settings of a text that have values, in the order of their names. -/
def settings (t : Text) (names : List String) : List (Text × Json) :=
  names.filterMap fun name =>
    (textSetting? t (Text.ofString name)).map fun v => (Text.ofString name, .str v)

/-- The settings that a script writes out. -/
def read (script : Text) : List (Text × Json) :=
  let t := withoutComments script
  let locales : List (Text × Json) :=
    match locales? t with
    | some ls => [("locales", .arr (ls.map .str))]
    | none => []
  let plain := settings t ["defaultLocale", "functionName", "componentName", "sourceDir",
    "outputDir", "keyPrefix", "importSource"]
  let service := (section? t).map fun s => settings s ["provider", "apiKey", "model"]
  let ai : List (Text × Json) :=
    match service with
    | some (f :: fs) => [("ai", .obj (f :: fs))]
    | _ => []
  locales ++ plain ++ ai

end Localization.Script
