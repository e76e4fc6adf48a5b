import Localization.Config.Basic
import Localization.Filter

/-!
# Checking configurations

A configuration is checked before it is used; every fault that is found is reported. Values that are
no lists, texts or numbers where these are needed stop the check.
-/

namespace Localization.Config

/-- What a path's faults are as failures. -/
def pathFailure : PathFault → Failure
  | .embeddedNull => .invalid "embedded null byte"
  | .notEncodable => .unencodable

/-- A folder of the project, resolved below its root. -/
def folder (c : Config) (value : Json) : Except Failure Path :=
  match value with
  | .str t => (Path.resolve c.root (Path.ofText t)).mapError pathFailure
  | j => .error (.wrongType ("unsupported operand type(s) for /: 'PosixPath' and '" ++
      j.kindName ++ "'"))

/-- The folder of the sources. -/
def sourcePath (c : Config) : Except Failure Path := c.folder c.sourceDir

/-- The folder of the locales. -/
def outputPath (c : Config) : Except Failure Path := c.folder c.outputDir

/-- The locales to translate into: all but the default one. -/
def targetLocales (c : Config) : Except Failure (List Json) := do
  return (← c.locales.members).filter fun l => !l.same c.defaultLocale

/-! ## Faults -/

/-- Whether a text is a name: a first character of a class, then characters of names in code. A line
feed at its end is let through. -/
def isNameWith (first : CodePoint → Bool) (t : Text) : Bool :=
  match t with
  | c :: rest =>
    first c && (rest.all Filter.isCodePoint ||
      (rest.getLast? == some (.scalar '\n') && rest.dropLast.all Filter.isCodePoint))
  | [] => false

/-- The first characters of a function's name. -/
def startsFunction (c : CodePoint) : Bool :=
  c.isAsciiLetter || c = .scalar '_' || c = .scalar '$'

/-- The text of a setting that must be one. -/
def textOf : Json → Except Failure Text
  | .str t => .ok t
  | j => .error (.wrongType ("expected string or bytes-like object, got '" ++ j.kindName ++ "'"))

/-- The fault of a name. -/
def nameFaults (setting what : Text) (first : CodePoint → Bool) (value : Json) :
    Except Failure (List Text) := do
  let t ← textOf value
  return if isNameWith first t then []
    else [setting ++ " '" ++ t ++ "' is not a valid " ++ what]

/-- Whether a value is below one. -/
def isBelowOne : Json → Except Failure Bool
  | .int n => .ok (n < 1)
  | .bool b => .ok (!b)
  | .float x => .ok (x.ltInt 1)
  | j => .error (.wrongType ("'<' not supported between instances of '" ++ j.kindName ++
      "' and 'int'"))

/-- Reads a value as a regular expression. -/
def patternOf (characters : Regex.CharacterNames) : Json → Except Failure Regex
  | .str t => (Regex.compile characters t).mapError fun f => .pattern f t
  | .arr _ => .error (.wrongType "unhashable type: 'list'")
  | .obj _ => .error (.wrongType "unhashable type: 'dict'")
  | _ => .error (.wrongType "first argument must be string or compiled pattern")

/-- The fault of a regular expression; only one of form is reported. -/
def patternFaults (characters : Regex.CharacterNames) (value : Json) : Except Failure (List Text) :=
  match patternOf characters value with
  | .ok _ => .ok []
  | .error (.pattern (.malformed reason place) t) =>
    .ok ["Invalid exclude pattern " ++ t.quoted ++ ": " ++
      (Failure.pattern (.malformed reason place) t).message]
  | .error e => .error e

/-- The faults of a list of regular expressions. -/
def allPatternFaults (characters : Regex.CharacterNames) : List Json → Except Failure (List Text)
  | [] => .ok []
  | p :: rest => do
    let faults ← patternFaults characters p
    return faults ++ (← allPatternFaults characters rest)

/-- A fault that is reported on a condition. -/
def faultIf (condition : Bool) (message : Text) : List Text := if condition then [message] else []

/-- The faults of a configuration. -/
def faults (characters : Regex.CharacterNames) (c : Config) : Except Failure (List Text) := do
  let isListed ← c.defaultLocale.isIn c.locales
  let functionFaults ← nameFaults "functionName" "identifier" startsFunction c.functionName
  let componentFaults ←
    nameFaults "componentName" "component name" CodePoint.isAsciiUpper c.componentName
  let isShort ← isBelowOne c.minLength
  let patterns ← allPatternFaults characters (← c.excludePatterns.members)
  return faultIf (!c.locales.isTruthy) "locales must not be empty" ++
    faultIf (!isListed)
      ("defaultLocale '" ++ c.defaultLocale.bare ++ "' is not listed in locales") ++
    functionFaults ++ componentFaults ++
    faultIf isShort "minLength must be at least 1" ++ patterns

/-- The faults of the settings of a service. -/
def serviceFaults (c : Config) : List Text :=
  match c.service with
  | none => ["AI provider not configured. Add an \"ai\" section to lokal.config.json"]
  | some s =>
    match ServiceConfig.keyVariable? s.provider with
    | none => ["Unknown translation provider: " ++ s.provider]
    | some name => if s.apiKey.isTruthy then [] else [name ++ " is not set"]

/-! ## Use -/

/-- The least length of a text to wrap. -/
def leastLength : Json → Int
  | .int n => n
  | .bool b => if b then 1 else 0
  | .float x => x.ceiling
  | _ => 0

/-- The filter of a project. -/
def filter (characters : Regex.CharacterNames) (c : Config) : Except Failure Filter := do
  let patterns ← (← c.excludePatterns.members).mapM (patternOf characters)
  return ⟨leastLength c.minLength, patterns⟩

/-- The suffixes of a project's source files. -/
def suffixes (c : Config) : Except Failure (List Text) := do
  (← c.extensions.members).mapM fun e =>
    match e with
    | .str t => .ok t.lower
    | j => .error (.noMember ("'" ++ j.kindName ++ "' object has no attribute 'lower'"))

end Localization.Config
