import Localization.Config.Check
import Localization.Config.Script
import Localization.Json.Reader
import Localization.Text.Lines

/-!
# Finding configurations

A configuration is searched in a folder and then in every folder above it; in each, four names are
tried in a fixed order. A package's own document counts only if it has a section for this program.
A document that is broken stops the search, except a package's, which is reported and passed over.
-/

namespace Localization.Config

/-- The names of files that may hold a configuration, in the order in which they are tried. -/
def fileNames : List Text :=
  (["lokal.config.json", "lokal.config.js", "lokal.config.cjs", "package.json"] : List String).map
    Text.ofString

/-- Reads a document; one that is broken is reported by `broken`. -/
def documentOf (content : Text) (broken : Text → Failure) : Except Failure Json :=
  (Json.read content).mapError fun f =>
    if f.fault.isMalformed then broken (f.message content) else .invalid (f.message content)

/-- The settings in a package's document, if it has a section for this program. -/
def packageSettings (p : Path) (content : Text) : Logged (Option (Entries Json)) :=
  match Json.read content with
  | .ok j =>
    match j.field? "lokal" with
    | some (.obj fields) => pure (some fields)
    | _ => pure none
  | .error f =>
    if f.fault.isMalformed then do
      .warn ("Failed to parse " ++ p.toText ++ ": " ++ f.message content)
      return none
    else .fail (.invalid (f.message content))

/-- The settings in a file's content, by the file's name. -/
def settingsOf (p : Path) (content : Text) : Logged (Option (Entries Json)) :=
  if p.name = Text.ofString "package.json" then packageSettings p content
  else if p.suffix = Text.ofString ".json" then do
    let j ← .lift (documentOf content fun reason =>
      .config ("Invalid JSON in " ++ p.toText ++ ": " ++ reason))
    match j with
    | .obj fields => return some fields
    | _ => .fail (.config ("Expected an object in " ++ p.toText))
  else pure (some (Script.read content))

/-- Reads the settings of a file; none if it has none. -/
def readFile (t : FileTree) (p : Path) : Logged (Option (Entries Json)) :=
  match t.readBytes p with
  | .error f => do
    .warn ("Failed to read config " ++ p.toText ++ ": " ++ f.message p.toText)
    return none
  | .ok bytes => do
    let chars ← .lift ((Text.ofBytes bytes).mapError .decoding)
    settingsOf p (Text.ofChars chars)

/-- Whether there is a file at a path. -/
def isFileAt (t : FileTree) (p : Path) : Except Failure Bool :=
  match t.at? p with
  | .ok tree => .ok tree.isFile
  | .error .nameTooLong => .error (.files .nameTooLong p.toText)
  | .error _ => .ok false

/-- A configuration that was found, with the file it is from. -/
structure Found where
  file : Option Path
  config : Except Failure Config

/-- The first of some files that has settings. -/
def firstOf (t : FileTree) : List Path → Logged (Option (Path × Entries Json))
  | [] => pure none
  | p :: rest => do
    if ← .lift (isFileAt t p) then
      match ← readFile t p with
      | some settings => return some (p, settings)
      | none => firstOf t rest
    else firstOf t rest

/-- The files that may hold the configuration of a folder, the nearest first. -/
def candidateFiles (start : Path) : List Path :=
  (start :: start.parents).flatMap fun folder => fileNames.map folder.child

/-- Finds the configuration for a folder. -/
def search (env : Environment) (t : FileTree) (start : Path) : Logged Found := do
  match ← firstOf t (candidateFiles start) with
  | some (p, settings) => return ⟨some p, ofDocument env p.parent settings⟩
  | none => return ⟨none, .ok (standard start)⟩

/-- Loads the configuration in a file; `shown` is the path as it was given. -/
def loadFile (env : Environment) (t : FileTree) (shown : Text) (p : Path) : Logged Found := do
  if !(← .lift (isFileAt t p)) then
    .fail (.config ("Config file not found: " ++ shown))
  else
    let settings := (← readFile t p).getD []
    return ⟨some p, ofDocument env p.parent settings⟩

end Localization.Config
