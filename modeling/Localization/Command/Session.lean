import Localization.Command.Console
import Localization.Config.Load
import Localization.Extraction.Parser
import Localization.Provider.Basic
import Localization.Store.Operations
import Localization.Text.Case

/-!
# Running commands

A command runs on a host: a working folder, environment variables, a clock, services, and the parser
and the names of characters that are installed there. What it changes and shows is kept in a
session. A command can end early by aborting, after it has shown why,
or by failing; what it did before stays.
-/

namespace Localization.Command

/-- What a command finds where it runs. -/
structure Host (σ : Type) where
  /-- The name the program was called by. -/
  program : Text
  /-- The working folder. -/
  folder : Path
  environment : Environment
  /-- The present time. -/
  now : Text
  /-- The service that settings name. -/
  service : ServiceConfig → Except Failure (Provider σ)
  /-- The parser of source files. -/
  parser : Extraction.Parser
  /-- The characters that regular expressions can name. -/
  characters : Regex.CharacterNames

/-- What commands change and show: the files with the warnings that are not shown yet, what was
shown, the records, the lines that are left to read, the text around them, and what the service
remembers. -/
structure Session (σ : Type) where
  disk : Disk
  shown : List Shown
  records : List Record
  input : List Text
  printed : Text
  service : σ

/-- Why a command ends early. -/
inductive Stop where
  | aborted
  | failed (failure : Failure)

/-- A command that runs in a session and may end early. -/
abbrev Running (σ : Type) := ExceptT Stop (StateM (Session σ))

variable {σ α : Type}

/-! ## Steps -/

/-- Shows something. -/
def present (s : Shown) : Running σ Unit := modify fun st => { st with shown := st.shown ++ [s] }

/-- Shows a line. -/
def say (line : Text) : Running σ Unit := present (.line line)

/-- Shows a line for each text of a list. -/
def sayEach (line : Text → Text) : List Text → Running σ Unit
  | [] => return
  | t :: rest => do
    say (line t)
    sayEach line rest

/-- Ends the command. -/
def abort : Running σ α := throw .aborted

/-- Goes on with a value, or fails. -/
def orFail (x : Except Failure α) : Running σ α :=
  match x with
  | .ok a => return a
  | .error f => throw (.failed f)

/-- Adds records. -/
def addRecords (records : List Record) : Running σ Unit :=
  modify fun st => { st with records := st.records ++ records }

/-- Goes on with the value of a computation that writes records, or fails. -/
def keepRecords (x : Logged α) : Running σ α := do
  addRecords x.records
  orFail x.result

/-- Runs an operation on the store; the warnings it gives are recorded. -/
def withStore (op : Storing α) : Running σ α := do
  let before := (← get).disk
  let (result, after) := op.run.run before
  modify fun st => { st with disk := after }
  addRecords ((after.warnings.drop before.warnings.length).map (⟨.warning, ·⟩))
  orFail result

/-- The files. -/
def files : Running σ FileTree := return (← get).disk.files

/-- Changes the files. -/
def putFiles (t : FileTree) : Running σ Unit :=
  modify fun st => { st with disk := { st.disk with files := t } }

/-- Shows the store's warnings that were not shown yet. -/
def showWarnings : Running σ Unit := do
  sayEach (fun w => "[yellow]Warning:[/yellow] " ++ w) (← get).disk.warnings
  modify fun st => { st with disk := { st.disk with warnings := [] } }

/-- Shows errors of files. -/
def showErrors (errors : List Text) : Running σ Unit :=
  sayEach (fun e => "[red]Error:[/red] " ++ e) errors

/-- Shows faults of the configuration and ends the command, if there are any. -/
def refuseFaults (faults : List Text) : Running σ Unit :=
  if faults.isEmpty then return
  else do
    say "[red]Configuration errors:[/red]"
    sayEach (fun f => "  - " ++ f) faults
    abort

/-! ## Configurations -/

/-- The path that a text gives, resolved below the working folder. -/
def resolved (h : Host σ) (given : Text) : Except Failure Path :=
  (Path.resolve h.folder (Path.ofText given)).mapError Config.pathFailure

/-- Finds the configuration, the one that was chosen or the nearest one. -/
def findConfig (h : Host σ) (chosen : Option Text) (t : FileTree) : Logged Config.Found :=
  match chosen with
  | some given => do
    let p ← .lift (resolved h given)
    Config.loadFile h.environment t (Path.ofText given).toText p
  | none => Config.search h.environment t h.folder

/-- Loads the configuration and checks it. -/
def loadConfig (h : Host σ) (chosen : Option Text) : Running σ Config := do
  let found ← keepRecords (findConfig h chosen (← files))
  let config ← orFail found.config
  refuseFaults (← orFail (config.faults h.characters))
  if let some file := found.file then say ("[dim]Using config " ++ file.toText ++ "[/dim]")
  return config

/-- Opens the store of a project. -/
def openStore (c : Config) : Running σ Store := do
  let store : Store := ⟨← orFail c.outputPath⟩
  withStore store.create
  return store

/-- Which source files of a project are taken. -/
def walkOf (c : Config) : Except Failure Extraction.Walk := do
  let output ← c.outputPath
  return ⟨← c.suffixes, [output.names]⟩

/-! ## New keys -/

/-- Merges new keys into a locale and saves it: how many came in, and how many there are. -/
def mergeKeys (store : Store) (now : Text) (locale : Json) (keys : Entries Text) :
    Storing (Int × Nat) := do
  let existing ← store.load locale
  let merged ← store.mergeWith locale (.obj (keys.map fun k => (k.1, .str k.2))) true
  let before := match existing with
    | some ⟨_, .obj fields, _, _, _⟩ => (Catalog.leafKeys fields).length
    | _ => 0
  let hashes := match existing with
    | some file => file.sourceHashes
    | none => []
  let _ ← store.save now locale (.obj merged) hashes
  let total := (Catalog.leafKeys merged).length
  return ((total : Int) - before, total)

/-- Merges new keys into the default locale and reports on it. -/
def updateDefault (h : Host σ) (c : Config) (keys : Entries Text) : Running σ Unit := do
  let store ← openStore c
  let (added, total) ← withStore (mergeKeys store h.now c.defaultLocale keys)
  showWarnings
  say ("[green]Updated:[/green] " ++ c.defaultLocale.bare ++ ".json (" ++ Text.ofInteger added ++
    " new, " ++ Text.ofNumber total ++ " total)")

end Localization.Command
