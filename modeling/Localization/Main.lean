import Localization.Command.Run
import Localization.Moment
import Localization.Provider.Choice

/-!
# The program

Reads the files of a project, runs a command line on them, writes back what changed and shows what
the command shows. A question is put to the user by running the command again with one more line of
input, so the command itself stays a function. Services are not connected: every call of one fails.
No names of characters are installed.
-/

namespace Localization.Program

open Command

/-- A text as a string; surrogates have no place in one. -/
def stringOf (t : Text) : String :=
  String.ofList (t.filterMap fun c => match c with
    | .scalar c => some c
    | .surrogate _ => none)

/-- The string of an absolute path. -/
def pathString (names : List Text) : String := stringOf (Path.toText ⟨.root, names⟩)

/-! ## Files -/

/-- Folders that are not read. -/
def isLeftOut (name : String) : Bool :=
  name == ".git" || Extraction.Walk.dependencyFolders.contains (Text.ofString name)

/-- Reads what stands at a path. -/
partial def readTree (place : String) : IO FileTree := do
  let path ← IO.FS.realPath place
  if ← path.isDir then
    let mut entries := []
    for entry in ← path.readDir do
      unless isLeftOut entry.fileName do
        entries := (Text.ofString entry.fileName, ← readTree entry.path.toString) :: entries
    return .folder entries
  else return .file (← IO.FS.readBinFile place).toList

/-- Whether a folder holds a configuration. -/
def holdsConfig (names : List Text) : IO Bool := do
  for name in Config.fileNames do
    let handle ← (IO.FS.readBinFile (pathString (names ++ [name]))).toBaseIO
    if let .ok _ := handle then return true
  return false

/-- The highest folder at or above a folder that holds a configuration, else the folder itself. -/
def projectFolder (folder : Path) : IO (List Text) := do
  for p in folder.parents.reverse do
    if ← holdsConfig p.names then return p.names
  return folder.names

/-- A tree below folders with the given names. -/
def below (t : FileTree) : List Text → FileTree
  | [] => t
  | name :: names => .folder [(name, below t names)]

/-- Writes the files of one tree that another does not have as they are. -/
def writeChanges (before after : FileTree) : IO Unit := do
  let old := before.allFiles
  for (names, bytes) in after.allFiles do
    unless old.contains (names, bytes) do
      IO.FS.createDirAll (pathString names.dropLast)
      IO.FS.writeBinFile (pathString names) ⟨bytes.toArray⟩

/-! ## Surroundings -/

/-- The present time, which a new file takes. -/
def now : IO Text := do
  let (_, path) ← IO.FS.createTempFile
  let modified := (← path.metadata).modified
  IO.FS.removeFile path
  return Moment.toText ⟨modified.sec.toNat, modified.nsec.toNat / 1000⟩

/-- The environment variables that hold keys. -/
def environment : IO Environment := do
  let mut found : Environment := []
  for provider in ["openai", "deepl", "gemini"] do
    if let some name := ServiceConfig.keyVariable? provider then
      if let some value ← IO.getEnv (stringOf name) then
        found := Entries.set found name (Text.ofString value)
  return found

/-- The report on a call that was not made. -/
def notConnected : Failure := .client "no connection"

/-- Services that cannot be reached. -/
def unreachable : Provider.Choice.Senders Unit where
  chat s _ := (.error notConnected, s)
  gemini s _ := (.error notConnected, s)
  deepL s _ := (.error notConnected, s)

/-- What a command finds here. -/
def host : IO (Host Unit) := do
  return {
    program := "lokal"
    folder := Path.ofText (Text.ofString (← IO.currentDir).toString)
    environment := ← environment
    now := ← now
    service := fun s => do (← Provider.Choice.ofConfig s).service unreachable
    parser := Extraction.standardParser
    characters := Regex.CharacterNames.unnamed }

/-! ## Running -/

/-- Runs a command with the lines typed so far; `seen` and `printed` say what was shown already. -/
partial def converse (h : Host Unit) (t : FileTree) (args typed : List Text) (seen printed : Nat) :
    IO (Ending × Session Unit) := do
  let (ending, s) := Command.run h (.fresh t typed ()) args
  for shown in s.shown.drop seen do IO.println (stringOf shown.plain)
  let waits := match ending with
    | .aborted => s.printed.length > printed && s.input.isEmpty
    | _ => false
  let asked := s.printed.drop printed
  IO.print (stringOf asked)
  unless waits do return (ending, s)
  (← IO.getStdout).flush
  let line ← (← IO.getStdin).getLine
  if line.isEmpty then return (ending, s)
  let typedLine := (Text.lines (Text.ofString line)).headD []
  converse h t args (typed ++ [typedLine]) s.shown.length (s.printed.length + typedLine.length + 1)

/-- Reports how a run ended. -/
def report : Ending → IO Unit
  | .done => return
  | .aborted => IO.eprintln "Aborted!"
  | .misused f => IO.eprintln ("Error: " ++ stringOf f.message)
  | .failed f => IO.eprintln (stringOf f.message)

end Localization.Program

open Localization Localization.Program in
/-- Runs the command line. -/
def main (args : List String) : IO UInt32 := do
  let h ← host
  let project ← projectFolder h.folder
  let before := below (← readTree (pathString project)) project
  let (ending, s) ← converse h before (args.map Text.ofString) [] 0 0
  writeChanges before s.disk.files
  for r in s.records do IO.eprintln (stringOf r.message)
  report ending
  return UInt32.ofNat ending.code
