import Localization.Files
import Localization.Json.Printer
import Localization.Report
import Localization.Text.Blank

/-!
# The storage folder

Every locale has one file `<locale>.json` directly in the storage folder. A locale's name is checked
before any file is touched: a blank name, a name with two dots in a row, and a name with a slash, a
backslash or a null are refused, so no name leads out of the folder. Operations work on a disk: the
files, and the warnings given so far. An operation that fails says why and leaves the disk as its
steps up to the failure made it.
-/

namespace Localization

/-- The files a store works on, and the warnings it has given. -/
structure Disk where
  files : FileTree
  warnings : List Text

/-- An operation on a disk that may fail. -/
abbrev Storing := ExceptT Failure (StateM Disk)

/-- The folder that a project's locales are stored in. -/
structure Store where
  base : Path

namespace Store

/-! ## Names of locales -/

/-- Whether a name would lead out of the storage folder. -/
def leadsOut (name : Text) : Bool :=
  name.contains (.scalar '/') || name.contains (.scalar '\\') || name.contains (.scalar '\x00')

/-- The name of a locale's file. -/
def fileName (locale : Text) : Text := locale ++ ".json"

/-- The name a value gives to a locale. -/
def localeName (locale : Json) : Except Failure Text :=
  match locale with
  | .str name =>
    if name.strip.isEmpty then .error (.security ("Invalid locale identifier: " ++ locale.shown))
    else if name.holds ".." then
      .error (.security ("Invalid locale path contains traversal: " ++ name))
    else if leadsOut name then
      .error (.security ("Invalid locale path access outside of storage directory: " ++ name))
    else .ok name
  | _ => .error (.security ("Invalid locale identifier: " ++ locale.shown))

/-- The file of a locale. -/
def filePath (s : Store) (locale : Json) : Except Failure Path :=
  (localeName locale).map fun name => s.base.child (fileName name)

/-! ## Steps -/

/-- Reads the files. -/
def files : Storing FileTree := return (← get).files

/-- Gives a warning. -/
def warn (message : Text) : Storing Unit :=
  modify fun d => { d with warnings := d.warnings ++ [message] }

/-- Changes the files; a refusal is reported with the path it concerns. -/
def change (path : Path) (f : FileTree → Except FileFault FileTree) : Storing Unit := do
  match f (← files) with
  | .ok t => modify fun d => { d with files := t }
  | .error e => throw (.files e path.toText)

/-- Whether there is something at a path; only a name that is too long is an error. -/
def present (path : Path) : Storing Bool := do
  match (← files).at? path with
  | .ok _ => return true
  | .error .nameTooLong => throw (.files .nameTooLong path.toText)
  | .error _ => return false

/-- Makes the storage folder where it is missing. -/
def create (s : Store) : Storing Unit := change s.base fun t => t.makeFolder s.base.names

end Store

end Localization
