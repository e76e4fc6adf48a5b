import Localization.Files
import Localization.Report
import Localization.Text.Case

/-!
# Source files of a folder

The source files below a folder are those with a wanted suffix, in whatever case it is written.
Hidden entries, folders of dependencies and excluded folders are passed over. Files come in the
order of the names that lead to them, folder by folder.
-/

namespace Localization.Extraction

/-- Which files to take: suffixes in lower case, and the folders to pass over by their places. -/
structure Walk where
  wanted : List Text
  excluded : List (List Text)

namespace Walk

/-- The suffixes that are taken when none are chosen. -/
def standardSuffixes : List Text :=
  ([".js", ".jsx", ".ts", ".tsx"] : List String).map Text.ofString

/-- Folders that hold dependencies. -/
def dependencyFolders : List Text :=
  (["node_modules", "bower_components", "jspm_packages"] : List String).map Text.ofString

/-- Whether an entry is passed over for its name. -/
def isPassedOver (name : Text) : Bool := name.startsWith "." || dependencyFolders.contains name

/-- Whether a file's name has a wanted suffix. -/
def isWanted (w : Walk) (name : Text) : Bool := w.wanted.contains (Path.suffixOf name).lower

mutual

/-- The source files at an entry of a folder: `shown` is the entry's path, `place` its names. -/
def filesAt (w : Walk) (shown : Path) (place : List Text) : FileTree → List Path
  | .file _ => if w.isWanted shown.name then [shown] else []
  | .folder entries =>
    if w.excluded.contains place then []
    else (Entries.sorted (filesIn w shown place entries)).flatMap Prod.snd

/-- The source files at each entry of a folder. -/
def filesIn (w : Walk) (shown : Path) (place : List Text) :
    List (Text × FileTree) → List (Text × List Path)
  | [] => []
  | (name, t) :: rest =>
    if isPassedOver name then filesIn w shown place rest
    else (name, filesAt w (shown.child name) (place ++ [name]) t) :: filesIn w shown place rest

end

/-- The source files below a folder, which itself may be hidden or excluded. -/
def filesBelow (w : Walk) (shown : Path) (place : List Text) (entries : List (Text × FileTree)) :
    List Path :=
  (Entries.sorted (filesIn w shown place entries)).flatMap Prod.snd

/-- The source files at a path, which may be a file itself; a folder that cannot be listed is
reported. -/
def files (w : Walk) (t : FileTree) (root : Path) : Logged (List Path) :=
  let found := do
    let place ← t.follow [] root.names
    return (place, ← t.find place)
  match found with
  | .ok (_, .file _) => pure (if w.isWanted root.name then [root] else [])
  | .ok (place, .folder entries) => pure (w.filesBelow root place entries)
  | .error f => do
    .warn ("Cannot list " ++ root.toText ++ ": " ++ f.message root.toText)
    return []

end Walk

end Localization.Extraction
