import Localization.Entries
import Localization.Path
import Localization.Text.Quoted

/-!
# Files and folders

The part of the file system that a project lives in, as a tree without links. Every operation that
can be refused says why, in the words of the operating system; a refused operation changes nothing.
Names longer than 255 bytes are refused.
-/

namespace Localization

/-- A file with its bytes, or a folder with its entries. -/
inductive FileTree where
  | file (content : List UInt8)
  | folder (entries : List (Text × FileTree))

/-- Why the file system refuses an operation. -/
inductive FileFault where
  | notFound
  | alreadyThere
  | notAFolder
  | isAFolder
  | nameTooLong
  deriving DecidableEq

namespace FileFault

/-- The number of a refusal. -/
def number : FileFault → Nat
  | .notFound => 2
  | .alreadyThere => 17
  | .notAFolder => 20
  | .isAFolder => 21
  | .nameTooLong => 36

/-- The wording of a refusal. -/
def wording : FileFault → Text
  | .notFound => "No such file or directory"
  | .alreadyThere => "File exists"
  | .notAFolder => "Not a directory"
  | .isAFolder => "Is a directory"
  | .nameTooLong => "File name too long"

/-- The start of every report on a refusal. -/
def heading (f : FileFault) : Text := "[Errno " ++ Text.ofNumber f.number ++ "] " ++ f.wording

/-- The report on a refusal that concerns a path. -/
def message (f : FileFault) (path : Text) : Text := f.heading ++ ": " ++ path.quoted

/-- The report on a refusal to rename one path to another. -/
def renameMessage (f : FileFault) (source target : Text) : Text :=
  f.heading ++ ": " ++ source.quoted ++ " -> " ++ target.quoted

end FileFault

namespace FileTree

/-- How many bytes a code point takes in the name of a file: a surrogate stands for a single byte. -/
def nameSize : CodePoint → Nat
  | .scalar c => c.utf8Size
  | .surrogate _ => 1

/-- Whether a name has more bytes than the file system takes; one that has no bytes does not. -/
def isTooLong (name : Text) : Bool :=
  !name.any Path.isUnencodable && 255 < name.foldl (fun size c => size + nameSize c) 0

/-- Whether a tree is a folder. -/
def isFolder : FileTree → Bool
  | .folder _ => true
  | .file _ => false

/-- Whether a tree is a file. -/
def isFile : FileTree → Bool
  | .folder _ => false
  | .file _ => true

/-- The tree at a list of names. -/
def find : FileTree → List Text → Except FileFault FileTree
  | t, [] => .ok t
  | .file _, _ :: _ => .error .notAFolder
  | .folder es, name :: names =>
    if isTooLong name then .error .nameTooLong
    else
      match Entries.get? es name with
      | some t => t.find names
      | none => .error .notFound

/-- The names of a path after its double dots are followed; every folder on the way must exist. -/
def follow (root : FileTree) : (above : List Text) → List Text → Except FileFault (List Text)
  | above, [] => .ok above.reverse
  | above, name :: names =>
    if name = Text.ofString ".." then
      match root.find above.reverse with
      | .ok (.folder _) => follow root above.tail names
      | .ok (.file _) => .error .notAFolder
      | .error f => .error f
    else follow root (name :: above) names

/-- The tree at an absolute path. -/
def at? (root : FileTree) (p : Path) : Except FileFault FileTree := do
  root.find (← follow root [] p.names)

/-- The bytes of the file at a path. -/
def readBytes (root : FileTree) (p : Path) : Except FileFault (List UInt8) := do
  match ← root.at? p with
  | .file bytes => .ok bytes
  | .folder _ => .error .isAFolder

/-- The tree with `t` at a list of names; the folders on the way must exist. -/
def put (t : FileTree) : FileTree → List Text → Except FileFault FileTree
  | _, [] => .ok t
  | .file _, _ :: _ => .error .notAFolder
  | .folder es, [name] =>
    if isTooLong name then .error .nameTooLong else .ok (.folder (Entries.set es name t))
  | .folder es, name :: names =>
    if isTooLong name then .error .nameTooLong
    else
      match Entries.get? es name with
      | none => .error .notFound
      | some below => (put t below names).map fun below' => .folder (Entries.set es name below')

/-- The tree with bytes written to the file at a path. -/
def writeBytes (root : FileTree) (p : Path) (bytes : List UInt8) : Except FileFault FileTree := do
  let names ← follow root [] p.names
  match root.find names with
  | .ok (.folder _) => .error .isAFolder
  | _ => put (.file bytes) root names

/-- The tree with a folder at a list of names, made with all folders above it where they are
missing. -/
def makeFolder : FileTree → List Text → Except FileFault FileTree
  | .folder es, [] => .ok (.folder es)
  | .file _, [] => .error .alreadyThere
  | .file _, _ :: _ => .error .notAFolder
  | .folder es, name :: names =>
    if isTooLong name then .error .nameTooLong
    else
      (makeFolder ((Entries.get? es name).getD (.folder [])) names).map fun t =>
        .folder (Entries.set es name t)

/-- The tree with folders along a path, made where they are missing; double dots go up again. `above`
holds the names so far, the nearest first. -/
def makeAlong (root : FileTree) (above : List Text) : List Text → Except FileFault FileTree
  | [] => .ok root
  | name :: names =>
    if name = Text.ofString ".." then makeAlong root above.tail names
    else
      match root.makeFolder (above.reverse ++ [name]) with
      | .ok root => makeAlong root (name :: above) names
      | .error .alreadyThere => .error (if names.isEmpty then .alreadyThere else .notAFolder)
      | .error f => .error f

/-- The tree with a folder at a path, made with all folders on the way where they are missing. -/
def makePath (root : FileTree) (p : Path) : Except FileFault FileTree := makeAlong root [] p.names

/-- The tree without what stands at a list of names. -/
def remove : FileTree → List Text → Except FileFault FileTree
  | _, [] => .error .isAFolder
  | .file _, _ :: _ => .error .notAFolder
  | .folder es, [name] =>
    if Entries.has es name then .ok (.folder (es.filter (·.1 ≠ name))) else .error .notFound
  | .folder es, name :: names =>
    match Entries.get? es name with
    | none => .error .notFound
    | some below => (below.remove names).map fun below' => .folder (Entries.set es name below')

/-- The entries of the folder at a path, in increasing order of their names. -/
def listing (root : FileTree) (p : Path) : Except FileFault (List (Text × FileTree)) := do
  match ← root.at? p with
  | .folder es => .ok (Entries.sorted es)
  | .file _ => .error .notAFolder

mutual

/-- All files below a tree with the names that lead to them. -/
def filesUnder (above : List Text) : FileTree → List (List Text × List UInt8)
  | .file bytes => [(above.reverse, bytes)]
  | .folder es => filesBeside above es

/-- All files below the entries of a folder. -/
def filesBeside (above : List Text) : List (Text × FileTree) → List (List Text × List UInt8)
  | [] => []
  | (name, t) :: rest => filesUnder (name :: above) t ++ filesBeside above rest

end

/-- All files of a tree with the names that lead to them. -/
def allFiles (t : FileTree) : List (List Text × List UInt8) := filesUnder [] t

end FileTree

end Localization
