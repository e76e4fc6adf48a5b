import Localization.Catalog.Clean
import Localization.Catalog.Digest
import Localization.Catalog.Document
import Localization.Store.Basic

/-!
# Saving locales

A locale is written to a new file beside its own, which then takes its place in one step: a reader
sees the old document or the new one and nothing between. When the last step is refused the new file
is removed again. A name with a code point that no file's name has is refused before there is a new
file.
-/

namespace Localization.Store

/-! ## New files -/

/-- The name of the `n`-th new file beside a locale's file with a given stem. -/
def scratchName (stem : Text) (n : Nat) : Text :=
  let digits : Text := Text.ofNumber n
  let zeros : Text := List.replicate (8 - digits.length) (.scalar '0')
  "." ++ stem ++ "." ++ zeros ++ digits ++ ".tmp"

/-- The first of `tries` names from the `n`-th on that a folder does not have. -/
def freeName (stem : Text) (entries : Entries FileTree) : (tries n : Nat) → Text
  | 0, n => scratchName stem n
  | tries + 1, n =>
    if Entries.has entries (scratchName stem n) then freeName stem entries tries (n + 1)
    else scratchName stem n

/-- A name that the storage folder does not have yet. -/
def freshName (s : Store) (stem : Text) (t : FileTree) : Text :=
  match t.at? s.base with
  | .ok (.folder entries) => freeName stem entries (entries.length + 1) 0
  | _ => scratchName stem 0

/-- Replaces a file by another one in one step. -/
def replaceFile (source target : Path) (t : FileTree) : Except FileFault FileTree := do
  let bytes ← t.readBytes source
  (← t.writeBytes target bytes).remove source.names

/-- Removes a file. -/
def removeFile (path : Path) (t : FileTree) : Except FileFault FileTree := do
  match ← t.at? path with
  | .folder _ => .error .isAFolder
  | .file _ => t.remove path.names

/-- Refuses a name with a code point that no file's name has. -/
def checkName (name : Text) : Except Failure Unit :=
  if name.any Path.isUnencodable then .error .unencodable else .ok ()

/-- Writes a text to a new file and puts that in the place of the file at `path`. -/
def writeWhole (s : Store) (path : Path) (content : Text) : Storing Unit := do
  liftM (checkName path.name)
  let scratch := s.base.child (s.freshName path.stem (← files))
  change scratch (·.writeBytes scratch [])
  let bytes ← liftM ((Utf8.encode content).mapError Failure.encoding)
  change scratch (·.writeBytes scratch bytes)
  match replaceFile scratch path (← files) with
  | .ok t => modify fun d => { d with files := t }
  | .error f =>
    change scratch (removeFile scratch)
    throw (.io path.toText (f.renameMessage scratch.toText path.toText))

/-! ## Documents -/

/-- The text of a locale's file. -/
def documentText (f : LocaleFile) : Text := f.toDocument.render .stored ++ "\n"

/-- Saves a locale: the clean part of a document becomes its catalog. `now` is the time of the
change. -/
def save (s : Store) (now : Text) (locale data : Json) (hashes : Entries Json) :
    Storing LocaleFile := do
  let name ← liftM (localeName locale)
  let catalog := Catalog.clean false data
  let hash ← liftM ((Catalog.digest (.obj catalog)).mapError Failure.encoding)
  let file : LocaleFile := ⟨.str name, .obj catalog, .str hash, .str now, hashes⟩
  s.writeWhole (s.base.child (fileName name)) (documentText file)
  return file

end Localization.Store
