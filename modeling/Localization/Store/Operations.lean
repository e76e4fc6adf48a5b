import Localization.Catalog.Merge
import Localization.Store.Load
import Localization.Store.Save

/-!
# Locales in the store

Which locales there are, whether one is there, removing one, and merging new keys into one.
-/

namespace Localization.Store

/-- Whether a locale has a file. -/
def has (s : Store) (locale : Json) : Storing Bool := do present (← liftM (s.filePath locale))

/-- Removes a locale's file; says whether there was one. -/
def delete (s : Store) (locale : Json) : Storing Bool := do
  let path ← liftM (s.filePath locale)
  if !(← present path) then return false
  change path (removeFile path)
  return true

/-- Whether an entry of the storage folder is a locale's file. -/
def isListed (name : Text) : Bool :=
  name.endsWith ".json" && !name.startsWith "." && !(Path.stemOf name).holds ".."

/-- The locales that have files, in the order of the files' names. -/
def list (s : Store) : Storing (List Text) := do
  match (← files).listing s.base with
  | .ok entries => return ((entries.map Prod.fst).filter isListed).map Path.stemOf
  | .error _ => return []

/-- Loads the locales of a list, those that can be loaded. -/
def loadEach (s : Store) : List Text → Storing (Entries LocaleFile)
  | [] => return []
  | locale :: rest => do
    match ← s.load (.str locale) with
    | some file => return (locale, file) :: (← s.loadEach rest)
    | none => s.loadEach rest

/-- Loads all locales. -/
def loadAll (s : Store) : Storing (Entries LocaleFile) := do s.loadEach (← s.list)

/-- What a locale's catalog becomes when new keys come in; nothing is saved. Where existing values
are not kept, the new keys replace the catalog. -/
def mergeWith (s : Store) (locale incoming : Json) (keepExisting : Bool) : Storing Catalog := do
  let incoming := Catalog.clean true incoming
  match ← s.load locale with
  | some ⟨_, .obj existing, _, _, _⟩ =>
    return if keepExisting then Catalog.merge existing incoming else incoming
  | _ => return incoming

end Localization.Store
