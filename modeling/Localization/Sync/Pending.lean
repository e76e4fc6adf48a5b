import Localization.Catalog.Digest
import Localization.Sync.Hashes
import Localization.Text.Blank

/-!
# What is left to translate

A leaf of the source catalog is left alone when it is blank. Where the target holds another text at
its path, it counts as translated; it is asked for again only if that is wanted and the recorded
digest shows that its text changed. Otherwise it is asked for unless its recorded digest shows that
it was translated before, with a result that happens to be gone or the same as the source.
-/

namespace Localization.Sync

/-- A leaf that is to be translated. -/
structure Pending where
  key : Text
  path : KeyPath
  text : Text
  digest : Text

/-- Whether the target holds a text of its own for a leaf. -/
def isTranslated (target : Catalog) (path : KeyPath) (text : Text) : Bool :=
  match target.at? path with
  | some (.str t) => !t.isEmpty && t ≠ text
  | _ => false

/-- Whether the text of a key changed since its digest was recorded. -/
def hasChanged (hashes : Hashes) (key digest : Text) : Bool :=
  match hashes.recorded? key with
  | some r => !r.same (.str digest)
  | none => false

/-- Whether a leaf is to be translated. -/
def isOpen (again : Bool) (hashes : Hashes) (target : Catalog) (p : Pending) : Bool :=
  if isTranslated target p.path p.text then again && hasChanged hashes p.key p.digest
  else !hashes.agree p.key p.digest

/-- The leaves with their keys and digests, those that are not blank. -/
def candidates : List (KeyPath × Text) → Except Utf8.EncodeFault (List Pending)
  | [] => .ok []
  | (path, text) :: rest =>
    if text.strip.isEmpty then candidates rest
    else do
      let digest ← text.digest
      return ⟨path.key, path, text, digest⟩ :: (← candidates rest)

/-- The leaves of the source that are to be translated. -/
def pending (again : Bool) (hashes : Hashes) (source target : Catalog) :
    Except Utf8.EncodeFault (List Pending) :=
  (candidates source.leaves).map fun ps => ps.filter (isOpen again hashes target)

end Localization.Sync
