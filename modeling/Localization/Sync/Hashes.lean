import Localization.Catalog.Document

/-!
# Recorded digests

For every key the digest of the text that it was last translated from. A key whose text still has
the recorded digest need not be translated again. The record is kept with the locale; digests of
keys that the locale's catalog no longer has are forgotten when it is taken up again.
-/

namespace Localization

/-- The digest of the text each key was last translated from. -/
abbrev Hashes := Entries Json

namespace Hashes

/-- The digests of a stored locale, those of keys that its catalog has. -/
def ofLocaleFile : Option LocaleFile → Except Failure Hashes
  | none => .ok []
  | some file => do
    let keys := (← Catalog.ofJson file.data).leafKeys
    return file.sourceHashes.filter fun h => keys.contains h.1

/-- The digest recorded for a key, if there is one. -/
def recorded? (h : Hashes) (key : Text) : Option Json :=
  match Entries.get? h key with
  | some .null => none
  | r => r

/-- Whether the digest recorded for a key is the given one. -/
def agree (h : Hashes) (key digest : Text) : Bool :=
  match Entries.get? h key with
  | some r => r.same (.str digest)
  | none => false

/-- Records the digest of a key. -/
def record (h : Hashes) (key digest : Text) : Hashes := Entries.set h key (.str digest)

end Hashes

end Localization
