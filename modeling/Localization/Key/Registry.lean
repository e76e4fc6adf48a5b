import Localization.Entries
import Localization.Key.Basic

/-!
# Keys of one file

A registry hands out the keys of one file. The same text always gets the same key. A text whose key
is held by another text, or reserved by a call that was already in the file, gets its own mark
behind the key.
-/

namespace Localization.Key

/-- The keys of a file: for each the text that holds it, or none if it is only reserved. -/
structure Registry where
  file : Text
  lead : Text
  holders : Entries (Option Text)

namespace Registry

/-- A file without keys. -/
def empty (file lead : Text) : Registry := ⟨file, lead, []⟩

/-- The number of keys in use. -/
def size (r : Registry) : Nat := r.holders.length

/-- Reserves a key that the file uses already. -/
def reserve (r : Registry) (key : Text) : Registry :=
  if r.holders.has key then r else { r with holders := r.holders.set key none }

/-- Whether a key is held by something else than the given text. -/
def isTaken (r : Registry) (key text : Text) : Bool :=
  match r.holders.get? key with
  | none => false
  | some holder => holder ≠ some text

/-- Lets a text hold a key that no text holds. -/
def hold (r : Registry) (key text : Text) : Registry :=
  match r.holders.get? key with
  | some (some _) => r
  | _ => { r with holders := r.holders.set key (some text) }

/-- The key of a text, and the registry that knows it. -/
def keyFor (r : Registry) (text : Text) : Except Utf8.EncodeFault (Text × Registry) := do
  let plain ← generate text r.file r.lead
  let key ← if r.isTaken plain text then do pure (plain ++ "_" ++ (← shortMark text)) else pure plain
  return (key, r.hold key text)

end Registry

end Localization.Key
