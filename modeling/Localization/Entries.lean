import Localization.Text.Basic

/-!
# Entries in insertion order

Catalogs, documents, hash records and key registries all map texts to values and show their entries
in the order in which the keys first came in. `Entries` is that mapping as a list of pairs. Setting
a key that is present changes its value in place; setting a new key puts it at the end.
-/

namespace Localization

/-- Keys with their values, in the order in which the keys came in. -/
abbrev Entries (α : Type) := List (Text × α)

namespace Entries

variable {α : Type}

/-- The value of a key. -/
def get? : Entries α → Text → Option α
  | [], _ => none
  | (k, v) :: rest, key => if k = key then some v else get? rest key

/-- Whether a key is present. -/
def has (e : Entries α) (key : Text) : Bool := (e.get? key).isSome

/-- The entries with `key` set to `value`: in its place if the key is present, else at the end. -/
def set : Entries α → Text → α → Entries α
  | [], key, value => [(key, value)]
  | (k, v) :: rest, key, value =>
    if k = key then (k, value) :: rest else (k, v) :: set rest key value

/-- The keys, in order. -/
def keys (e : Entries α) : List Text := e.map Prod.fst

/-- The values, in order. -/
def values (e : Entries α) : List α := e.map Prod.snd

/-- The entries that setting the pairs of a list one after another gives. -/
def ofPairs (pairs : List (Text × α)) : Entries α :=
  pairs.foldl (fun e p => e.set p.1 p.2) []

/-- The entries in increasing order of their keys. -/
def sorted (e : Entries α) : Entries α := e.mergeSort fun a b => Text.notAfter a.1 b.1

/-- Reading a key that was just set gives its value. -/
@[simp] theorem get?_set_self (e : Entries α) (key : Text) (value : α) :
    (e.set key value).get? key = some value := by
  induction e with
  | nil => simp [set, get?]
  | cons p e ih =>
    obtain ⟨k, v⟩ := p
    by_cases h : k = key <;> simp [set, get?, h, ih]

/-- Setting a key leaves every other key as it was. -/
theorem get?_set_of_ne (e : Entries α) {key other : Text} (value : α) (h : key ≠ other) :
    (e.set key value).get? other = e.get? other := by
  induction e with
  | nil => simp [set, get?, h]
  | cons p e ih =>
    obtain ⟨k, v⟩ := p
    by_cases hk : k = key
    · subst hk; simp [set, get?, h]
    · by_cases ho : k = other
      · subst ho; simp [set, get?, hk]
      · simp [set, get?, hk, ho, ih]

end Entries

end Localization
