import Localization.Catalog.Clean

/-!
# Merging catalogs

Merging adds to a catalog what it lacks. What is there wins: a text is never replaced, neither is an
object by a text. Two objects with one name are merged in turn. Forbidden names are left out on both
sides of every merge; a part that only one side has is taken over as it is.
-/

namespace Localization.Catalog

/-- The entries whose names are not forbidden. -/
def permitted (d : Catalog) : Catalog := d.filter fun f => !isForbidden f.1

mutual

/-- What becomes of a value when another one comes in for it. -/
def mergeValue (old : Json) : Json → Json
  | .obj incoming =>
    match old with
    | .obj existing => .obj (mergeInto (permitted existing) incoming)
    | _ => old
  | _ => old

/-- The entries of a catalog after others came in one by one. -/
def mergeInto (d : Catalog) : List (Text × Json) → Catalog
  | [] => d
  | (k, v) :: rest =>
    if isForbidden k then mergeInto d rest
    else
      match Entries.get? d k with
      | none => mergeInto (Entries.set d k v) rest
      | some old => mergeInto (Entries.set d k (mergeValue old v)) rest

end

/-- A catalog with what it lacks from another. -/
def merge (existing incoming : Catalog) : Catalog := mergeInto (permitted existing) incoming

end Localization.Catalog
