import Localization.Json.Basic
import Localization.Report

/-!
# Catalogs

A catalog maps names to texts and to further catalogs. Documents that are read from elsewhere may
hold anything, so a catalog is kept as the fields of a JSON object: only texts count as leaves, and
only objects are entered. A leaf is addressed by the path of names that leads to it, or by its key,
which is the path with dots between the names. Two paths may have one key, so everything that must
tell leaves apart works with paths.
-/

namespace Localization

/-- The names that lead to a place in a catalog. -/
abbrev KeyPath := List Text

namespace KeyPath

/-- The key of a path. -/
def key (p : KeyPath) : Text := Text.join "." p

/-- The path that a key is read as. -/
def ofKey (key : Text) : KeyPath := Text.splitOn (.scalar '.') key

end KeyPath

/-- The fields of a document that is used as a catalog. -/
abbrev Catalog := Entries Json

namespace Catalog

/-- The fields of an object; nothing else has entries to go through. -/
def ofJson : Json → Except Failure Catalog
  | .obj fields => .ok fields
  | j => .error (.noMember ("'" ++ j.kindName ++ "' object has no attribute 'items'"))

/-! ## Leaves -/

mutual

/-- The leaves at and below a value that stands at the path `above` (nearest name first). -/
def leavesAt (above : List Text) : Json → List (KeyPath × Text)
  | .str t => [(above.reverse, t)]
  | .obj fields => leavesOf above fields
  | _ => []

/-- The leaves below the fields of an object. -/
def leavesOf (above : List Text) : List (Text × Json) → List (KeyPath × Text)
  | [] => []
  | (k, v) :: rest => leavesAt (k :: above) v ++ leavesOf above rest

end

/-- The leaves of a catalog in its order, each with its path. -/
def leaves (d : Catalog) : List (KeyPath × Text) := leavesOf [] d

/-- The keys of the leaves of a catalog, in its order. -/
def leafKeys (d : Catalog) : List Text := d.leaves.map fun l => l.1.key

/-! ## Places -/

/-- The value at a path below a value. -/
def valueAt (j : Json) : KeyPath → Option Json
  | [] => some j
  | name :: path =>
    match j with
    | .obj fields =>
      match Entries.get? fields name with
      | some below => valueAt below path
      | none => none
    | _ => none

/-- The value at a path. -/
def at? (d : Catalog) (path : KeyPath) : Option Json := valueAt (.obj d) path

/-- The fields of a value that are kept when something is written below it. -/
def below : Option Json → Catalog
  | some (.obj fields) => fields
  | _ => []

/-- The catalog with a value written at a path. Objects on the way are kept, anything else gives way
to an object; the empty path names no place to write to. -/
def put (d : Catalog) : KeyPath → Json → Catalog
  | [], _ => d
  | [name], value => Entries.set d name value
  | name :: path, value => Entries.set d name (.obj (put (below (Entries.get? d name)) path value))

end Catalog

end Localization
