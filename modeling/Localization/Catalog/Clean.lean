import Localization.Catalog.Basic

/-!
# Clean catalogs

A clean catalog holds nothing but texts and clean catalogs. Cleaning drops every other value. Names
that reach into the object model of the programs that read catalogs are forbidden in what comes in
from outside, and are dropped there at every depth; what is stored keeps them, so that a stored
catalog reads back unchanged.
-/

namespace Localization.Catalog

/-- Names that are never taken over from outside. -/
def isForbidden (name : Text) : Bool :=
  name = Text.ofString "__proto__" || name = Text.ofString "constructor" ||
    name = Text.ofString "prototype"

mutual

/-- The clean part of a value: a text, or the clean part of an object. -/
def cleanValue (dropForbidden : Bool) : Json → Option Json
  | .str t => some (.str t)
  | .obj fields => some (.obj (cleanFields dropForbidden fields))
  | _ => none

/-- The clean part of the fields of an object. -/
def cleanFields (dropForbidden : Bool) : List (Text × Json) → Catalog
  | [] => []
  | (k, v) :: rest =>
    match cleanValue dropForbidden v with
    | some w =>
      if dropForbidden && isForbidden k then cleanFields dropForbidden rest
      else (k, w) :: cleanFields dropForbidden rest
    | none => cleanFields dropForbidden rest

end

/-- The clean part of a document; anything but an object has an empty one. -/
def clean (dropForbidden : Bool) : Json → Catalog
  | .obj fields => cleanFields dropForbidden fields
  | _ => []

mutual

/-- Whether a value is a text or a clean catalog. -/
def isCleanValue : Json → Bool
  | .str _ => true
  | .obj fields => areClean fields
  | _ => false

/-- Whether all fields of an object hold texts or clean catalogs. -/
def areClean : List (Text × Json) → Bool
  | [] => true
  | (_, v) :: rest => isCleanValue v && areClean rest

end

/-- Whether a document is a clean catalog. -/
def isClean : Json → Bool
  | .obj fields => areClean fields
  | _ => false

end Localization.Catalog
