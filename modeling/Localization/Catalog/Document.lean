import Localization.Catalog.Basic

/-!
# Locale documents

One file per locale holds its catalog, a digest of it, the time of the last change, and for every
translated key the digest of the text it was translated from. A document that is read may have any
values in these fields; what is stored has the digests of the keys in increasing order, and leaves
them out when there are none.
-/

namespace Localization

/-- A locale's catalog with what is stored beside it. -/
structure LocaleFile where
  locale : Json
  data : Json
  hash : Json
  lastUpdated : Json
  sourceHashes : Entries Json

namespace LocaleFile

/-- The document of a locale. -/
def toDocument (f : LocaleFile) : Json :=
  let fields : List (Text × Json) :=
    [("locale", f.locale), ("data", f.data), ("hash", f.hash), ("lastUpdated", f.lastUpdated)]
  let hashes : List (Text × Json) := [("sourceHashes", .obj (Entries.sorted f.sourceHashes))]
  .obj (if f.sourceHashes.isEmpty then fields else fields ++ hashes)

/-- The two halves of an item that is read as an entry. -/
def entryOf (index : Nat) : Json → Except Failure (Text × Json)
  | .arr [.str k, v] => .ok (k, v)
  | .arr [_, _] => .error (.wrongType "unhashable type")
  | .arr items => .error (.invalid (badLength items.length))
  | .str [a, b] => .ok ([a], .str [b])
  | .str t => .error (.invalid (badLength t.length))
  | .obj [(k, _), (l, _)] => .ok (k, .str l)
  | .obj fields => .error (.invalid (badLength fields.length))
  | _ => .error (.wrongType ("cannot convert dictionary update sequence element #" ++
      Text.ofNumber index ++ " to a sequence"))
where
  badLength (length : Nat) : Text :=
    "dictionary update sequence element #" ++ Text.ofNumber index ++ " has length " ++
      Text.ofNumber length ++ "; 2 is required"

/-- Reads a list of items as entries. -/
def entriesOf (items : List Json) : Except Failure (Entries Json) :=
  (items.zipIdx.mapM fun item => entryOf item.2 item.1).map Entries.ofPairs

/-- Reads the digests of the keys: an object as it is, a list by its items; an empty value has
none. -/
def hashesOf (j : Json) : Except Failure (Entries Json) :=
  if !j.isTruthy then .ok []
  else
    match j with
    | .obj fields => .ok fields
    | .arr items => entriesOf items
    | .str t => entriesOf (t.map fun c => .str [c])
    | j => .error (.wrongType ("'" ++ j.kindName ++ "' object is not iterable"))

/-- A field that a document must have. -/
def required (fields : Entries Json) (name : Text) : Except Failure Json :=
  match fields.get? name with
  | some v => .ok v
  | none => .error (.noField name)

/-- Reads a document; it must name its locale and have a catalog. -/
def ofDocument : Json → Except Failure LocaleFile
  | .obj fields => do
    let locale ← required fields "locale"
    let data ← required fields "data"
    let hashes ← hashesOf ((Entries.get? fields "sourceHashes").getD .null)
    return ⟨locale, data, (Entries.get? fields "hash").getD (.str []),
      (Entries.get? fields "lastUpdated").getD (.str []), hashes⟩
  | j => .error (.wrongType ("'" ++ j.kindName ++ "' object is not subscriptable"))

end LocaleFile

end Localization
