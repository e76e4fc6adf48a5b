import Localization.Catalog.Clean
import Localization.Catalog.Document
import Localization.Json.Reader
import Localization.Store.Basic
import Localization.Text.Lines

/-!
# Loading locales

A locale without a file is not there. A file that cannot be read, is no JSON, or has the wrong shape
gives a warning and counts as not there: the catalog must hold nothing but texts and catalogs, and
the digests of its keys must be texts.
-/

namespace Localization

/-- Why a locale's file cannot be used. -/
inductive LoadFault where
  | unreadable (fault : FileFault) (path : Text)
  | undecodable (fault : Utf8.DecodeFault)
  | malformed (fault : Json.ReadFault) (document : Text)
  | notAnObject
  | badData
  | badHashes

/-- The wording of a fault. -/
def LoadFault.message : LoadFault → Text
  | .unreadable f path => f.message path
  | .undecodable f => f.message
  | .malformed f document => f.message document
  | .notAnObject => "expected a JSON object"
  | .badData => "\"data\" must be a nested mapping of strings"
  | .badHashes => "\"sourceHashes\" must map keys to strings"

namespace Store

/-- Whether the digests of a document's keys are usable: empty, or texts by key. -/
def areHashes (j : Json) : Bool :=
  !j.isTruthy ||
    match j with
    | .obj fields => fields.all fun f => f.2.isText
    | _ => false

/-- The locale that a document holds; the file's name names it where the document does not. -/
def ofDocument (locale : Text) (document : Json) : Except LoadFault LocaleFile :=
  match document with
  | .obj fields =>
    match Entries.get? fields "data" with
    | some data =>
      if !Catalog.isClean data then .error .badData
      else
        let hashes := (Entries.get? fields "sourceHashes").getD .null
        if !areHashes hashes then .error .badHashes
        else .ok {
          locale := (Entries.get? fields "locale").getD (.str locale)
          data := data
          hash := (Entries.get? fields "hash").getD (.str [])
          lastUpdated := (Entries.get? fields "lastUpdated").getD (.str [])
          sourceHashes := match hashes with
            | .obj fields => fields
            | _ => [] }
    | none => .error .badData
  | _ => .error .notAnObject

/-- The document that the bytes of a file hold. -/
def documentOf (bytes : List UInt8) : Except LoadFault Json :=
  match Text.ofBytes bytes with
  | .error f => .error (.undecodable f)
  | .ok chars =>
    let document := Text.ofChars chars
    (Json.read document).mapError fun f => .malformed f document

/-- The locale in the file at a path. -/
def readAt (name : Text) (path : Path) (t : FileTree) : Except LoadFault LocaleFile := do
  let bytes ← (t.readBytes path).mapError fun f => LoadFault.unreadable f path.toText
  ofDocument name (← documentOf bytes)

/-- Loads a locale. -/
def load (s : Store) (locale : Json) : Storing (Option LocaleFile) := do
  let name ← liftM (localeName locale)
  let path := s.base.child (fileName name)
  if !(← present path) then return none
  match readAt name path (← files) with
  | .ok file => return some file
  | .error (.malformed f document) =>
    if !f.fault.isMalformed then throw (.invalid (f.message document))
    warn ("Failed to load locale " ++ name ++ ": " ++ f.message document)
    return none
  | .error f =>
    warn ("Failed to load locale " ++ name ++ ": " ++ f.message)
    return none

end Store

end Localization
