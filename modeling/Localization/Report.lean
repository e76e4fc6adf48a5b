import Localization.Escape
import Localization.Files
import Localization.Regex.Reader
import Localization.Text.Utf8

/-!
# Failures and log records

What can go wrong, by cause, with one wording for each; and the records that are written on the way.
`Logged` computations write records and may fail: the records written before a failure stay.
-/

namespace Localization

/-- Why an operation fails. -/
inductive Failure where
  /-- The configuration is missing or unusable. -/
  | config (message : Text)
  /-- A source or catalog file could not be read or written. -/
  | io (file reason : Text)
  /-- A locale's name tried to leave the storage folder. -/
  | security (message : Text)
  /-- A translation service could not translate. -/
  | provider (name reason : Text)
  /-- A value is of the right type and still unusable. -/
  | invalid (message : Text)
  /-- A regular expression cannot be read. -/
  | pattern (fault : Regex.Fault) (pattern : Text)
  /-- An escape names no character. -/
  | escape (fault : Escape.Fault)
  /-- A text has no UTF-8 form. -/
  | encoding (fault : Utf8.EncodeFault)
  /-- A text has no form as the name of a file. -/
  | unencodable
  /-- Bytes are no UTF-8. -/
  | decoding (fault : Utf8.DecodeFault)
  /-- The file system refuses. -/
  | files (fault : FileFault) (path : Text)
  /-- A value is of the wrong type. -/
  | wrongType (message : Text)
  /-- A value has no such member. -/
  | noMember (message : Text)
  /-- An object has no such field. -/
  | noField (name : Text)
  /-- A list has no such item. -/
  | noItem
  /-- A service's client failed. -/
  | client (message : Text)
  /-- Something is not provided. -/
  | notImplemented
  /-- A value cannot be shown in a table. -/
  | notShowable

/-- The wording of a failure. -/
def Failure.message : Failure → Text
  | .config m => m
  | .io file reason => "Failed to process " ++ file ++ ": " ++ reason
  | .security m => m
  | .provider name reason => name ++ " translation failed: " ++ reason
  | .invalid m => m
  | .pattern f p => f.message p
  | .escape f => f.message
  | .encoding f => f.message
  | .unencodable => "surrogates not allowed"
  | .decoding f => f.message
  | .files f path => f.message path
  | .wrongType m => m
  | .noMember m => m
  | .noField name => name.quoted
  | .noItem => "list index out of range"
  | .client m => m
  | .notImplemented => []
  | .notShowable => "unable to render; a string or other renderable object is required"

/-- How important a record is. -/
inductive Level where
  | debug
  | info
  | warning
  deriving DecidableEq

/-- A record of something that happened. -/
structure Record where
  level : Level
  message : Text
  deriving DecidableEq

/-- A computation that writes records and may fail. -/
structure Logged (α : Type) where
  records : List Record
  result : Except Failure α

namespace Logged

variable {α β : Type}

/-- Runs one computation after another; a failure ends both and keeps the records. -/
protected def bind (x : Logged α) (f : α → Logged β) : Logged β :=
  match x.result with
  | .ok a => ⟨x.records ++ (f a).records, (f a).result⟩
  | .error e => ⟨x.records, .error e⟩

instance : Monad Logged where
  pure a := ⟨[], .ok a⟩
  bind := Logged.bind

/-- A failure without records. -/
def fail (e : Failure) : Logged α := ⟨[], .error e⟩

/-- A computation that writes no records. -/
def lift (x : Except Failure α) : Logged α := ⟨[], x⟩

/-- Writes a record. -/
def record (level : Level) (message : Text) : Logged Unit := ⟨[⟨level, message⟩], .ok ()⟩

/-- Writes a warning. -/
def warn (message : Text) : Logged Unit := record .warning message

end Logged

end Localization
