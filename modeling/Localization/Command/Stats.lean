import Localization.Command.Session
import Localization.Number.Shortest

/-!
# Reporting what is translated

A table with a row for every locale that is configured or has a file: how many keys it has, how many
of the default locale's keys it covers, and when it was last changed.
-/

namespace Localization.Command

variable {σ : Type}

/-! ## Rows -/

/-- The different texts of a list. -/
def distinct (ts : List Text) : List Text :=
  ts.foldl (fun seen t => if seen.contains t then seen else seen ++ [t]) []

/-- The different keys of a stored locale. -/
def keysOf (f : LocaleFile) : Except Failure (List Text) := do
  return distinct (← Catalog.ofJson f.data).leafKeys

/-- A share in percent with one decimal place: the quotient is rounded before it is multiplied. -/
def percent (part whole : Nat) : Text :=
  ((Binary64.nearest false part whole).timesNat 100).oneDecimal

/-- How much of the default locale's keys is covered. -/
def coverage (keys sourceKeys : List Text) : Text :=
  if sourceKeys.isEmpty then "-"
  else
    let covered := (keys.filter sourceKeys.contains).length
    Text.ofNumber covered ++ "/" ++ Text.ofNumber sourceKeys.length ++ " (" ++
      percent covered sourceKeys.length ++ "%)"

/-- The day and time of a change, to the second. -/
def timeCell (lastUpdated : Json) : Except Failure Text :=
  match lastUpdated with
  | .str t => .ok (t.take 19)
  | .arr _ => .error .notShowable
  | .obj _ => .error (.wrongType "unhashable type: 'slice'")
  | j => .error (.wrongType ("'" ++ j.kindName ++ "' object is not subscriptable"))

/-- The row of a locale that has a file. -/
def row (locale : Text) (isDefault : Bool) (sourceKeys : List Text) (f : LocaleFile) :
    Except Failure (List Text) := do
  let keys ← keysOf f
  let covered : Text := if isDefault then "source" else coverage keys sourceKeys
  return [locale, Text.ofNumber keys.length, covered, ← timeCell f.lastUpdated]

/-- The row of a locale without a file. -/
def missingRow (locale : Text) : List Text := [locale, "-", "missing", []]

/-! ## Locales -/

/-- Whether a value has a place in a set. -/
def isHashable : Json → Bool
  | .arr _ | .obj _ => false
  | _ => true

/-- The refusal of a value that has no place in a set. -/
def unhashable (j : Json) : Failure := .wrongType ("unhashable type: '" ++ j.kindName ++ "'")

/-- The locales of a report in order. Texts are ordered; other values are not comparable with them,
and cannot be shown: null by itself makes an empty cell. -/
def reportLocales (configured : List Json) (stored : List Text) : Except Failure (List Json) :=
  match configured.find? fun l => !isHashable l with
  | some l => .error (unhashable l)
  | none =>
    let all := configured.foldl (fun seen l => if seen.any (·.same l) then seen else seen ++ [l]) []
    let others := all.filter fun l => !l.isText
    let texts := distinct (all.filterMap Json.text? ++ stored)
    match others, texts with
    | [], texts => .ok ((Text.sort texts).map .str)
    | [.null], [] => .ok [.null]
    | others, texts =>
      if texts.isEmpty && others.all (·.quantity?.isSome) then .error .notShowable
      else .error (.wrongType "'<' not supported between instances")

/-- The row of a locale. -/
def rowOf (defaultLocale : Json) (catalogs : Entries LocaleFile) (sourceKeys : List Text)
    (locale : Json) : Except Failure (List Text) :=
  match locale with
  | .str name =>
    match Entries.get? catalogs name with
    | some f => row name (locale.same defaultLocale) sourceKeys f
    | none => .ok (missingRow name)
  | _ => .ok (missingRow [])

/-- The different keys of the default locale. -/
def sourceKeysOf (defaultLocale : Json) (catalogs : Entries LocaleFile) :
    Except Failure (List Text) :=
  match defaultLocale with
  | .str name =>
    match Entries.get? catalogs name with
    | some f => keysOf f
    | none => .ok []
  | j => if isHashable j then .ok [] else .error (unhashable j)

/-- The rows of a report. -/
def reportRows (c : Config) (catalogs : Entries LocaleFile) : Except Failure (List (List Text)) := do
  let sourceKeys ← sourceKeysOf c.defaultLocale catalogs
  let locales ← reportLocales (← c.locales.members) catalogs.keys
  locales.mapM (rowOf c.defaultLocale catalogs sourceKeys)

/-- Reports what is translated. -/
def reportCoverage (h : Host σ) (config : Option Text) : Running σ Unit := do
  let c ← loadConfig h config
  let store ← openStore c
  let catalogs ← withStore store.loadAll
  showWarnings
  let rows ← orFail (reportRows c catalogs)
  present (.table ("Locales in " ++ store.base.toText)
    ((["Locale", "Keys", "Coverage", "Last updated"] : List String).map Text.ofString) rows)

end Localization.Command
