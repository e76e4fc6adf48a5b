import Localization.Extraction.Walk
import Localization.Json.Printer

/-!
# Configurations

A project's settings come from a document whose values are taken as they are; what a value of the
wrong kind does shows only where the setting is used. Names of settings are accepted in two
spellings. Folders are relative to the folder that the configuration was found in.
-/

namespace Localization

/-- The values of environment variables. -/
abbrev Environment := Entries Text

/-! ## Values in place of lists and texts -/

/-- The members of a value that is gone through: items, characters or names. -/
def Json.members : Json → Except Failure (List Json)
  | .arr items => .ok items
  | .str t => .ok (t.map fun c => .str [c])
  | .obj fields => .ok (fields.map fun f => .str f.1)
  | j => .error (.wrongType ("'" ++ j.kindName ++ "' object is not iterable"))

/-- Whether a value is one of the members of another; in a text it may be any part. -/
def Json.isIn (j container : Json) : Except Failure Bool :=
  match container, j with
  | .arr items, _ => .ok (items.any fun i => i.same j)
  | .str t, .str part => .ok (t.holds part)
  | .str _, _ =>
    .error (.wrongType ("'in <string>' requires string as left operand, not " ++ j.kindName))
  | .obj fields, .str name => .ok (Entries.has fields name)
  | .obj _, .arr _ | .obj _, .obj _ =>
    .error (.wrongType ("unhashable type: '" ++ j.kindName ++ "'"))
  | .obj _, _ => .ok false
  | c, _ => .error (.wrongType ("argument of type '" ++ c.kindName ++ "' is not iterable"))

/-! ## Services -/

/-- Which service translates, and how it is used. -/
structure ServiceConfig where
  provider : Text
  apiKey : Json
  model : Json
  batchSize : Json
  maxConcurrency : Json

namespace ServiceConfig

/-- The environment variable that holds the key of a service. -/
def keyVariable? (provider : Text) : Option Text :=
  if provider = Text.ofString "openai" then some "OPENAI_API_KEY"
  else if provider = Text.ofString "deepl" then some "DEEPL_API_KEY"
  else if provider = Text.ofString "gemini" then some "GEMINI_API_KEY"
  else none

/-- The model that a service is asked for when none is chosen. -/
def standardModel (provider : Text) : Text :=
  if provider = Text.ofString "openai" then "gpt-4o-mini"
  else if provider = Text.ofString "gemini" then "gemini-2.5-flash"
  else []

/-- The names of the settings of a service. -/
def settingNames : List Text :=
  (["provider", "api_key", "model", "batch_size", "max_concurrency"] : List String).map
    Text.ofString

/-- The key of a service that the environment holds. -/
def keyFrom (env : Environment) (provider : Text) : Text :=
  match keyVariable? provider with
  | some name => (Entries.get? env name).getD []
  | none => []

/-- The settings of a service with the gaps filled: the key from the environment, the model by the
service. -/
def ofSettings (env : Environment) (settings : Entries Json) : Except Failure ServiceConfig :=
  match settings.find? fun s => !settingNames.contains s.1 with
  | some (name, _) =>
    .error (.wrongType ("AIConfig.__init__() got an unexpected keyword argument " ++ name.quoted))
  | none =>
    let value (name : Text) (standard : Json) : Json := (Entries.get? settings name).getD standard
    match value "provider" (.str "openai") with
    | .str provider =>
      let provider := provider.lower
      let key := value "api_key" (.str [])
      let model := value "model" (.str [])
      .ok {
        provider := provider
        apiKey := if key.isTruthy then key else .str (keyFrom env provider)
        model := if model.isTruthy then model else .str (standardModel provider)
        batchSize := value "batch_size" .null
        maxConcurrency := value "max_concurrency" (.int 1) }
    | other => .error (.noMember ("'" ++ other.kindName ++ "' object has no attribute 'lower'"))

end ServiceConfig

/-! ## Projects -/

/-- The settings of a project. -/
structure Config where
  locales : Json
  defaultLocale : Json
  functionName : Json
  componentName : Json
  sourceDir : Json
  outputDir : Json
  keyLead : Json
  excludePatterns : Json
  minLength : Json
  importSource : Json
  extensions : Json
  service : Option ServiceConfig
  root : Path

namespace Config

/-- The settings of a project that chooses nothing. -/
def standard (root : Path) : Config where
  locales := .arr [.str "en"]
  defaultLocale := .str "en"
  functionName := .str "t"
  componentName := .str "T"
  sourceDir := .str "./src"
  outputDir := .str "./locales"
  keyLead := .str []
  excludePatterns := .arr []
  minLength := .int 2
  importSource := .str "lokal-react"
  extensions := .arr (Extraction.Walk.standardSuffixes.map .str)
  service := none
  root := root

/-- A name with the spelling of settings in documents put into the other one. -/
def spelling (pairs : List (String × String)) (name : Text) : Text :=
  match pairs.find? fun p => Text.ofString p.1 = name with
  | some p => Text.ofString p.2
  | none => name

/-- The two spellings of a project's settings. -/
def spellings : List (String × String) :=
  [("defaultLocale", "default_locale"), ("functionName", "function_name"),
    ("componentName", "component_name"), ("sourceDir", "source_dir"), ("outputDir", "output_dir"),
    ("keyPrefix", "key_prefix"), ("excludePatterns", "exclude_patterns"),
    ("minLength", "min_length"), ("importSource", "import_source")]

/-- The two spellings of a service's settings. -/
def serviceSpellings : List (String × String) :=
  [("apiKey", "api_key"), ("batchSize", "batch_size"), ("maxConcurrency", "max_concurrency")]

/-- The settings with one value changed; names that are no setting change nothing. -/
def set (c : Config) (name : Text) (value : Json) : Config :=
  let is (s : String) : Bool := name = Text.ofString s
  if is "locales" then { c with locales := value }
  else if is "default_locale" then { c with defaultLocale := value }
  else if is "function_name" then { c with functionName := value }
  else if is "component_name" then { c with componentName := value }
  else if is "source_dir" then { c with sourceDir := value }
  else if is "output_dir" then { c with outputDir := value }
  else if is "key_prefix" then { c with keyLead := value }
  else if is "exclude_patterns" then { c with excludePatterns := value }
  else if is "min_length" then { c with minLength := value }
  else if is "import_source" then { c with importSource := value }
  else if is "extensions" then { c with extensions := value }
  else c

/-- The settings of a service in a document; names that are no setting are passed over. -/
def serviceOf (env : Environment) (document : Entries Json) :
    Except Failure (Option ServiceConfig) :=
  match Entries.get? document "ai" with
  | some (.obj fields) =>
    let settings := (fields.map fun f => (spelling serviceSpellings f.1, f.2)).filter fun s =>
      ServiceConfig.settingNames.contains s.1
    (ServiceConfig.ofSettings env (Entries.ofPairs settings)).map some
  | _ => .ok none

/-- The settings of a document, over those of a project that chooses nothing. -/
def ofDocument (env : Environment) (root : Path) (document : Entries Json) :
    Except Failure Config := do
  let c := document.foldl (fun c f => c.set (spelling spellings f.1) f.2) (standard root)
  return { c with service := ← serviceOf env document }

end Config

end Localization
