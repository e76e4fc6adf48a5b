import Localization.Command.Arguments
import Localization.Files

/-!
# What a command line asks for

Five commands: set a project up, collect the marked texts, mark texts, translate, and report what is
translated. Options that name files are checked before the command runs.
-/

namespace Localization

/-- A command with its options. -/
inductive Command where
  | init (locales : Text) (defaultLocale : Option Text) (folder : Text) (force : Bool)
  | scan (config output : Option Text) (verbose : Bool)
  | wrap (config source function : Option Text) (dryRun yes verbose : Bool)
  | translate (config : Option Text) (locales : List Text) (all verbose : Bool)
  | stats (config : Option Text)

namespace Command

/-- What a command line asks for. -/
inductive Request where
  | help
  | version
  | run (command : Command)

/-! ## Options -/

/-- An option with a value. -/
def valued (name : String) (letter : Option Char) : Switch := ⟨name, letter, true⟩

/-- An option without a value. -/
def flag (name : String) (letter : Option Char) : Switch := ⟨name, letter, false⟩

/-- The option that asks for help. -/
def helpFlag : Switch := flag "--help" none

/-- The options in front of a command. -/
def programSwitches : List Switch := [flag "--version" none, helpFlag]

/-- The option that names a configuration. -/
def configSwitch : Switch := valued "--config" (some 'c')

/-- The option that asks for more records. -/
def verboseFlag : Switch := flag "--verbose" (some 'v')

/-- The names of the commands, each with its options. -/
def switchesOf : List (String × List Switch) :=
  [("init", [valued "--locales" (some 'l'), valued "--default-locale" (some 'd'),
      valued "--dir" none, flag "--force" none, helpFlag]),
    ("scan", [configSwitch, valued "--output" (some 'o'), verboseFlag, helpFlag]),
    ("wrap", [configSwitch, valued "--src" (some 's'), valued "--function" (some 'f'),
      flag "--dry-run" none, flag "--yes" (some 'y'), verboseFlag, helpFlag]),
    ("translate", [configSwitch, valued "--locale" (some 'l'), flag "--all" (some 'a'),
      verboseFlag, helpFlag]),
    ("stats", [configSwitch, helpFlag])]

/-- The command that its name and its options give. -/
def ofOptions (name : String) (p : Parsed) : Option Command :=
  let config := p.value? "--config"
  let verbose := p.has "--verbose"
  match name with
  | "init" =>
    some (.init ((p.value? "--locales").getD "en") (p.value? "--default-locale")
      ((p.value? "--dir").getD ".") (p.has "--force"))
  | "scan" => some (.scan config (p.value? "--output") verbose)
  | "wrap" =>
    some (.wrap config (p.value? "--src") (p.value? "--function") (p.has "--dry-run")
      (p.has "--yes") verbose)
  | "translate" => some (.translate config (p.values "--locale") (p.has "--all") verbose)
  | "stats" => some (.stats config)
  | _ => none

/-- Reads the arguments of a command. -/
def readCommand (given : Text) (args : List Text) : Except UsageFault Request := do
  match switchesOf.find? fun s => Text.ofString s.1 = given with
  | none => .error (.unknownCommand given)
  | some (name, switches) =>
    let p ← parse switches true args
    if p.has "--help" then return .help
    match p.others, ofOptions name p with
    | [], some command => return .run command
    | [], none => .error (.unknownCommand given)
    | extra :: _, _ => .error (.extraArgument extra)

/-- Reads a command line. -/
def readRequest (args : List Text) : Except UsageFault Request := do
  let p ← parse programSwitches false args
  match p.given, p.others with
  | (name, _) :: _, _ => return if name = Text.ofString "--version" then .version else .help
  | [], name :: rest => readCommand name rest
  | [], [] => .error .noCommand

/-! ## Files that options name -/

/-- What the path in an option may lead to. -/
structure PathRule where
  mustExist : Bool
  fileAllowed : Bool
  folderAllowed : Bool

/-- The paths in the options of a command, with their rules. -/
def paths : Command → List (PathRule × Text)
  | .init _ _ folder _ => [(⟨false, false, true⟩, folder)]
  | .scan config output _ =>
    (config.toList.map fun c => (⟨true, true, false⟩, c)) ++
      (output.toList.map fun o => (⟨false, false, true⟩, o))
  | .wrap config source _ _ _ _ =>
    (config.toList.map fun c => (⟨true, true, false⟩, c)) ++
      (source.toList.map fun s => (⟨true, true, true⟩, s))
  | .translate config _ _ _ => config.toList.map fun c => (⟨true, true, false⟩, c)
  | .stats config => config.toList.map fun c => (⟨true, true, false⟩, c)

/-- What stands at a path that is given as text, below a folder; a slash or a dot at the end asks
for a folder. -/
def treeAt? (t : FileTree) (folder : Path) (given : Text) : Option FileTree :=
  if given.isEmpty then none
  else
    match t.at? (folder.join (Path.ofText given)) with
    | .ok (.file bytes) =>
      if given.endsWith "/" || given.endsWith "/." then none else some (.file bytes)
    | .ok tree => some tree
    | .error _ => none

/-- Checks a path against its rule. -/
def checkPath (t : FileTree) (folder : Path) (rule : PathRule) (given : Text) :
    Except UsageFault Unit :=
  match treeAt? t folder given with
  | none => if rule.mustExist then .error (.pathMissing given) else .ok ()
  | some (.file _) => if rule.fileAllowed then .ok () else .error (.pathIsFile given)
  | some (.folder _) => if rule.folderAllowed then .ok () else .error (.pathIsFolder given)

/-- Checks the paths in the options of a command. -/
def checkPaths (t : FileTree) (folder : Path) (c : Command) : Except UsageFault Unit :=
  c.paths.forM fun p => checkPath t folder p.1 p.2

end Command

end Localization
