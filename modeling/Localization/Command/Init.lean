import Localization.Command.Session

/-!
# Setting a project up

Writes a configuration into a folder and makes the catalog of the default locale. A configuration
that is there already is kept, unless it may be overwritten.
-/

namespace Localization.Command

variable {σ : Type}

/-- The name of the configuration that is written. -/
def configName : Text := "lokal.config.json"

/-- The locales of a list that is divided by commas. -/
def localesOf (given : Text) : List Text :=
  ((Text.splitOn (.scalar ',') given).map Text.strip).filter fun l => !l.isEmpty

/-- The locales of a project and its default one: the one that was chosen, else the first. -/
def projectLocales (given : Text) (chosen : Option Text) : List Text × Text :=
  let locales := localesOf given
  let standard := match chosen with
    | some d => if d.isEmpty then locales.headD "en" else d
    | none => locales.headD "en"
  (if locales.contains standard then locales else standard :: locales, standard)

/-- The document of a new configuration. -/
def configDocument (c : Config) : Json :=
  let fields : List (Text × Json) :=
    [("locales", c.locales), ("defaultLocale", c.defaultLocale), ("functionName", c.functionName),
      ("componentName", c.componentName), ("sourceDir", c.sourceDir), ("outputDir", c.outputDir)]
  .obj fields

/-- Makes a folder and all folders above it. -/
def makeFolders (p : Path) : Running σ Unit := do
  match (← files).makePath p with
  | .ok t => putFiles t
  | .error f => throw (.failed (.files f p.toText))

/-- Writes a file. -/
def writeFile (p : Path) (content : Text) : Running σ Unit := do
  let bytes ← orFail ((Utf8.encode content).mapError .encoding)
  match (← files).writeBytes p bytes with
  | .ok t => putFiles t
  | .error f => throw (.failed (.files f p.toText))

/-- Makes the catalog of the default locale, if there is none. -/
def makeDefault (h : Host σ) (c : Config) (standard : Text) : Running σ Unit := do
  let store ← openStore c
  if !(← withStore (store.has (.str standard))) then
    let _ ← withStore (store.save h.now (.str standard) (.obj []) [])
    say ("[green]Created:[/green] " ++ (store.base.child (Store.fileName standard)).toText)

/-- What to do after a project is set up. -/
def nextSteps : Shown :=
  .panel "Next steps" ("1. [cyan]lokal wrap --dry-run[/cyan] to preview strings to wrap\n" ++
    "2. [cyan]lokal wrap[/cyan] to wrap them\n" ++
    "3. [cyan]lokal translate --all[/cyan] to translate")

/-- Sets a project up. -/
def setUp (h : Host σ) (locales : Text) (chosen : Option Text) (folder : Text)
    (force : Bool) : Running σ Unit := do
  let root := Path.ofText folder
  let file := root.child configName
  let place := h.folder.join file
  if (← withStore (Store.present place)) && !force then
    say ("[yellow]" ++ file.toText ++ " already exists[/yellow] (use --force to overwrite)")
    abort
  let (all, standard) := projectLocales locales chosen
  let c := { Config.standard (← orFail (resolved h folder)) with
    locales := .arr (all.map .str), defaultLocale := .str standard }
  refuseFaults (← orFail (c.faults h.characters))
  makeFolders (h.folder.join root)
  writeFile place ((configDocument c).render .ascii ++ "\n")
  say ("[green]Created:[/green] " ++ file.toText)
  makeDefault h c standard
  present nextSteps

end Localization.Command
