import Localization.Command.Session
import Localization.Sync.Run

/-!
# Translating

The default locale is translated into others, one after another. A locale is saved as soon as it is
done, with the digests of what it was translated from; texts that failed are asked for again by the
next run.
-/

namespace Localization.Command

variable {σ : Type}

/-- How many failures are shown. -/
def failureLimit : Nat := 20

/-- The locales to translate into. -/
def targetsOf (c : Config) (locales : List Text) (all : Bool) : Running σ (List Json) := do
  if all then orFail c.targetLocales
  else if locales.isEmpty then
    say "[red]Error:[/red] specify --locale or --all"
    abort
  else return (locales.map Json.str).filter fun l => !l.same c.defaultLocale

/-- The names of locales, which must be texts. -/
def localeNames (locales : List Json) : Except Failure (List Text) :=
  locales.zipIdx.mapM fun (l, i) =>
    match l with
    | .str t => .ok t
    | j => .error (.wrongType ("sequence item " ++ Text.ofNumber i ++
        ": expected str instance, " ++ j.kindName ++ " found"))

/-- The catalog of a stored locale; a locale that is not there has an empty one. -/
def catalogOf : Option LocaleFile → Except Failure Catalog
  | some file => Catalog.ofJson file.data
  | none => .ok []

/-- Loads the default locale; without it the command ends. -/
def loadSource (store : Store) (c : Config) : Running σ Catalog := do
  let source ← withStore (store.load c.defaultLocale)
  showWarnings
  match source with
  | some file => orFail (Catalog.ofJson file.data)
  | none =>
    say ("[red]Error:[/red] no " ++ c.defaultLocale.bare ++ ".json found; " ++
      "run [cyan]lokal scan[/cyan] or [cyan]lokal wrap[/cyan] first")
    abort

/-- Shows what became of a locale. -/
def showSync (locale : Text) (r : Sync.Result) : Running σ Unit :=
  if r.requested.isEmpty then
    say ("  [green]" ++ locale ++ ": all strings already translated[/green]")
  else do
    say ("  [cyan]" ++ locale ++ ":[/cyan] " ++ Text.ofNumber r.translated.length ++
      " translated, " ++ Text.ofNumber r.failed.length ++ " failed, " ++
      Text.ofNumber r.skipped ++ " skipped")
    sayEach id ((r.failed.take failureLimit).map fun f => "    [red]" ++ f.1 ++ "[/red]: " ++ f.2)

/-- Brings one locale up to date and saves it. -/
def translateLocale (h : Host σ) (store : Store) (service : ServiceConfig) (provider : Provider σ)
    (sourceLocale : Text) (source : Catalog) (locale : Text) : Running σ Sync.Result := do
  let target ← withStore (store.load (.str locale))
  showWarnings
  let hashes ← orFail (Hashes.ofLocaleFile target)
  let settings ← orFail
    (Sync.Settings.ofJson service.batchSize service.maxConcurrency true false)
  let catalog ← orFail (catalogOf target)
  let st ← keepRecords (Sync.run settings provider hashes (← get).service none sourceLocale locale
    source catalog)
  modify fun session => { session with service := st.service }
  if !st.result.requested.isEmpty || target.isNone then
    let _ ← withStore (store.save h.now (.str locale) (.obj st.result.data) st.hashes)
  showSync locale st.result
  return st.result

/-- Brings locales up to date one after another: how many texts failed. -/
def translateEach (h : Host σ) (store : Store) (service : ServiceConfig) (provider : Provider σ)
    (sourceLocale : Text) (source : Catalog) : List Text → Running σ Nat
  | [] => return 0
  | locale :: rest => do
    let r ← translateLocale h store service provider sourceLocale source locale
    let later ← translateEach h store service provider sourceLocale source rest
    return r.failed.length + later

/-- Translates the default locale into others. -/
def translateLocales (h : Host σ) (config : Option Text) (locales : List Text) (all : Bool) :
    Running σ Unit := do
  let c ← loadConfig h config
  let targets ← targetsOf c locales all
  if targets.isEmpty then
    say "[yellow]No target locales to translate[/yellow]"
    return
  refuseFaults c.serviceFaults
  let store ← openStore c
  let source ← loadSource store c
  match c.service with
  | none => return
  | some service =>
    let provider ← orFail (h.service service)
    let names ← orFail (localeNames targets)
    say ("[blue]Translating from " ++ c.defaultLocale.bare ++ " with " ++ service.provider ++
      ":[/blue] " ++ Text.join ", " names)
    let failures ← translateEach h store service provider c.defaultLocale.bare source names
    say (if failures = 0 then "\n[green]Done![/green]"
      else "\n[yellow]" ++ Text.ofNumber failures ++ " translations failed; rerun to retry[/yellow]")

end Localization.Command
