import Localization.Command.Session
import Localization.Extraction.Folder

/-!
# Collecting the marked texts

The texts that are marked in the source files of a project become keys of the default locale. Keys
that the locale has already keep their texts.
-/

namespace Localization.Command

open Extraction

variable {σ : Type}

/-- The names that mark a text in a project. -/
def markersOf (c : Config) : Markers := ⟨c.functionName.bare, c.componentName.bare⟩

/-- Where a text was found. -/
def foundAt (s : Extracted) : Text :=
  "  [dim]" ++ s.file ++ ":" ++ Text.ofNumber s.location.line ++ "[/dim] " ++ s.key

/-- The configuration with another folder for the locales. -/
def withOutput (h : Host σ) (output : Option Text) (c : Config) : Except Failure Config :=
  match output with
  | some given =>
    if given.isEmpty then .ok c
    else (resolved h given).map fun p => { c with outputDir := .str p.toText }
  | none => .ok c

/-- Scans the source files of a project. -/
def scanProject (h : Host σ) (c : Config) : Running σ ScanResult := do
  let source ← orFail c.sourcePath
  say ("[blue]Scanning:[/blue] " ++ source.toText)
  let walk ← orFail (walkOf c)
  keepRecords (scanFolder (markersOf c) h.parser walk (← files) source none)

/-- Collects the marked texts of a project. -/
def collectTexts (h : Host σ) (config output : Option Text) (verbose : Bool) : Running σ Unit := do
  let c ← orFail (withOutput h output (← loadConfig h config))
  let result ← scanProject h c
  showErrors result.errors
  let strings := result.uniqueKeys
  say ("[green]Found:[/green] " ++ Text.ofNumber strings.length ++ " unique strings in " ++
    Text.ofNumber result.filesScanned ++ " files")
  if verbose then sayEach id (strings.values.map foundAt)
  if !strings.isEmpty then
    updateDefault h c (strings.map fun (s : Text × Extracted) => (s.1, s.2.value))

end Localization.Command
