import Localization.Command.Scan

/-!
# Marking texts

The texts that a wrap would mark are shown first. After the user agrees the source files are
changed, and the new keys are merged into the default locale.
-/

namespace Localization.Command

open Extraction

variable {σ : Type}

/-! ## Asking -/

/-- The next line that was typed, if there is one. -/
def nextLine : Running σ (Option Text) := do
  match (← get).input with
  | [] => return none
  | line :: rest =>
    modify fun st => { st with input := rest }
    return some line

/-- Prints a text around what is typed. -/
def print (t : Text) : Running σ Unit := modify fun st => { st with printed := st.printed ++ t }

/-- What a line answers; an empty one agrees. -/
def answerOf (line : Text) : Option Bool :=
  let word := line.lower.strip
  if word.isEmpty || word = Text.ofString "y" || word = Text.ofString "yes" then some true
  else if word = Text.ofString "n" || word = Text.ofString "no" then some false
  else none

/-- Asks a question until a line answers it, for at most a number of lines. -/
def askFor (question : Text) : Nat → Running σ Bool
  | 0 => abort
  | n + 1 => do
    print (question ++ " [Y/n]: ")
    match ← nextLine with
    | none => abort
    | some line =>
      print (line ++ "\n")
      match answerOf line with
      | some agreed => return agreed
      | none =>
        print "Error: invalid input\n"
        askFor question n

/-- Asks a question; without an answer the command ends. -/
def ask (question : Text) : Running σ Bool := do askFor question ((← get).input.length + 1)

/-! ## Showing what would be marked -/

/-- How many texts are shown in advance. -/
def previewLimit : Nat := 20

/-- The row of a text that would be marked. -/
def previewRow (file : Text) (w : Wrapped) : List Text :=
  [(Path.ofText file).name ++ ":" ++ Text.ofNumber w.location.line, w.text.take 40, w.wrapped]

/-- The rows of all texts that would be marked. -/
def previewRows (r : FolderResult) : List (List Text) :=
  r.results.flatMap fun f => f.wrapped.map (previewRow f.file)

/-- "n strings in m files". -/
def extent (strings files : Nat) : Text :=
  Text.ofNumber strings ++ " strings in " ++ Text.ofNumber files ++ " files"

/-- Shows what would be marked. -/
def showPreview (r : FolderResult) : Running σ Unit := do
  showErrors r.errors
  let rows := previewRows r
  if !rows.isEmpty then
    present (.table (extent rows.length r.modifiedFiles)
      ((["Location", "Text", "Replacement"] : List String).map Text.ofString)
      (rows.take previewLimit))
  if previewLimit < rows.length then
    say ("[dim]... and " ++ Text.ofNumber (rows.length - previewLimit) ++ " more[/dim]")

/-! ## Marking -/

/-- How texts are marked in a project. -/
def wrapOptionsOf (characters : Regex.CharacterNames) (c : Config) :
    Except Failure WrapOptions := do
  return ⟨markersOf c, if c.keyLead.isTruthy then c.keyLead.bare else [], ← c.filter characters,
    c.importSource.bare⟩

/-- The configuration with another place for the sources and another function. -/
def withSource (h : Host σ) (source function : Option Text) (c : Config) :
    Except Failure Config := do
  let c ← match source with
    | some given => (resolved h given).map fun p => { c with sourceDir := .str p.toText }
    | none => .ok c
  return match function with
    | some name => if name.isEmpty then c else { c with functionName := .str name }
    | none => c

/-- Marks the texts of a project's source files. -/
def wrapProject (h : Host σ) (c : Config) (o : WrapOptions) (dryRun : Bool) :
    Running σ FolderResult := do
  let source ← orFail c.sourcePath
  let walk ← orFail (walkOf c)
  let (r, t) ← keepRecords (wrapFolder o h.parser walk dryRun (← files) source none)
  putFiles t
  return r

/-- Marks the texts of a project after they were shown, and reports on it. -/
def applyWrap (h : Host σ) (c : Config) (o : WrapOptions) : Running σ Unit := do
  let r ← wrapProject h c o false
  showErrors r.errors
  say ("[green]Wrapped:[/green] " ++ extent r.totalWrapped r.writtenFiles)
  if !r.newKeys.isEmpty then updateDefault h c r.newKeys

/-- Marks the texts of a project. -/
def wrapTexts (h : Host σ) (config source function : Option Text) (dryRun yes : Bool) :
    Running σ Unit := do
  let c ← orFail (withSource h source function (← loadConfig h config))
  let o ← orFail (wrapOptionsOf h.characters c)
  say ("[blue]Wrapping:[/blue] " ++ (← orFail c.sourcePath).toText)
  let preview ← wrapProject h c o true
  showPreview preview
  if preview.totalWrapped = 0 then say "[green]Nothing to wrap[/green]"
  else if dryRun then say "\n[yellow]Dry run - no changes saved[/yellow]"
  else
    let agreed ← if yes then pure true
      else ask ("Wrap " ++ extent preview.totalWrapped preview.modifiedFiles ++ "?")
    if agreed then applyWrap h c o else say "[yellow]Cancelled[/yellow]"

end Localization.Command
