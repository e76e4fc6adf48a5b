import Localization.Command.Init
import Localization.Command.Request
import Localization.Command.Stats
import Localization.Command.Translate
import Localization.Command.Wrap

/-!
# Whole runs

A run reads the command line, checks it, runs the command and says how it ended. A command line that
cannot be used ends the run before anything is done. Failures that this program foresees are shown;
any other is handed on.
-/

namespace Localization.Command

variable {σ : Type}

/-- How a run ended. -/
inductive Ending where
  | done
  | aborted
  | misused (fault : UsageFault)
  | failed (failure : Failure)

/-- The number that a run ends with. -/
def Ending.code : Ending → Nat
  | .done => 0
  | .aborted | .failed _ => 1
  | .misused _ => 2

/-- The version of this program. -/
def version : Text := "0.1.0"

/-- What the program says about its use. -/
def usage (program : Text) : Text :=
  "Usage: " ++ program ++ " [OPTIONS] COMMAND [ARGS]...\n\nCommands: " ++
    Text.join ", " (switchesOf.map fun s => Text.ofString s.1) ++ "\n"

/-- What a command does. -/
def steps (h : Host σ) : Command → Running σ Unit
  | .init locales chosen folder force => setUp h locales chosen folder force
  | .scan config output verbose => collectTexts h config output verbose
  | .wrap config source function dryRun yes _ => wrapTexts h config source function dryRun yes
  | .translate config locales all _ => translateLocales h config locales all
  | .stats config => reportCoverage h config

/-- Whether a command keeps records of lesser importance. -/
def isVerbose : Command → Bool
  | .scan _ _ verbose | .wrap _ _ _ _ _ verbose | .translate _ _ _ verbose => verbose
  | _ => false

/-- Whether a failure is shown in a line of its own. -/
def isForeseen : Failure → Bool
  | .config _ | .io _ _ | .security _ | .provider _ _ => true
  | _ => false

/-- Ends a command that stopped early. -/
def endWith (s : Session σ) : Stop → Ending × Session σ
  | .aborted => (.aborted, s)
  | .failed f =>
    if isForeseen f then
      (.aborted, { s with shown := s.shown ++ [.line ("[red]Error:[/red] " ++ escape f.message)] })
    else (.failed f, s)

/-- The records that are kept: warnings always, the others if they were asked for. -/
def keptRecords (verbose : Bool) (records : List Record) : List Record :=
  if verbose then records else records.filter fun r => r.level = .warning

/-- Runs a command. -/
def runCommand (h : Host σ) (s : Session σ) (c : Command) : Ending × Session σ :=
  let (result, s') := (steps h c).run.run { s with records := [] }
  let kept := keptRecords c.isVerbose s'.records
  let s' := { s' with records := s.records ++ kept }
  match result with
  | .ok () => (.done, s')
  | .error stop => endWith s' stop

/-- Runs a command line. -/
def run (h : Host σ) (s : Session σ) (args : List Text) : Ending × Session σ :=
  match readRequest args with
  | .error f => (.misused f, s)
  | .ok .help => (.done, { s with printed := s.printed ++ usage h.program })
  | .ok .version =>
    (.done, { s with printed := s.printed ++ h.program ++ ", version " ++ version ++ "\n" })
  | .ok (.run c) =>
    match checkPaths s.disk.files h.folder c with
    | .error f => (.misused f, s)
    | .ok () => runCommand h s c

/-- A session that nothing was done in. -/
def Session.fresh (files : FileTree) (input : List Text) (service : σ) : Session σ :=
  ⟨⟨files, []⟩, [], [], input, [], service⟩

end Localization.Command
