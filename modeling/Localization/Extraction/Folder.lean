import Localization.Checks
import Localization.Extraction.Scan
import Localization.Extraction.Walk
import Localization.Extraction.Wrap
import Localization.Text.Lines

/-!
# Scanning and wrapping the files of a folder

Files are read, scanned and wrapped one after another, in the order of the walk. A file that cannot
be read is an error of that file alone. A run can be stopped between two files; what was done before
stays. A dry run of wrapping finds the same texts and writes nothing.
-/

namespace Localization.Extraction

/-- The report on a file that cannot be read or written. -/
def ioFailure (p : Path) (reason : Text) : Text := (Failure.io p.toText reason).message

/-- The bytes of a file, or the report on why they cannot be had. -/
def bytesOf (t : FileTree) (p : Path) : Except Text (List UInt8) :=
  (t.readBytes p).mapError fun f => ioFailure p (f.message p.toText)

/-! ## Scanning -/

/-- The content of a file that is scanned, with a line feed at every line end. -/
def scannedContent (t : FileTree) (p : Path) : Except Text (List Char) := do
  (Text.ofBytes (← bytesOf t p)).mapError fun f => ioFailure p f.message

/-- Scans a file. -/
def scanFile (m : Markers) (parser : Parser) (t : FileTree) (p : Path) : Logged ScanResult :=
  match scannedContent t p with
  | .error report => pure { ScanResult.empty with errors := [report], filesScanned := 1 }
  | .ok chars => do
    let r ← scanContent m parser p.toText (.ofChars chars)
    return { r with filesScanned := 1 }

/-- Scans files one after another. -/
def scanFiles (m : Markers) (parser : Parser) (t : FileTree) :
    Checks → ScanResult → List Path → Logged ScanResult
  | _, total, [] => pure total
  | checks, total, p :: rest =>
    match checks.step with
    | none => do
      .record .info ("Scan cancelled after " ++ Text.ofNumber total.filesScanned ++ " files")
      return { total with cancelled := true }
    | some checks => do
      let r ← scanFile m parser t p
      scanFiles m parser t checks (total.append r) rest

/-- Scans the source files at a path. -/
def scanFolder (m : Markers) (parser : Parser) (w : Walk) (t : FileTree) (root : Path)
    (checks : Checks) : Logged ScanResult := do
  scanFiles m parser t checks .empty (← w.files t root)

/-! ## Wrapping -/

/-- The content of a file that is wrapped, as it is. -/
def wrappedContent (t : FileTree) (p : Path) : Except Text (List Char) := do
  (Utf8.decode (← bytesOf t p)).mapError fun f => ioFailure p f.message

/-- Writes the result of wrapping to its file. -/
def writeBack (t : FileTree) (p : Path) (r : WrapResult) (chars : List Char) :
    WrapResult × FileTree :=
  match t.writeBytes p (Utf8.encodeChars chars) with
  | .ok t => ({ r with written := true }, t)
  | .error f =>
    ({ r with errors := r.errors ++ [ioFailure p ("write failed: " ++ f.message p.toText)] }, t)

/-- Wraps the texts of a file; a dry run does not write it. -/
def wrapFile (o : WrapOptions) (parser : Parser) (dryRun : Bool) (t : FileTree) (p : Path) :
    WrapResult × FileTree :=
  match wrappedContent t p with
  | .error report => ({ WrapResult.unchanged p.toText with errors := [report] }, t)
  | .ok chars =>
    let r := wrapContent o parser p.toText (.ofChars chars)
    match r.newSource with
    | some new => if dryRun then (r, t) else writeBack t p r new
    | none => (r, t)

/-- What wrapping the files of a folder gave. -/
structure FolderResult where
  results : List WrapResult
  cancelled : Bool

namespace FolderResult

/-- The number of files that were changed, or would be. -/
def modifiedFiles (r : FolderResult) : Nat := (r.results.filter WrapResult.modified).length

/-- The errors of all files. -/
def errors (r : FolderResult) : List Text := r.results.flatMap WrapResult.errors

/-- The number of texts that were wrapped, or would be. -/
def totalWrapped (r : FolderResult) : Nat := (r.results.flatMap (·.wrapped)).length

/-- The number of files that were written. -/
def writtenFiles (r : FolderResult) : Nat := (r.results.filter WrapResult.written).length

/-- The texts of all keys; a key of two files has the text of the later one. -/
def newKeys (r : FolderResult) : Entries Text :=
  Entries.ofPairs (r.results.flatMap fun f => f.wrapped.map fun w => (w.key, w.text))

end FolderResult

/-- Wraps files one after another: the results, whether the run was stopped, and the files after
it. -/
def wrapFiles (o : WrapOptions) (parser : Parser) (dryRun : Bool) :
    Checks → FileTree → List Path → FolderResult × FileTree
  | _, t, [] => (⟨[], false⟩, t)
  | checks, t, p :: rest =>
    match checks.step with
    | none => (⟨[], true⟩, t)
    | some checks =>
      let (r, t) := wrapFile o parser dryRun t p
      let (later, t) := wrapFiles o parser dryRun checks t rest
      (⟨r :: later.results, later.cancelled⟩, t)

/-- The records on a run of wrapping: every error, and how much was wrapped. -/
def wrapRecords (dryRun : Bool) (r : FolderResult) : List Record :=
  r.errors.map (⟨.warning, ·⟩) ++
    (if r.cancelled then
      [⟨.info, "Wrap cancelled after " ++ Text.ofNumber r.results.length ++ " files"⟩]
    else []) ++
    [⟨.info, (if dryRun then "Would wrap " else "Wrapped ") ++ Text.ofNumber r.totalWrapped ++
      " strings in " ++ Text.ofNumber r.modifiedFiles ++ " files"⟩]

/-- Wraps the texts of the source files at a path. -/
def wrapFolder (o : WrapOptions) (parser : Parser) (w : Walk) (dryRun : Bool) (t : FileTree)
    (root : Path) (checks : Checks) : Logged (FolderResult × FileTree) := do
  let (r, t) := wrapFiles o parser dryRun checks t (← w.files t root)
  ⟨wrapRecords dryRun r, .ok (r, t)⟩

end Localization.Extraction
