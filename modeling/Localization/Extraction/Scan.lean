import Localization.Extraction.Markup
import Localization.Extraction.Parser
import Localization.Report
import Localization.Text.Blank

/-!
# Texts that are marked for translation

Two shapes mark a text: a call of the translation function whose first argument is a string, and an
element of the translation component that holds nothing but text. Scanning a file gives these texts
in the order in which they are met on a walk over its tree.
-/

namespace Localization.Extraction

open Syntax

/-- The names that mark a text. -/
structure Markers where
  functionName : Text
  componentName : Text

/-- A text found in a file, with the place it stands at. -/
structure Extracted where
  key : Text
  value : Text
  file : Text
  location : Location

/-- What a scan found. -/
structure ScanResult where
  strings : List Extracted
  errors : List Text
  filesScanned : Nat
  cancelled : Bool

namespace ScanResult

/-- Nothing scanned yet. -/
def empty : ScanResult := ⟨[], [], 0, false⟩

/-- One result after another. -/
def append (a b : ScanResult) : ScanResult :=
  { a with strings := a.strings ++ b.strings, errors := a.errors ++ b.errors,
           filesScanned := a.filesScanned + b.filesScanned }

/-- The texts by their keys: a key stands where it was first found, with what was found last. -/
def uniqueKeys (r : ScanResult) : Entries Extracted :=
  Entries.ofPairs (r.strings.map fun s => (s.key, s))

end ScanResult

/-- The text a call marks. -/
def fromCall (m : Markers) (source : Source) (file : Text) (call : Tree) :
    Except Escape.Fault (Option Extracted) :=
  match literalArgument? source m.functionName call with
  | none => .ok none
  | some argument =>
    (stringValue source (call.child? .arguments) argument).map fun value =>
      some ⟨value, value, file, source.location argument.start⟩

/-- The text an element marks. -/
def fromElement (m : Markers) (source : Source) (file : Text) (element : Tree) :
    Option Extracted :=
  let content := elementContent element
  if elementName? source element = some m.componentName && content.all isMarkupText then
    (runSpan? content).bind fun span =>
      let raw := source.slice span.start span.stop
      let text := match Utf8.decode raw with
        | .ok cs => Text.ofChars cs
        | .error _ => []
      let value := (Reference.decode text).strip
      if value.isEmpty then none
      else
        let lead := (raw.takeWhile isBlankByte).length
        some ⟨value, value, file, source.location (span.start + lead)⟩
  else none

/-- The text that a node marks, if it marks one. -/
def extract (m : Markers) (source : Source) (file : Text) (t : Tree) :
    Except Escape.Fault (Option Extracted) :=
  match t.kind with
  | .call => fromCall m source file t
  | .element => .ok (fromElement m source file t)
  | _ => .ok none

/-- The texts that the nodes of a walk mark; a text from inside a region of error is reported. -/
def extractAll (m : Markers) (source : Source) (file : Text) :
    List Tree.Visit → Logged (List Extracted)
  | [] => pure []
  | v :: rest => do
    let found ← .lift ((extract m source file v.tree).mapError .escape)
    match found with
    | none => extractAll m source file rest
    | some s =>
      if v.inError then
        .warn ("Extracted " ++ s.key.quoted ++ " from a damaged region of " ++ file ++ " (line " ++
          Text.ofNumber s.location.line ++ ")")
      return s :: (← extractAll m source file rest)

/-- Reports the lines around which a file could not be read. -/
def warnOfErrors (source : Source) (file : Text) (root : Tree) : Logged Unit :=
  match errorLines source root with
  | [] => pure ()
  | lines =>
    .warn ("Recovered from syntax errors in " ++ file ++ " (line " ++
      Text.join ", " (lines.map Text.ofNumber) ++ ")")

/-- The report on a file that the parser refuses. -/
def parseFailure (file reason : Text) : Text := "Failed to parse " ++ file ++ ": " ++ reason

/-- Scans the content of a file. -/
def scanContent (m : Markers) (parser : Parser) (file : Text) (source : Source) :
    Logged ScanResult :=
  match parser file source with
  | .error reason => pure { ScanResult.empty with errors := [parseFailure file reason] }
  | .ok tree => do
    warnOfErrors source file tree
    let strings ← extractAll m source file tree.visits
    return { ScanResult.empty with strings := strings }

end Localization.Extraction
