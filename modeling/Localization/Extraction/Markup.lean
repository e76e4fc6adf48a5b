import Localization.Escape
import Localization.Reference.Decode
import Localization.Syntax.Tree

/-!
# Calls, elements and literals in a tree

The questions that scanning and wrapping ask of a syntax tree: which function a call names, what its
first argument is, what an element is called and holds, and what text a literal stands for. A string
in an attribute has character references and no escapes; everywhere else it is the other way round.
-/

namespace Localization.Extraction

open Syntax

/-- The name of the function a call calls, if it is a plain name. -/
def callee? (source : Source) (call : Tree) : Option Text := do
  let function ← call.child? .function
  if function.kind = .identifier then some (function.text source) else none

/-- The first argument of a call; a comment counts as one. -/
def firstArgument? (call : Tree) : Option Tree := do
  let arguments ← call.child? .arguments
  arguments.namedChildren.head?

/-- Whether a node is a call of the function with a name. -/
def isCallOf (source : Source) (name : Text) (t : Tree) : Bool :=
  t.kind = .call && callee? source t = some name

/-- The first argument of a call of the function with a name, if it is a string. -/
def literalArgument? (source : Source) (name : Text) (t : Tree) : Option Tree :=
  if isCallOf source name t then
    match firstArgument? t with
    | some a => if a.kind = .string then some a else none
    | none => none
  else none

/-- The name of an element; a fragment has none. -/
def elementName? (source : Source) (element : Tree) : Option Text := do
  let tag ← element.child? .openTag
  let name ← tag.child? .name
  return name.text source

/-- What stands between an element's tags. -/
def elementContent (element : Tree) : List Tree :=
  element.children.filter fun c => c.role ≠ some .openTag && c.role ≠ some .closeTag

/-- Whether a node is text between tags. -/
def isMarkupText (t : Tree) : Bool := t.kind = .markupText || t.kind = .characterReference

/-- The maximal runs of neighbours that are text. -/
def textRunsOf : List Tree → List (List Tree)
  | [] => []
  | t :: ts =>
    if isMarkupText t then
      match ts, textRunsOf ts with
      | next :: _, run :: runs => if isMarkupText next then (t :: run) :: runs else [t] :: run :: runs
      | _, runs => [t] :: runs
    else textRunsOf ts

/-- The runs of literal text between an element's tags. -/
def textRuns (element : Tree) : List (List Tree) := textRunsOf (elementContent element)

/-- The bytes from the start of a run's first node to the end of its last. -/
def runSpan? (run : List Tree) : Option Span :=
  match run.head?, run.getLast? with
  | some first, some last => some ⟨first.start, last.stop⟩
  | _, _ => none

/-- A text without its first and last code point. -/
def unquoted (t : Text) : Text := (t.drop 1).dropLast

/-- The text that a string literal stands for, given the node around it. -/
def stringValue (source : Source) (parent : Option Tree) (t : Tree) : Except Escape.Fault Text :=
  let body := unquoted (t.text source)
  if parent.any (·.kind = .markupAttribute) then
    match Reference.oversized? body with
    | some digits => .error (.oversizedNumber digits)
    | none => .ok (Reference.decode body)
  else Escape.resolve body

/-- The name and the value of an attribute. -/
def attributeParts (source : Source) (t : Tree) : Option (Text × Option Tree) :=
  match t.children with
  | [] => none
  | name :: rest => some (name.text source, if 2 ≤ rest.length then rest.getLast? else none)

/-- The lines of the first nodes that could not be read or had to be supplied, at most five. -/
def errorLines (source : Source) (root : Tree) : List Nat :=
  ((root.subtrees.filter fun t => t.kind = .error || t.kind = .missing).take 5).map fun t =>
    (source.location t.start).line

end Localization.Extraction
