import Localization.Extraction.Import
import Localization.Extraction.Parser
import Localization.Extraction.Scan
import Localization.Filter
import Localization.Key.Registry

/-!
# Wrapping texts in calls

Literal text between tags, string values of attributes, and strings in braces between tags are
replaced by calls of the translation function. A walk over the tree records one edit for each text
it replaces; keys come from the registry of the file, in which the keys of calls already there are
reserved. Text of the translation component and text inside a call of the function is left alone.
-/

namespace Localization.Extraction

open Syntax

/-- How texts are wrapped. -/
structure WrapOptions where
  markers : Markers
  keyLead : Text
  filter : Filter
  module : Text

/-- A text that was replaced, or would be. -/
structure Wrapped where
  text : Text
  wrapped : Text
  key : Text
  location : Location

/-- The shape of a replaced text: between tags, in an attribute, or as an expression in braces. -/
inductive Position where
  | text
  | markupAttribute
  | expression
  deriving DecidableEq

/-- What a pass over a file has recorded. -/
structure Pass where
  registry : Key.Registry
  taken : List Location
  edits : List Edit
  wrapped : List Wrapped

/-- What wrapping a file gave. -/
structure WrapResult where
  file : Text
  wrapped : List Wrapped
  errors : List Text
  newSource : Option (List Char)
  importAdded : Bool
  written : Bool

namespace WrapResult

/-- A file in which nothing was wrapped. -/
def unchanged (file : Text) : WrapResult := ⟨file, [], [], none, false, false⟩

/-- Whether the file is to be changed. -/
def modified (r : WrapResult) : Bool := r.newSource.isSome

/-- Whether the file was processed without errors. -/
def success (r : WrapResult) : Bool := r.errors.isEmpty

end WrapResult

/-- The call that looks a key up. -/
def callOf (functionName key : Text) : Text :=
  functionName ++ "(" ++ Escape.literal key ++ ")"

/-- A text in braces. -/
def braced (t : Text) : Text := "\x7b" ++ t ++ "\x7d"

/-- Records the replacement of a text; a location is replaced once only. -/
def Pass.replace (p : Pass) (o : WrapOptions) (source : Source) (position : Position)
    (text : Text) (span : Span) : Except Failure Pass :=
  let location := source.location span.start
  if p.taken.contains location then .ok p
  else do
    let (key, registry) ← (p.registry.keyFor text).mapError .encoding
    let call := callOf o.markers.functionName key
    let replacement := if position = .expression then call else braced call
    let shown := if position = .text then replacement else call
    return { registry := registry
             taken := location :: p.taken
             edits := p.edits ++ [⟨span.start, span.stop, replacement⟩]
             wrapped := p.wrapped ++ [⟨text, shown, key, location⟩] }

/-! ## The three shapes -/

/-- Whether a node stands inside a call of the translation function. -/
def insideCall (o : WrapOptions) (source : Source) (v : Tree.Visit) : Bool :=
  v.ancestors.any (isCallOf source o.markers.functionName)

/-- The span of a run without the blanks at its ends; none if nothing is left. -/
def trimmedSpan? (source : Source) (run : List Tree) : Option Span :=
  (runSpan? run).bind fun s =>
    let raw := source.slice s.start s.stop
    let start := s.start + (raw.takeWhile isBlankByte).length
    let stop := s.stop - (raw.reverse.takeWhile isBlankByte).length
    if stop ≤ start then none else some ⟨start, stop⟩

/-- The text that a span of markup shows: references resolved, blanks collapsed. -/
def shownText (source : Source) (s : Span) : Text :=
  let text := match source.sliceText s.start s.stop with
    | .ok t => t
    | .error _ => []
  Text.join " " (Reference.decode text).words

/-- Wraps one run of text between tags. -/
def wrapRun (o : WrapOptions) (source : Source) (p : Pass) (run : List Tree) :
    Except Failure Pass :=
  match trimmedSpan? source run with
  | none => .ok p
  | some s =>
    let text := shownText source s
    if o.filter.excludes text then .ok p else p.replace o source .text text s

/-- Wraps the text between an element's tags. -/
def wrapElement (o : WrapOptions) (source : Source) (p : Pass) (v : Tree.Visit) :
    Except Failure Pass :=
  if elementName? source v.tree = some o.markers.componentName || v.inError ||
      insideCall o source v then .ok p
  else (textRuns v.tree).foldlM (wrapRun o source) p

/-- Wraps the string value of an attribute. -/
def wrapAttribute (o : WrapOptions) (source : Source) (p : Pass) (v : Tree.Visit) :
    Except Failure Pass :=
  match attributeParts source v.tree with
  | some (name, some value) =>
    if value.kind ≠ .string || v.inError then .ok p
    else do
      let text := (← (stringValue source (some v.tree) value).mapError .escape).strip
      if o.filter.excludesAttribute name text then return p
      else p.replace o source .markupAttribute text value.span
  | _ => .ok p

/-- Wraps a string in braces between tags. -/
def wrapString (o : WrapOptions) (source : Source) (p : Pass) (v : Tree.Visit) :
    Except Failure Pass :=
  match v.ancestors with
  | container :: element :: _ =>
    if container.kind ≠ .container || element.kind ≠ .element || v.inError ||
        insideCall o source v then .ok p
    else do
      let text ← (stringValue source (some container) v.tree).mapError .escape
      if o.filter.excludes text then return p
      else p.replace o source .expression text.strip v.tree.span
  | _ => .ok p

/-- Wraps what a visited node holds. -/
def wrapVisit (o : WrapOptions) (source : Source) (p : Pass) (v : Tree.Visit) :
    Except Failure Pass :=
  match v.tree.kind with
  | .element => wrapElement o source p v
  | .markupAttribute => wrapAttribute o source p v
  | .string => wrapString o source p v
  | _ => .ok p

/-! ## Files -/

/-- Reserves the keys of the calls that a file holds already. -/
def reserveKeys (o : WrapOptions) (source : Source) (r : Key.Registry) :
    List Tree → Except Failure Key.Registry
  | [] => .ok r
  | t :: rest =>
    match literalArgument? source o.markers.functionName t with
    | none => reserveKeys o source r rest
    | some argument => do
      let key ← (stringValue source (t.child? .arguments) argument).mapError .escape
      reserveKeys o source (r.reserve key) rest

/-- All edits of a file, as a walk over its tree records them. -/
def record (o : WrapOptions) (source : Source) (file : Text) (root : Tree) :
    Except Failure Pass := do
  let registry ← reserveKeys o source (.empty file o.keyLead) root.subtrees
  root.visits.foldlM (wrapVisit o source) ⟨registry, [], [], []⟩

/-- The file with edits applied. -/
def edited (source : Source) (edits : List Edit) : Except Failure (List Char) := do
  let bytes ← (Edit.applyAll (Edit.ordered edits) source.bytes).mapError .encoding
  (Utf8.decode bytes).mapError .decoding

/-- Wraps the texts of a tree. -/
def wrapTree (o : WrapOptions) (source : Source) (file : Text) (root : Tree) :
    Except Failure WrapResult := do
  let pass ← record o source file root
  if pass.edits.isEmpty then return .unchanged file
  let known := declares source o.markers.functionName root pass.edits
  let edits :=
    if known then pass.edits
    else pass.edits ++ [importEdit source o.markers.functionName o.module root]
  let chars ← edited source edits
  return { WrapResult.unchanged file with
           wrapped := pass.wrapped, newSource := some chars, importAdded := !known }

/-- Wraps the texts of a file's content; whatever goes wrong is recorded in the result. -/
def wrapContent (o : WrapOptions) (parser : Parser) (file : Text) (source : Source) : WrapResult :=
  match parser file source with
  | .error reason => { WrapResult.unchanged file with errors := [parseFailure file reason] }
  | .ok tree =>
    match wrapTree o source file tree with
    | .ok r => r
    | .error e =>
      { WrapResult.unchanged file with
        errors := ["AST wrapping error in " ++ file ++ ": " ++ e.message] }

end Localization.Extraction
