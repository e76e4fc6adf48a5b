import Localization.Extraction.Edit
import Localization.Extraction.Markup

/-!
# Where the translation function comes from

A file whose texts are replaced by calls has to see the function that is called. It does if the file
imports or declares the function at the top level, or if a declaration inside a block that holds all
the calls binds it. Otherwise an import is put after the last import; failing that, after the last
declaration that requires a module, in that form; failing that, after the directives a file may
start with; failing that, at its very start.
-/

namespace Localization.Extraction

open Syntax

/-! ## Who binds a name -/

/-- Whether a binding names a variable, in whatever part of it. -/
def binds (source : Source) (name : Text) (target : Tree) : Bool :=
  target.subtrees.any fun t =>
    (t.kind = .identifier || t.kind = .shorthandBinding) && t.text source = name

/-- Whether an import statement binds a name. -/
def importsName (source : Source) (name : Text) (statement : Tree) : Bool :=
  statement.subtrees.any fun t =>
    match t.kind with
    | .importSpecifier =>
      (t.child? .alias <|> t.child? .name).any fun bound => bound.text source = name
    | .importClause | .namespaceImport =>
      t.namedChildren.any fun c => c.kind = .identifier && c.text source = name
    | _ => false

/-- Whether a declaration binds a name. -/
def declarationBinds (source : Source) (name : Text) (t : Tree) : Bool :=
  match t.kind with
  | .lexicalDeclaration | .variableDeclaration =>
    t.namedChildren.any fun d =>
      d.kind = .declarator && (d.child? .name).any (binds source name)
  | .functionDeclaration | .generatorDeclaration =>
    (t.child? .name).any fun n => n.text source = name
  | _ => false

/-- Whether a statement of a file's top level binds a name. -/
def statementBinds (source : Source) (name : Text) (t : Tree) : Bool :=
  match t.kind with
  | .importStatement => importsName source name t
  | .exportStatement => (t.child? .declaration).any (declarationBinds source name)
  | _ => declarationBinds source name t

/-- Whether a variable declared somewhere in a block that holds all edits has a name. -/
def localBinds (source : Source) (name : Text) (edits : List Edit) (v : Tree.Visit) : Bool :=
  v.tree.kind = .declarator && (v.tree.child? .name).any (binds source name) &&
    (v.ancestors.find? (·.kind = .block)).any fun block =>
      edits.all fun e => block.start ≤ e.start && e.stop ≤ block.stop

/-- Whether every edit can see the function already. -/
def declares (source : Source) (name : Text) (root : Tree) (edits : List Edit) : Bool :=
  root.namedChildren.any (statementBinds source name) ||
    (!edits.isEmpty && root.visits.any (localBinds source name edits))

/-! ## Where an import goes -/

/-- Whether a statement is a directive: a string by itself. -/
def isDirective (t : Tree) : Bool :=
  t.kind = .expressionStatement && t.namedChildren.head?.any (·.kind = .string)

/-- Whether a statement declares variables and requires a module in doing so. -/
def isRequire (source : Source) (t : Tree) : Bool :=
  (t.kind = .lexicalDeclaration || t.kind = .variableDeclaration) &&
    t.subtrees.any (isCallOf source "require")

/-- The ends of the last import, of the last declaration that requires a module, and of the last
directive in front of all else. -/
structure Anchors where
  lastImport : Option Nat
  lastRequire : Option Nat
  lastDirective : Option Nat

/-- The anchors among statements; `leading` while only directives and comments were met. -/
def anchorsOf (source : Source) : (leading : Bool) → Anchors → List Tree → Anchors
  | _, a, [] => a
  | leading, a, t :: rest =>
    if t.kind = .importStatement then anchorsOf source false { a with lastImport := some t.stop } rest
    else if isRequire source t then anchorsOf source false { a with lastRequire := some t.stop } rest
    else if leading && isDirective t then
      anchorsOf source leading { a with lastDirective := some t.stop } rest
    else anchorsOf source (leading && (t.kind = .comment || t.kind = .hashBang)) a rest

/-- The edit that makes the function visible. -/
def importEdit (source : Source) (name module : Text) (root : Tree) : Edit :=
  let importLine : Text := "import \x7b " ++ name ++ " \x7d from '" ++ module ++ "';"
  let requireLine : Text := "const \x7b " ++ name ++ " \x7d = require('" ++ module ++ "');"
  let a := anchorsOf source true ⟨none, none, none⟩ root.namedChildren
  match a.lastImport, a.lastRequire, a.lastDirective with
  | some n, _, _ => ⟨n, n, "\n" ++ importLine⟩
  | none, some n, _ => ⟨n, n, "\n" ++ requireLine⟩
  | none, none, some n => ⟨n, n, "\n" ++ importLine⟩
  | none, none, none => ⟨0, 0, importLine ++ "\n"⟩

end Localization.Extraction
