import Localization.Source

/-!
# Syntax trees

A source file is read as a tree whose nodes carry a kind, the part they play in their parent, and
the span of bytes they cover. Only the kinds that extraction and wrapping look at are told apart;
every other named construct is a `phrase`, and punctuation and keywords are `token`s. Comments are
nodes of their own between the nodes around them. A region that could not be read is one `error`
node, and a token that had to be supplied is a `missing` node without extent.
-/

namespace Localization.Syntax

/-- What a node is. -/
inductive Kind where
  | program
  | call
  | element
  | selfClosingElement
  | openTag
  | closeTag
  | markupAttribute
  | container
  | markupText
  | characterReference
  | string
  | comment
  | hashBang
  | identifier
  | shorthandBinding
  | declarator
  | block
  | importStatement
  | importClause
  | importSpecifier
  | namespaceImport
  | exportStatement
  | lexicalDeclaration
  | variableDeclaration
  | functionDeclaration
  | generatorDeclaration
  | expressionStatement
  | error
  | missing
  | phrase
  | token
  deriving DecidableEq

/-- Every node but punctuation and keywords is named. -/
def Kind.isNamed : Kind → Bool
  | .token => false
  | _ => true

/-- The part a node plays in its parent. -/
inductive Role where
  | function
  | arguments
  | openTag
  | closeTag
  | name
  | alias
  | declaration
  deriving DecidableEq

/-- The bytes from `start` up to `stop`. -/
structure Span where
  start : Nat
  stop : Nat
  deriving DecidableEq

/-- A syntax tree. -/
inductive Tree where
  | node (kind : Kind) (role : Option Role) (span : Span) (children : List Tree)

namespace Tree

/-- The kind of a tree's root. -/
def kind : Tree → Kind
  | .node k _ _ _ => k

/-- The part a tree plays in its parent. -/
def role : Tree → Option Role
  | .node _ r _ _ => r

/-- The bytes a tree covers. -/
def span : Tree → Span
  | .node _ _ s _ => s

/-- The trees right below a tree. -/
def children : Tree → List Tree
  | .node _ _ _ cs => cs

/-- The first byte offset of a tree. -/
def start (t : Tree) : Nat := t.span.start

/-- The byte offset after a tree. -/
def stop (t : Tree) : Nat := t.span.stop

/-- The children that are neither punctuation nor keywords. -/
def namedChildren (t : Tree) : List Tree := t.children.filter (·.kind.isNamed)

/-- The first child that plays a part. -/
def child? (t : Tree) (role : Role) : Option Tree := t.children.find? (·.role = some role)

/-- A tree with another part to play. -/
def withRole (role : Role) : Tree → Tree
  | .node k _ s cs => .node k (some role) s cs

/-- A tree met on a walk, with the trees around it, the nearest first. -/
structure Visit where
  tree : Tree
  ancestors : List Tree

/-- The tree right around the visited one. -/
def Visit.parent? (v : Visit) : Option Tree := v.ancestors.head?

/-- Whether a node around the visited one could not be read. -/
def Visit.inError (v : Visit) : Bool := v.ancestors.any (·.kind = .error)

mutual

/-- All trees in a tree, each before the ones below it, in order of their place. -/
def visitsUnder (ancestors : List Tree) : Tree → List Visit
  | .node k r s cs =>
    ⟨.node k r s cs, ancestors⟩ :: visitsBeside (.node k r s cs :: ancestors) cs

/-- All trees in the trees of a list, one after another. -/
def visitsBeside (ancestors : List Tree) : List Tree → List Visit
  | [] => []
  | t :: ts => visitsUnder ancestors t ++ visitsBeside ancestors ts

end

/-- All trees in a tree, each before the ones below it. -/
def visits (t : Tree) : List Visit := visitsUnder [] t

/-- All trees in a tree, without what stands around them. -/
def subtrees (t : Tree) : List Tree := t.visits.map (·.tree)

/-- The characters a tree covers in its source. -/
def text (t : Tree) (s : Source) : Text :=
  match s.sliceText t.start t.stop with
  | .ok text => text
  | .error _ => []

end Tree

end Localization.Syntax
