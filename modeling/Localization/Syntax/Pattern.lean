import Localization.Syntax.Lexeme
import Localization.Syntax.Tree

/-!
# Patterns

A grammar is data: every rule is a pattern, and patterns are lexemes put together by sequence,
ordered choice, repetition and lookahead. A pattern also says which nodes its reading builds. The
choice is ordered and never taken back once it succeeded, so a pattern reads a text in one way.
-/

namespace Localization.Syntax

/-- Where an expression stands: inside the head of a loop `in` is no operator, and between the mark
and the colon of a condition an arrow function is first taken without a return type. -/
structure Context where
  noIn : Bool
  noReturnType : Bool
  deriving DecidableEq

/-- An expression on its own. -/
def Context.plain : Context := ⟨false, false⟩

/-- The rules of the grammar. -/
inductive Rule where
  | program
  | statement
  | block
  | statements
  | declaration
  | declarators (ctx : Context)
  | binding
  | bindingElement
  | expression (ctx : Context)
  | expressions (ctx : Context)
  | operand (ctx : Context)
  | chain (ctx : Context)
  | primary (ctx : Context)
  | arrow (ctx : Context)
  | construction
  | arguments
  | template
  | object
  | array
  | functionTail
  | parameters
  | parameter
  | propertyName
  | classTail
  | classMember
  | decorator
  | element
  | elementChild
  | markupAttribute
  | container
  | type
  | typeOperand
  | typeArguments
  | typeParameters
  | typeNote
  | returnType
  | importStatement
  | exportStatement
  deriving DecidableEq

/-- Damage that a forgiving reading puts up with. -/
inductive Damage where
  /-- A closing parenthesis that is not there. -/
  | missingParenthesis
  /-- A closing brace that is not there, at the end of the text. -/
  | missingBrace
  /-- Characters that may not stand between tags. -/
  | strayMarkup
  deriving DecidableEq

/-- A pattern of lexemes, and the nodes its reading builds. -/
inductive Pattern where
  /-- Nothing. -/
  | empty
  /-- A lexeme as a node without a name. -/
  | token (lexeme : Lexeme)
  /-- A lexeme as a node of a kind. -/
  | leaf (kind : Kind) (lexeme : Lexeme)
  /-- One after the other. -/
  | seq (first second : Pattern)
  /-- The second only if the first cannot be read. -/
  | alt (first second : Pattern)
  /-- As often as it can be read. -/
  | many (item : Pattern)
  /-- Could be read here; nothing is taken. -/
  | ahead (item : Pattern)
  /-- Could not be read here; nothing is taken. -/
  | notAhead (item : Pattern)
  /-- What is read becomes a node of a kind. -/
  | node (kind : Kind) (item : Pattern)
  /-- What was read so far in the innermost scope plays a part in a node that ends with `item`. -/
  | fold (kind : Kind) (role : Option Role) (item : Pattern)
  /-- The scope that `fold` reaches back to. -/
  | scope (item : Pattern)
  /-- The last node read plays a part. -/
  | mark (role : Role) (item : Pattern)
  /-- A rule by its name. -/
  | rule (rule : Rule)
  /-- No line ended since the last lexeme. -/
  | sameLine
  /-- A semicolon, written or implied; `afterExpression` says whether an operator could follow. -/
  | semicolon (afterExpression : Bool)
  /-- The end of the text. -/
  | endOfText
  /-- A statement of a list, or the region that has to be skipped to find the next one; inside
  braces a region ends at a closing brace. -/
  | guarded (inBraces : Bool) (item : Pattern)
  /-- Damage that only a forgiving reading accepts. -/
  | damaged (damage : Damage)
  /-- A lexeme that only a forgiving reading accepts, with an unreadable part inside. -/
  | flawed (kind : Kind) (lexeme : Lexeme)

namespace Pattern

instance : Append Pattern := ⟨.seq⟩

instance : OrOp Pattern := ⟨.alt⟩

/-- Punctuation. -/
def sym (s : String) : Pattern := .token (.symbol s.toList [])

/-- Punctuation that is not part of a longer one. -/
def symUnless (s stops : String) : Pattern := .token (.symbol s.toList stops.toList)

/-- A keyword. -/
def kw (s : String) : Pattern := .token (.word s.toList)

/-- One of several keywords. -/
def anyKw (words : List String) : Pattern :=
  words.foldr (fun w p => kw w ||| p) (.notAhead .empty)

/-- Once or not at all. -/
def opt (p : Pattern) : Pattern := p ||| .empty

/-- Items with commas between them, at least one; a comma may follow the last. -/
def commas1 (p : Pattern) : Pattern := p ++ .many (sym "," ++ p) ++ opt (sym ",")

/-- Items with commas between them; a comma may follow the last. -/
def commas (p : Pattern) : Pattern := opt (commas1 p)

/-- Between parentheses; a forgiving reading supplies the closing one. -/
def parens (p : Pattern) : Pattern :=
  sym "(" ++ p ++ (sym ")" ||| .damaged .missingParenthesis)

/-- A named construct of no particular kind. -/
def phrase (p : Pattern) : Pattern := .node .phrase p

end Pattern

end Localization.Syntax
