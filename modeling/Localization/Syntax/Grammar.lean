import Localization.Syntax.Pattern

/-!
# The grammar

Modules with markup inside expressions and with type annotations. Two dialects differ in one point:
in a plain typed module `<T>value` is a cast and there is no markup, in all others `<` opens an
element. Precedence among operators is left out, since nothing depends on it: operands and operators
alternate, and every operator closes over what stands before it. Types are read only so far as to
find their ends.
-/

namespace Localization.Syntax

/-- The two dialects of the source language. -/
inductive Dialect where
  | markup
  | typed
  deriving DecidableEq

open Pattern

namespace Grammar

/-! ## Pieces shared by several rules -/

/-- A variable's name. -/
def ident : Pattern := .leaf .identifier .name

/-- A name that is not a variable's. -/
def label : Pattern := .leaf .phrase .anyName

/-- A quoted string; a forgiving reading accepts escapes that are not well formed. -/
def quoted : Pattern := .leaf .string .string ||| .flawed .string .damagedString

/-- An expression on its own. -/
def expr : Pattern := .rule (.expression .plain)

/-- Expressions with commas between them. -/
def exprs : Pattern := .rule (.expressions .plain)

/-- The sign in front of an initial or default value. -/
def equals : Pattern := symUnless "=" "=>"

/-- An initial or default value. -/
def initial (ctx : Context) : Pattern := equals ++ .rule (.expression ctx)

/-- The dots in front of a rest or spread. -/
def dots : Pattern := sym "..."

/-- The dot in front of a member's name. -/
def dot : Pattern := symUnless "." "."

/-- The mark of an optional member or call; in front of a digit the dot belongs to a number. -/
def optionalDot : Pattern := symUnless "?." "0123456789"

/-- An opening angle bracket. -/
def angle : Pattern := symUnless "<" "<="

/-- A member's name after its dot. -/
def memberName : Pattern := label ||| .leaf .phrase .privateName

/-- Words that may stand in front of a member's or parameter's name, if another name follows. -/
def modifiers (words : List String) : Pattern :=
  .many (anyKw words ++
    .notAhead (sym "(" ||| sym ":" ||| sym "," ||| sym "\x7d" ||| sym "=" ||| sym "<" ||| sym ";" |||
      sym "?" ||| sym "!" ||| sym ")"))

/-- The signature of a function after its name. -/
def signature : Pattern :=
  opt (.rule .typeParameters) ++ .rule .parameters ++ opt (.rule .returnType)

/-- A semicolon, or the end of a signature that no body follows. -/
def signatureEnd : Pattern := sym ";" ||| (.notAhead (sym "\x7b") ++ .semicolon false)

/-! ## Statements -/

/-- The start of a function. -/
def functionHead : Pattern := opt (kw "async") ++ kw "function"

/-- Declarations of functions, with and without a body. -/
def functions : Pattern :=
  .node .functionDeclaration (functionHead ++ .mark .name ident ++ .rule .functionTail) |||
  .node .generatorDeclaration
    (functionHead ++ sym "*" ++ .mark .name ident ++ .rule .functionTail) |||
  phrase (functionHead ++ opt (sym "*") ++ .mark .name ident ++ signature ++ signatureEnd)

/-- Declarations of classes, interfaces, types, enumerations, namespaces and other names for them. -/
def typeDeclarations : Pattern :=
  phrase (.many (.rule .decorator) ++ opt (kw "abstract") ++ kw "class" ++ ident ++
    .rule .classTail) |||
  phrase (kw "interface" ++ label ++ opt (.rule .typeParameters) ++
    opt (kw "extends" ++ commas1 (.rule .type)) ++ .ahead (sym "\x7b") ++ .token .bracketed) |||
  phrase (kw "type" ++ label ++ opt (.rule .typeParameters) ++ equals ++ .rule .type ++
    .semicolon false) |||
  phrase (opt (kw "const") ++ kw "enum" ++ ident ++ sym "\x7b" ++
    commas (phrase (.rule .propertyName ++ opt (initial .plain))) ++ sym "\x7d") |||
  phrase ((kw "namespace" ||| kw "module") ++ .sameLine ++
    (quoted ||| (label ++ .many (dot ++ label))) ++ (.rule .block ||| .semicolon false)) |||
  phrase (kw "import" ++ ident ++ equals ++ label ++ .many (dot ++ label) ++ .semicolon false) |||
  phrase (kw "declare" ++ .sameLine ++
    ((kw "global" ++ .rule .block) ||| .rule .declaration))

/-- Declarations. -/
def declaration : Pattern :=
  .node .lexicalDeclaration ((kw "const" ||| kw "let") ++ .notAhead (kw "enum") ++
    .rule (.declarators .plain) ++ .semicolon true) |||
  .node .variableDeclaration (kw "var" ++ .rule (.declarators .plain) ++ .semicolon true) |||
  functions ||| typeDeclarations

/-- The head of a loop over the items of something. -/
def iterationHead : Pattern :=
  ((kw "var" ++ .rule .binding ++ opt (initial ⟨true, false⟩)) |||
    ((kw "const" ||| kw "let") ++ .rule .binding) ||| .rule (.chain ⟨true, false⟩)) ++ (kw "of" ||| kw "in") ++ exprs

/-- The head of a counting loop. -/
def countingHead : Pattern :=
  ((.node .lexicalDeclaration ((kw "const" ||| kw "let") ++ .rule (.declarators ⟨true, false⟩) ++
      sym ";")) |||
    (.node .variableDeclaration (kw "var" ++ .rule (.declarators ⟨true, false⟩) ++ sym ";")) |||
    (opt (.rule (.expressions ⟨true, false⟩)) ++ sym ";")) ++
  opt exprs ++ sym ";" ++ opt exprs

/-- The statements of a case. -/
def caseBody : Pattern :=
  .many (.notAhead (kw "case" ||| kw "default") ++ .guarded true (.rule .statement))

/-- Statements that direct the flow. -/
def control : Pattern :=
  phrase (kw "if" ++ phrase (parens exprs) ++ .rule .statement ++
    opt (kw "else" ++ .rule .statement)) |||
  phrase (kw "return" ++ ((.semicolon false) ||| (exprs ++ .semicolon true))) |||
  phrase (kw "for" ++ opt (kw "await") ++ sym "(" ++ (iterationHead ||| countingHead) ++ sym ")" ++
    .rule .statement) |||
  phrase (kw "while" ++ phrase (parens exprs) ++ .rule .statement) |||
  phrase (kw "do" ++ .rule .statement ++ kw "while" ++ phrase (parens exprs) ++
    opt (.semicolon true)) |||
  phrase (kw "switch" ++ phrase (parens exprs) ++ sym "\x7b" ++
    .many (phrase (((kw "case" ++ exprs) ||| kw "default") ++ sym ":" ++ caseBody)) ++
    sym "\x7d") |||
  phrase (kw "try" ++ .rule .block ++
    opt (kw "catch" ++
      opt (sym "(" ++ .rule .binding ++ opt (.rule .typeNote) ++ sym ")") ++ .rule .block) ++
    opt (kw "finally" ++ .rule .block)) |||
  phrase (kw "throw" ++ exprs ++ .semicolon true) |||
  phrase ((kw "break" ||| kw "continue") ++ opt (.sameLine ++ label) ++ .semicolon false) |||
  phrase (kw "debugger" ++ .semicolon false) |||
  phrase (kw "with" ++ phrase (parens exprs) ++ .rule .statement)

/-- Statements. -/
def statement : Pattern :=
  .rule .block ||| phrase (sym ";") ||| .rule .importStatement ||| .rule .exportStatement |||
  .rule .declaration ||| control |||
  phrase (label ++ symUnless ":" ":" ++ .rule .statement) |||
  .node .expressionStatement (exprs ++ .semicolon true)

/-! ## Imports and exports -/

/-- A module's name after `from`. -/
def fromModule : Pattern := kw "from" ++ quoted

/-- One imported name, perhaps under another name. -/
def importSpecifier : Pattern :=
  .node .importSpecifier
    ((opt (anyKw ["type", "typeof"] ++ .notAhead (sym "," ||| sym "\x7d" ||| kw "as")) ++
      .mark .name (.leaf .identifier .anyName ||| quoted) ++ kw "as" ++
      .mark .alias (.leaf .identifier .anyName)) |||
    (opt (anyKw ["type", "typeof"] ++ .notAhead (sym "," ||| sym "\x7d")) ++
      .mark .name (.leaf .identifier .anyName)))

/-- What a module's names are bound to. -/
def importClause : Pattern :=
  let names := .node .namespaceImport (sym "*" ++ kw "as" ++ ident) |||
    phrase (sym "\x7b" ++ commas importSpecifier ++ sym "\x7d")
  .node .importClause (names ||| (ident ++ opt (sym "," ++ names)))

/-- Attributes of an import. -/
def importAttributes : Pattern := opt ((kw "with" ||| kw "assert") ++ .sameLine ++ .rule .object)

/-- Import statements. -/
def importStatement : Pattern :=
  .node .importStatement (kw "import" ++ .notAhead (sym "(" ||| sym ".") ++
    (quoted ||| (anyKw ["type", "typeof"] ++ importClause ++ fromModule) |||
      (importClause ++ fromModule) |||
      phrase (opt (kw "type") ++ ident ++ equals ++ kw "require" ++ sym "(" ++ quoted ++ sym ")")) ++
    importAttributes ++ .semicolon false)

/-- One exported name, perhaps under another name. -/
def exportSpecifier : Pattern :=
  let exported := .leaf .identifier .anyName ||| quoted
  phrase (opt (kw "type" ++ .notAhead (sym "," ||| sym "\x7d" ||| kw "as")) ++ exported ++
    opt (kw "as" ++ exported))

/-- Export statements. -/
def exportStatement : Pattern :=
  .node .exportStatement (.many (.rule .decorator) ++ kw "export" ++
    ((kw "default" ++ (.mark .declaration (.rule .declaration) ||| (expr ++ .semicolon true))) |||
      .mark .declaration (.rule .declaration) |||
      (opt (kw "type") ++ sym "*" ++ opt (kw "as" ++ (.leaf .identifier .anyName ||| quoted)) ++
        fromModule ++ importAttributes ++ .semicolon false) |||
      (opt (kw "type") ++ phrase (sym "\x7b" ++ commas exportSpecifier ++ sym "\x7d") ++
        opt (fromModule ++ importAttributes) ++ .semicolon false) |||
      (equals ++ expr ++ .semicolon true) |||
      (kw "as" ++ kw "namespace" ++ ident ++ .semicolon false)))

/-! ## Bindings -/

/-- One member of an object pattern. -/
def bindingMember : Pattern :=
  phrase (dots ++ .rule .binding) |||
  phrase (.rule .propertyName ++ sym ":" ++ .rule .bindingElement) |||
  .scope (.leaf .shorthandBinding .name ++ opt (.fold .phrase none (initial .plain)))

/-- Names and patterns that values are bound to. -/
def binding : Pattern :=
  ident ||| phrase (sym "\x7b" ++ commas bindingMember ++ sym "\x7d") |||
  phrase (sym "[" ++ opt (.rule .bindingElement) ++ .many (sym "," ++ opt (.rule .bindingElement)) ++
    sym "]")

/-- An item of a pattern, with its default. -/
def bindingElement : Pattern :=
  phrase (dots ++ .rule .binding) |||
  .scope (.rule .binding ++ opt (.fold .phrase none (initial .plain)))

/-- The variables of a declaration. -/
def declarators (ctx : Context) : Pattern :=
  let declarator := .node .declarator (.mark .name (.rule .binding) ++ opt (sym "!") ++
    opt (.rule .typeNote) ++ opt (initial ctx))
  declarator ++ .many (sym "," ++ declarator)

/-- One parameter. -/
def parameter : Pattern :=
  phrase (.many (.rule .decorator) ++
    modifiers ["public", "private", "protected", "override", "readonly"] ++
    (phrase (dots ++ .rule .binding) ||| .rule .binding ||| kw "this") ++ opt (sym "?") ++
    opt (.rule .typeNote) ++ opt (initial .plain))

/-! ## Expressions -/

/-- An operator and the operand after it. -/
def operation (ctx : Context) : Pattern :=
  let operand := .rule (.operand ctx)
  let condition := sym "?" ++
    ((.rule (.expression ⟨false, false⟩) ++ sym ":") |||
      (.rule (.expression ⟨false, true⟩) ++ sym ":")) ++ .rule (.expression ctx)
  .fold .phrase none (.token .operator ++ operand) |||
  .fold .phrase none (kw "instanceof" ++ operand) |||
  (if ctx.noIn then .notAhead .empty else .fold .phrase none (kw "in" ++ operand)) |||
  .fold .phrase none (.sameLine ++ (kw "as" ||| kw "satisfies") ++ (kw "const" ||| .rule .type)) |||
  .fold .phrase none condition

/-- Expressions. -/
def expression (ctx : Context) : Pattern :=
  .scope (.rule (.operand ctx) ++ .many (operation ctx))

/-- Expressions with commas between them. -/
def expressions (ctx : Context) : Pattern :=
  let one := .rule (.expression ctx)
  .scope (one ++ .many (.fold .phrase none (sym "," ++ one)))

/-- Operands with the signs in front of them. -/
def operand (dialect : Dialect) (ctx : Context) : Pattern :=
  let next := .rule (.operand ctx)
  let signs := sym "++" ||| sym "--" ||| sym "!" ||| sym "~" ||| sym "+" ||| sym "-" |||
    anyKw ["typeof", "void", "delete", "await"]
  phrase (signs ++ next) |||
  phrase (kw "yield" ++ opt (sym "*") ++ opt (.sameLine ++ .rule (.expression ctx))) |||
  .rule (.arrow ctx) |||
  (match dialect with
    | .typed => phrase (angle ++ .rule .type ++ sym ">" ++ next)
    | .markup => .notAhead .empty) |||
  .rule (.chain ctx)

/-- Arrow functions. -/
def arrow (ctx : Context) : Pattern :=
  let result := if ctx.noReturnType then Pattern.empty else opt (.rule .returnType)
  let head := ident ||| (opt (.rule .typeParameters) ++ .rule .parameters ++ result)
  phrase (((kw "async" ++ .sameLine ++ head) ||| head) ++ sym "=>" ++
    (.rule .block ||| (.notAhead (sym "\x7b") ++ .rule (.expression ctx))))

/-- A member of what stands before. -/
def member : Pattern :=
  .fold .phrase none ((dot ||| optionalDot) ++ memberName) |||
  .fold .phrase none (opt optionalDot ++ sym "[" ++ exprs ++ sym "]")

/-- What follows type arguments that are not those of a call. -/
def instantiationEnd : Pattern :=
  .endOfText ||| sym ";" ||| sym "," ||| sym ")" ||| sym "]" ||| sym "\x7d" ||| sym ":"

/-- What may follow an operand: members, calls, type arguments, assertions and steps. -/
def link : Pattern :=
  member |||
  .fold .call (some .function)
    (opt optionalDot ++ opt (.rule .typeArguments) ++ .mark .arguments (.rule .arguments)) |||
  .fold .call (some .function)
    (opt (.rule .typeArguments) ++ .mark .arguments (.rule .template)) |||
  .fold .phrase none (.rule .typeArguments ++ .ahead instantiationEnd) |||
  .fold .phrase none (.sameLine ++ symUnless "!" "=") |||
  .fold .phrase none (.sameLine ++ (sym "++" ||| sym "--"))

/-- Operands with their members and calls. -/
def chain (ctx : Context) : Pattern := .scope (.rule (.primary ctx) ++ .many link)

/-- Words that are operands by themselves. -/
def constants : Pattern :=
  ["this", "super", "null", "true", "false", "undefined", "import"].foldr
    (fun w p => .leaf .phrase (.word w.toList) ||| p) (.notAhead .empty)

/-- Operands. -/
def primary (dialect : Dialect) : Pattern :=
  quoted ||| .rule .template ||| .leaf .phrase .number |||
  phrase (parens (exprs ++ opt (.rule .typeNote))) ||| .rule .array ||| .rule .object |||
  phrase (functionHead ++ opt (sym "*") ++ opt ident ++ .rule .functionTail) |||
  phrase (.many (.rule .decorator) ++ kw "class" ++ opt (.notAhead (kw "implements") ++ ident) ++
    .rule .classTail) |||
  .rule .construction |||
  (match dialect with
    | .markup => .rule .element
    | .typed => .notAhead .empty) |||
  .leaf .phrase .regex ||| constants ||| ident

/-- Constructions of objects. -/
def construction (dialect : Dialect) : Pattern :=
  phrase (kw "new" ++
    ((dot ++ label) |||
      (.scope ((.rule .construction ||| primary dialect) ++ .many member) ++
        opt (.rule .typeArguments) ++ opt (.rule .arguments))))

/-- An item of an argument list or array. -/
def item : Pattern := phrase (dots ++ expr) ||| expr

/-- Items with commas between them, some of which may be left out. -/
def items : Pattern := opt item ++ .many (sym "," ++ opt item)

/-- Templates with substitutions of some sort. -/
def templateOf (substitution : Pattern) : Pattern :=
  phrase (sym "`" ++
    .many (.token .templateText ||| phrase (sym "$\x7b" ++ substitution ++ sym "\x7d")) ++ sym "`")

/-- One member of an object. -/
def objectMember : Pattern :=
  phrase (dots ++ expr) |||
  phrase (.rule .propertyName ++ sym ":" ++ expr) |||
  phrase (modifiers ["async", "get", "set", "static", "readonly", "override"] ++ opt (sym "*") ++
    .rule .propertyName ++ opt (sym "?") ++ .rule .functionTail) |||
  .scope (.leaf .phrase .name ++ opt (.fold .phrase none (initial .plain)))

/-- Names of members. -/
def propertyName : Pattern :=
  label ||| .leaf .phrase .privateName ||| quoted ||| .leaf .phrase .number |||
  phrase (sym "[" ++ expr ++ sym "]")

/-! ## Classes -/

/-- What follows a class's name. -/
def classTail : Pattern :=
  opt (.rule .typeParameters) ++
  opt (kw "extends" ++ commas1 (.rule (.chain .plain) ++ opt (.rule .typeArguments))) ++
  opt (kw "implements" ++ commas1 (.rule .type)) ++
  sym "\x7b" ++ .many (.rule .classMember) ++ sym "\x7d"

/-- One member of a class. -/
def classMember : Pattern :=
  sym ";" ||| .rule .decorator ||| phrase (kw "static" ++ .rule .block) |||
  phrase (modifiers ["static", "readonly"] ++ sym "[" ++ label ++ .rule .typeNote ++ sym "]" ++
    .rule .typeNote ++ .semicolon false) |||
  phrase (modifiers ["public", "private", "protected", "static", "override", "readonly", "abstract",
      "declare", "accessor", "async", "get", "set"] ++ opt (sym "*") ++ .rule .propertyName ++
    opt (sym "?" ||| sym "!") ++
    ((signature ++ (.rule .block ||| signatureEnd)) |||
      (opt (.rule .typeNote) ++ opt (initial .plain) ++ (sym "," ||| .semicolon true))))

/-! ## Markup -/

/-- A tag's name: plain, with hyphens, with a namespace, or a path of members. -/
def tagName : Pattern :=
  let part := .leaf .identifier .hyphenatedName ||| .leaf .identifier .anyName
  phrase (part ++ sym ":" ++ part) |||
  .scope (part ++ .many (.fold .phrase none (dot ++ part)))

/-- Elements: `<` with a name and attributes, then either `/>` or content and a closing tag. -/
def element : Pattern :=
  .scope (sym "<" ++
    opt (.mark .name tagName ++ opt (.rule .typeArguments) ++ .many (.rule .markupAttribute)) ++
    (.fold .selfClosingElement none (sym "/>") |||
      (.fold .openTag none (sym ">") ++
        .fold .element (some .openTag)
          (.many (.rule .elementChild) ++
            .mark .closeTag (.node .closeTag
              (sym "</" ++ opt (.mark .name tagName) ++ sym ">"))))))

/-- What may stand between tags. -/
def elementChild : Pattern :=
  .leaf .markupText .markupText ||| .leaf .characterReference .characterReference |||
  (.notAhead (sym "</") ++ .rule .element) ||| .rule .container ||| .damaged .strayMarkup

/-- Attributes, and objects spread into them. -/
def markupAttribute : Pattern :=
  let part := .leaf .phrase .hyphenatedName ||| label
  let name := phrase (part ++ sym ":" ++ part) ||| part
  .rule .container |||
  .node .markupAttribute (name ++ opt (sym "=" ++
    (.leaf .string .markupString ||| .flawed .string .damagedMarkupString ||| .rule .container |||
      .rule .element)))

/-- Expressions in braces. -/
def container : Pattern :=
  .node .container (sym "\x7b" ++ opt (phrase (dots ++ expr) ||| exprs) ++ sym "\x7d")

/-! ## Types -/

/-- What a function returns: a type, or what it asserts of a parameter. -/
def returned : Pattern :=
  opt (kw "asserts" ++ .ahead label) ++ ((label ++ .sameLine ++ kw "is" ++ .rule .type) ||| .rule .type)

/-- Types. -/
def type : Pattern :=
  let joint := symUnless "|" "|=" ||| symUnless "&" "&="
  phrase (opt joint ++ .rule .typeOperand ++ .many (joint ++ .rule .typeOperand) ++
    opt (.sameLine ++ kw "extends" ++ .rule .type ++ sym "?" ++ .rule .type ++ sym ":" ++
      .rule .type))

/-- Types without operators between them. -/
def typeOperand : Pattern :=
  let path := label ++ .many (dot ++ memberName)
  let base :=
    phrase (opt (kw "abstract") ++ opt (kw "new") ++ opt (.rule .typeParameters) ++
      .ahead (sym "(") ++ .token .bracketed ++ sym "=>" ++ returned) |||
    .leaf .phrase .bracketed ||| .leaf .phrase .string ||| .leaf .phrase .number |||
    phrase (sym "-" ++ .leaf .phrase .number) ||| templateOf (.rule .type) |||
    phrase (kw "import" ++ .ahead (sym "(") ++ .token .bracketed ++ .many (dot ++ memberName) ++
      opt (.rule .typeArguments)) |||
    phrase (path ++ opt (.rule .typeArguments))
  .many (anyKw ["keyof", "unique", "readonly", "infer", "typeof"] ++
    .notAhead (sym "," ||| sym ">" ||| sym ")" ||| sym ";" ||| sym "=" ||| sym "|" ||| sym "&")) ++
  base ++ .many (.sameLine ++ sym "[" ++ opt (.rule .type) ++ sym "]")

/-- The parameters of a generic declaration. -/
def typeParameters : Pattern :=
  phrase (angle ++
    commas1 (phrase (.many (anyKw ["const", "in", "out"] ++ .ahead label) ++ label ++
      opt (kw "extends" ++ .rule .type) ++ opt (sym "=" ++ .rule .type))) ++ sym ">")

end Grammar

open Grammar in
/-- The pattern of every rule in a dialect. -/
def grammar (dialect : Dialect) : Rule → Pattern
  | .program => .many (.guarded false (.rule .statement)) ++ .endOfText
  | .statement => statement
  | .block =>
    .node .block (sym "\x7b" ++ .rule .statements ++ (sym "\x7d" ||| .damaged .missingBrace))
  | .statements => .many (.guarded true (.rule .statement))
  | .declaration => declaration
  | .declarators ctx => declarators ctx
  | .binding => binding
  | .bindingElement => bindingElement
  | .expression ctx => expression ctx
  | .expressions ctx => expressions ctx
  | .operand ctx => operand dialect ctx
  | .chain ctx => chain ctx
  | .primary _ => primary dialect
  | .arrow ctx => arrow ctx
  | .construction => construction dialect
  | .arguments => phrase (parens items)
  | .template => templateOf exprs
  | .object => phrase (sym "\x7b" ++ commas objectMember ++ sym "\x7d")
  | .array => phrase (sym "[" ++ items ++ sym "]")
  | .functionTail => signature ++ .rule .block
  | .parameters => phrase (sym "(" ++ commas parameter ++ sym ")")
  | .parameter => parameter
  | .propertyName => propertyName
  | .classTail => classTail
  | .classMember => classMember
  | .decorator => phrase (sym "@" ++ .rule (.chain .plain))
  | .element => element
  | .elementChild => elementChild
  | .markupAttribute => markupAttribute
  | .container => container
  | .type => type
  | .typeOperand => typeOperand
  | .typeArguments => phrase (angle ++ commas1 (.rule .type) ++ sym ">")
  | .typeParameters => typeParameters
  | .typeNote => phrase (sym ":" ++ .rule .type)
  | .returnType => phrase (sym ":" ++ returned)
  | .importStatement => importStatement
  | .exportStatement => exportStatement

end Localization.Syntax
