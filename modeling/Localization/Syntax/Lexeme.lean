/-!
# Lexemes

The words of the source language: what a name, a number, a string, a comment or an operator looks
like. Every recogniser takes the text at a place and says how many characters of it belong to the
lexeme. Strings in markup attributes and the text between tags have rules of their own, as have the
pieces of templates.
-/

namespace Localization.Syntax

/-! ## Characters -/

/-- Blank characters between lexemes. -/
def isSpace (c : Char) : Bool :=
  let n := c.toNat
  n == 0x20 || (0x09 ≤ n && n ≤ 0x0D) || n == 0xA0 || n == 0x1680 || (0x2000 ≤ n && n ≤ 0x200B) ||
    n == 0x2028 || n == 0x2029 || n == 0x202F || n == 0x205F || n == 0x2060 || n == 0x3000 ||
    n == 0xFEFF

/-- Characters that end a line. -/
def isLineEnd (c : Char) : Bool := c == '\n' || c == '\r' || c == '\u2028' || c == '\u2029'

/-- Punctuation that no name holds. -/
def isPunctuation (c : Char) : Bool :=
  ":;`\"'@#.,|^&<=>+-*/\\%?!~()[]\x7b\x7d".toList.contains c

/-- Characters that a name may hold. -/
def isNameChar (c : Char) : Bool := !(c.toNat < 0x20 || isSpace c || isPunctuation c)

/-- Hexadecimal digits. -/
def isHex (c : Char) : Bool := c.isDigit || ('a' ≤ c && c ≤ 'f') || ('A' ≤ c && c ≤ 'F')

/-! ## Recognisers -/

/-- The length of the longest beginning whose characters satisfy `p`. -/
def runLength (p : Char → Bool) (cs : List Char) : Nat := (cs.takeWhile p).length

/-- Whether a text starts with a word. -/
def hasLead : (lead text : List Char) → Bool
  | [], _ => true
  | _ :: _, [] => false
  | a :: as, b :: bs => a == b && hasLead as bs

/-- The length of a Unicode escape of a name. -/
def nameEscape? : List Char → Option Nat
  | '\\' :: 'u' :: '{' :: cs =>
    let n := runLength isHex cs
    if n > 0 && (cs.drop n).head? == some '}' then some (n + 4) else none
  | '\\' :: 'u' :: cs => if (cs.take 4).length == 4 && (cs.take 4).all isHex then some 6 else none
  | _ => none

/-- The length of the rest of a name; the first `skip` characters belong to it already. -/
def nameRest : (skip : Nat) → List Char → Nat
  | _, [] => 0
  | skip + 1, _ :: cs => 1 + nameRest skip cs
  | 0, c :: cs =>
    if isNameChar c then 1 + nameRest 0 cs
    else
      match nameEscape? (c :: cs) with
      | some n => 1 + nameRest (n - 1) cs
      | none => 0

/-- The length of a name. -/
def name? (cs : List Char) : Option Nat :=
  match cs with
  | [] => none
  | c :: rest =>
    if isNameChar c && !c.isDigit then some (1 + nameRest 0 rest)
    else (nameEscape? cs).map fun n => 1 + nameRest (n - 1) rest

/-- The length of digits of a class that single underscores may separate. -/
def digitRun (p : Char → Bool) : List Char → Nat
  | [] => 0
  | [c] => if p c then 1 else 0
  | c :: d :: cs =>
    if p c then
      if p d then 1 + digitRun p (d :: cs)
      else if d == '_' && (cs.head?.any p) then 2 + digitRun p cs
      else 1
    else 0

/-- The length of an exponent. -/
def exponentLength : List Char → Nat
  | e :: cs =>
    if e == 'e' || e == 'E' then
      let sign := match cs with
        | '+' :: _ | '-' :: _ => 1
        | _ => 0
      let ds := digitRun Char.isDigit (cs.drop sign)
      if ds == 0 then 0 else 1 + sign + ds
    else 0
  | [] => 0

/-- The length of a number. -/
def number? (cs : List Char) : Option Nat :=
  let based (p : Char → Bool) : Option Nat :=
    let ds := digitRun p (cs.drop 2)
    if ds == 0 then some 1
    else some (2 + ds + (if (cs.drop (2 + ds)).head? == some 'n' then 1 else 0))
  match cs with
  | '0' :: 'x' :: _ | '0' :: 'X' :: _ => based isHex
  | '0' :: 'b' :: _ | '0' :: 'B' :: _ => based fun c => c == '0' || c == '1'
  | '0' :: 'o' :: _ | '0' :: 'O' :: _ => based fun c => '0' ≤ c && c ≤ '7'
  | '.' :: rest =>
    let ds := digitRun Char.isDigit rest
    if ds == 0 then none else some (1 + ds + exponentLength (rest.drop ds))
  | _ =>
    let ds := digitRun Char.isDigit cs
    if ds == 0 then none
    else
      match cs.drop ds with
      | 'n' :: _ => some (ds + 1)
      | '.' :: rest =>
        let part := digitRun Char.isDigit rest
        some (ds + 1 + part + exponentLength (rest.drop part))
      | rest => some (ds + exponentLength rest)

/-- The length of an escape in a string, its backslash included. -/
def stringEscape? : List Char → Option Nat
  | '\\' :: 'x' :: cs => if (cs.take 2).length == 2 && (cs.take 2).all isHex then some 4 else none
  | '\\' :: 'u' :: '{' :: cs => nameEscape? ('\\' :: 'u' :: '{' :: cs)
  | '\\' :: 'u' :: cs => nameEscape? ('\\' :: 'u' :: cs)
  | '\\' :: '\r' :: '\n' :: _ => some 3
  | '\\' :: _ :: _ => some 2
  | _ => none

/-- The length of a string's body and closing quote; the first `skip` characters belong to an
escape. -/
def stringRest (quote : Char) : (skip : Nat) → List Char → Option Nat
  | _, [] => none
  | skip + 1, _ :: cs => (stringRest quote skip cs).map (1 + ·)
  | 0, c :: cs =>
    if c == quote then some 1
    else if c == '\n' || c == '\r' then none
    else if c == '\\' then
      match stringEscape? (c :: cs) with
      | some n => (stringRest quote (n - 1) cs).map (1 + ·)
      | none => none
    else (stringRest quote 0 cs).map (1 + ·)

/-- The length of a string in single or double quotes. -/
def string? : List Char → Option Nat
  | '"' :: cs => (stringRest '"' 0 cs).map (1 + ·)
  | '\'' :: cs => (stringRest '\'' 0 cs).map (1 + ·)
  | _ => none

/-- The length of a quoted string whose escapes are not all well formed. -/
def damagedString? : List Char → Option Nat
  | '"' :: cs => close '"' 0 cs
  | '\'' :: cs => close '\'' 0 cs
  | _ => none
where
  /-- The length up to the closing quote, an escaped character counting as part of the body. -/
  close (quote : Char) (skip : Nat) : List Char → Option Nat
    | [] => none
    | c :: cs =>
      if skip > 0 then (close quote (skip - 1) cs).map (1 + ·)
      else if c == quote then some 2
      else if c == '\n' || c == '\r' then none
      else (close quote (if c == '\\' then 1 else 0) cs).map (1 + ·)

/-- The length of a character reference, its ampersand and semicolon included. -/
def characterReference? (cs : List Char) : Option Nat :=
  let closed (n low high : Nat) (digits : Nat) : Option Nat :=
    if low ≤ digits && digits ≤ high && (cs.drop (n + digits)).head? == some ';' then
      some (n + digits + 1)
    else none
  match cs with
  | '&' :: '#' :: 'x' :: rest | '&' :: '#' :: 'X' :: rest => closed 3 1 6 (runLength isHex rest)
  | '&' :: '#' :: rest => closed 2 1 5 (runLength Char.isDigit rest)
  | '&' :: rest => closed 1 1 30 (runLength Char.isAlpha rest)
  | _ => none

/-- The length of the body and closing quote of an attribute's string: it may run over lines and
has no escapes, and an ampersand in front of a letter or `#` must start a reference. -/
def markupStringRest (quote : Char) : (skip : Nat) → List Char → Option Nat
  | _, [] => none
  | skip + 1, _ :: cs => (markupStringRest quote skip cs).map (1 + ·)
  | 0, c :: cs =>
    if c == quote then some 1
    else if c == '&' && (cs.head?.any fun d => d == '#' || d.isAlpha) then
      match characterReference? (c :: cs) with
      | some n => (markupStringRest quote (n - 1) cs).map (1 + ·)
      | none => none
    else (markupStringRest quote 0 cs).map (1 + ·)

/-- The length of an attribute's string. -/
def markupString? : List Char → Option Nat
  | '"' :: cs => (markupStringRest '"' 0 cs).map (1 + ·)
  | '\'' :: cs => (markupStringRest '\'' 0 cs).map (1 + ·)
  | _ => none

/-- The length of an attribute's string whose references are not all well formed. -/
def damagedMarkupString? : List Char → Option Nat
  | '"' :: cs => if '"' ∈ cs then some (runLength (· ≠ '"') cs + 2) else none
  | '\'' :: cs => if '\'' ∈ cs then some (runLength (· ≠ '\'') cs + 2) else none
  | _ => none

/-- The length of the text between tags: up to a tag, a brace or a reference, if it is more than a
line end with blanks behind it. -/
def markupText? (cs : List Char) : Option Nat :=
  let run := cs.takeWhile fun c =>
    !(c == '<' || c == '>' || c == '{' || c == '}' || c == '&' || c.toNat == 0)
  if shows false run then some run.length else none
where
  /-- Whether a run shows anything; `fresh` after a line end and blanks. -/
  shows (fresh : Bool) : List Char → Bool
    | [] => false
    | '\n' :: cs => shows true cs
    | c :: cs => if fresh && isSpace c then shows true cs else true

/-- The length of the text of a template up to a substitution or its end. -/
def templateText? (cs : List Char) : Option Nat :=
  let n := body 0 cs
  if n == 0 then none else some n
where
  /-- The length of the template's text; the first `skip` characters are escaped. -/
  body (skip : Nat) : List Char → Nat
    | [] => 0
    | c :: cs =>
      if skip > 0 then 1 + body (skip - 1) cs
      else if c == '`' then 0
      else if c == '$' && cs.head? == some '{' then 0
      else 1 + body (if c == '\\' then 1 else 0) cs

/-- The length of a regular expression with its slashes and flags. -/
def regex? : List Char → Option Nat
  | '/' :: cs =>
    if cs.head? == some '*' || cs.head? == some '/' then none
    else
      (body false 0 cs).map fun n =>
        n + 1 + runLength (fun c => 'a' ≤ c && c ≤ 'z') (cs.drop n)
  | _ => none
where
  /-- The length of the body and closing slash; in a class a slash stands for itself. -/
  body (inClass : Bool) (skip : Nat) : List Char → Option Nat
    | [] => none
    | c :: cs =>
      if c == '\n' || c == '\r' then none
      else if skip > 0 then (body inClass (skip - 1) cs).map (1 + ·)
      else if c == '\\' then (body inClass 1 cs).map (1 + ·)
      else if inClass then (body (c != ']') 0 cs).map (1 + ·)
      else if c == '[' then (body true 0 cs).map (1 + ·)
      else if c == '/' then some 1
      else (body false 0 cs).map (1 + ·)

/-- The length of a comment. -/
def comment? : List Char → Option Nat
  | '/' :: '/' :: cs => some (2 + runLength (fun c => !isLineEnd c) cs)
  | '/' :: '*' :: cs => (closing cs).map (2 + ·)
  | _ => none
where
  /-- The length up to the end of a block comment. -/
  closing : List Char → Option Nat
    | '*' :: '/' :: _ => some 2
    | _ :: cs => (closing cs).map (1 + ·)
    | [] => none

/-- The length of a name with hyphens, as tags and attributes may have. -/
def hyphenatedName? (cs : List Char) : Option Nat :=
  let inner (c : Char) : Bool := c.isAlphanum || c == '_' || c == '$'
  let n := runLength inner cs
  if n > 0 && !(cs.head?.any Char.isDigit) && (cs.drop n).head? == some '-' then
    some (n + runLength (fun c => inner c || c == '-') (cs.drop n))
  else none

/-- The operators that stand between two operands, longer ones before their beginnings. -/
def operators : List (List Char) :=
  [">>>=", "===", "!==", "**=", "<<=", ">>=", ">>>", "&&=", "||=", "??=", "==", "!=", "<=", ">=",
    "&&", "||", "??", "**", "<<", ">>", "+=", "-=", "*=", "/=", "%=", "&=", "|=", "^=", "+", "-",
    "*", "/", "%", "&", "|", "^", "<", ">", "="].map String.toList

/-- The length of an operator between two operands; an arrow is none. -/
def operator? (cs : List Char) : Option Nat :=
  if hasLead ['=', '>'] cs then none
  else (operators.find? fun op => hasLead op cs).map List.length

/-- Words that are never names of variables. -/
def reserved : List (List Char) :=
  ["break", "case", "catch", "class", "const", "continue", "debugger", "default", "delete", "do",
    "else", "enum", "export", "extends", "false", "finally", "for", "function", "if", "import",
    "in", "instanceof", "new", "null", "return", "super", "switch", "this", "throw", "true", "try",
    "typeof", "undefined", "var", "void", "while", "with"].map String.toList

/-- The length of a bracketed stretch, its brackets included. Strings, templates and comments
count as they are; `stack` holds the closing brackets that are due and the fuel bounds the steps. -/
def bracketed : Nat → (stack : List Char) → List Char → Option Nat
  | 0, _, _ => none
  | fuel + 1, stack, cs =>
    match cs with
    | [] => none
    | c :: rest =>
      let skip? := (string? cs).orElse fun _ => comment? cs
      match skip? with
      | some n => (bracketed fuel stack (cs.drop n)).map (n + ·)
      | none =>
        let push (d : Char) := (bracketed fuel (d :: stack) rest).map (1 + ·)
        match c with
        | '(' => push ')'
        | '[' => push ']'
        | '{' => push '}'
        | '`' =>
          match templateText? rest with
          | some n =>
            if (rest.drop n).head? == some '`' then
              (bracketed fuel stack (rest.drop (n + 1))).map (n + 2 + ·)
            else (bracketed fuel stack rest).map (1 + ·)
          | none => (bracketed fuel stack rest).map (1 + ·)
        | _ =>
          if c == ')' || c == ']' || c == '}' then
            match stack with
            | [d] => if c == d then some 1 else none
            | d :: below => if c == d then (bracketed fuel below rest).map (1 + ·) else none
            | [] => none
          else (bracketed fuel stack rest).map (1 + ·)

/-! ## Lexemes -/

/-- The lexemes a grammar speaks of. -/
inductive Lexeme where
  /-- The given characters, not followed by any of `stops`. -/
  | symbol (chars stops : List Char)
  /-- The given word, not as part of a longer name. -/
  | word (chars : List Char)
  /-- Any name, reserved or not. -/
  | anyName
  /-- A name that is not reserved. -/
  | name
  | privateName
  | number
  | string
  | damagedString
  | markupString
  | damagedMarkupString
  | regex
  | operator
  | hyphenatedName
  | characterReference
  | markupText
  | templateText
  /-- A stretch from an opening bracket to the closing one. -/
  | bracketed
  deriving DecidableEq

/-- Lexemes that are read where the last one ended, blanks and comments being part of them. -/
def Lexeme.isRaw : Lexeme → Bool
  | .markupText | .templateText => true
  | _ => false

/-- How many characters of a text belong to a lexeme at its start. -/
def Lexeme.length? (l : Lexeme) (cs : List Char) : Option Nat :=
  match l with
  | .symbol chars stops =>
    if hasLead chars cs && !((cs.drop chars.length).head?.any stops.contains) then
      some chars.length
    else none
  | .word chars =>
    if hasLead chars cs && nameRest 0 (cs.drop chars.length) == 0 then some chars.length else none
  | .anyName => name? cs
  | .name =>
    match name? cs with
    | some n => if reserved.contains (cs.take n) then none else some n
    | none => none
  | .privateName =>
    match cs with
    | '#' :: rest => (name? rest).map (1 + ·)
    | _ => none
  | .number => number? cs
  | .string => string? cs
  | .damagedString => damagedString? cs
  | .markupString => markupString? cs
  | .damagedMarkupString => damagedMarkupString? cs
  | .regex => regex? cs
  | .operator => operator? cs
  | .hyphenatedName => hyphenatedName? cs
  | .characterReference => characterReference? cs
  | .markupText => markupText? cs
  | .templateText => templateText? cs
  | .bracketed =>
    match cs with
    | '(' :: _ | '[' :: _ | '{' :: _ => Syntax.bracketed (cs.length + 1) [] cs
    | _ => none

end Localization.Syntax
