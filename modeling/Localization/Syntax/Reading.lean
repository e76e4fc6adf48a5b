import Localization.Syntax.Pattern

/-!
# Reading a text by a pattern

The reader walks over the text with blanks and comments skipped between lexemes. Comments become
nodes in front of the lexeme that follows them, outside every node that starts with that lexeme. A
reading that fails says how far it came: the farthest place at which a lexeme was refused.

A statement that cannot be read does not stop the reading. It is read again forgivingly, with the
statements inside it on their own and with small damage accepted; failing that, the text from its
start on up to the next place where a statement can be read becomes one region of error. Every step
of the reading uses up fuel, so it ends.
-/

namespace Localization.Syntax

/-- The number of bytes of a list of characters. -/
def byteLength (cs : List Char) : Nat := cs.foldl (fun n c => n + c.utf8Size) 0

/-- Where a reading stands. -/
structure Reading where
  /-- The byte offset after the last lexeme. -/
  last : Nat
  /-- The text after the last lexeme. -/
  tail : List Char
  /-- The byte offset of the next lexeme. -/
  offset : Nat
  /-- The text from the next lexeme on. -/
  rest : List Char
  /-- Whether a line ended between the two. -/
  newline : Bool
  /-- The comments between the two, the latest first. -/
  comments : List Tree
  /-- The nodes built in the innermost scope, the latest first. -/
  out : List Tree
  /-- The farthest byte offset at which a lexeme was refused. -/
  reach : Nat

namespace Reading

/-- Characters that count as the end of a line between lexemes. -/
def endsLine (c : Char) : Bool := c == '\n' || c == '\u2028' || c == '\u2029'

/-- Skips blanks and comments; the first `skip` characters belong to a comment already recorded. -/
def skipGap (skip : Nat) (r : Reading) : List Char → Reading
  | [] => { r with rest := [] }
  | c :: cs =>
    let next := { r with offset := r.offset + c.utf8Size, newline := r.newline || endsLine c }
    if skip > 0 then skipGap (skip - 1) next cs
    else if isSpace c then skipGap 0 next cs
    else
      match comment? (c :: cs) with
      | some n =>
        let stop := r.offset + byteLength ((c :: cs).take n)
        let node := Tree.node .comment none ⟨r.offset, stop⟩ []
        skipGap (n - 1) { next with comments := node :: r.comments } cs
      | none => { r with rest := c :: cs }

/-- The reading at a byte offset with the given text in front of it. -/
def standAt (r : Reading) (offset : Nat) (text : List Char) : Reading :=
  skipGap 0 { r with last := offset, tail := text, offset := offset, newline := false,
                     comments := [] } text

/-- The start of a text. -/
def start (text : List Char) : Reading :=
  standAt ⟨0, text, 0, text, false, [], [], 0⟩ 0 text

/-- A reading with another node built. -/
def push (r : Reading) (t : Tree) : Reading := { r with out := t :: r.out }

/-- The place of a refusal here. -/
def refusal (r : Reading) : Nat := max r.reach r.offset

/-- Takes the next `count` characters as a node. -/
def take (r : Reading) (kind : Kind) (count : Nat) (inside : List Tree) : Reading :=
  let stop := r.offset + byteLength (r.rest.take count)
  let node := Tree.node kind none ⟨r.offset, stop⟩ inside
  standAt { r with out := node :: (r.comments ++ r.out) } stop (r.rest.drop count)

/-- Takes `count` characters right after the last lexeme as a node. -/
def takeRaw (r : Reading) (kind : Kind) (count : Nat) : Reading :=
  let stop := r.last + byteLength (r.tail.take count)
  let node := Tree.node kind none ⟨r.last, stop⟩ []
  standAt { r with out := node :: r.out } stop (r.tail.drop count)

/-- Takes a lexeme as a node, if it stands here. -/
def takeLexeme (r : Reading) (kind : Kind) (l : Lexeme) : Except Nat Reading :=
  if l.isRaw then
    match l.length? r.tail with
    | some n => .ok (r.takeRaw kind n)
    | none => .error r.refusal
  else
    match l.length? r.rest with
    | some n => .ok (r.take kind n [])
    | none => .error r.refusal

/-- Closes a scope: its nodes, without the comments in front, become one node of a kind. -/
def close (outer : List Tree) (r : Reading) (kind : Kind) : Reading :=
  let children := r.out.reverse
  let lead := children.takeWhile (·.kind = .comment)
  let body := children.drop lead.length
  match body with
  | [] => { r with out := lead.reverse ++ outer }
  | first :: _ =>
    let stop := (body.getLast?.map (·.stop)).getD first.stop
    { r with out := .node kind none ⟨first.start, stop⟩ body :: (lead.reverse ++ outer) }

/-- Gives the node built last a part to play. -/
def markLast (r : Reading) (role : Role) : Reading :=
  match r.out with
  | t :: ts => { r with out := t.withRole role :: ts }
  | [] => r

/-- Whether a semicolon is implied here: at the end, in front of a closing brace, and at the start
of a line that cannot continue the one before. -/
def impliesSemicolon (r : Reading) (afterExpression : Bool) : Bool :=
  match r.rest with
  | [] => true
  | '}' :: _ => true
  | c :: cs =>
    r.newline &&
      (if "`,.;*%><=?^|&/:".toList.contains c then false
       else if c == '(' || c == '[' then !afterExpression
       else if c == '+' then cs.head? == some '+'
       else if c == '-' then cs.head? == some '-'
       else if c == '!' then cs.head? != some '='
       else !(((Lexeme.word "in".toList).length? r.rest).isSome ||
          ((Lexeme.word "instanceof".toList).length? r.rest).isSome))

/-- The number of characters of whatever lexeme stands here. -/
def anyLength (cs : List Char) : Nat :=
  let found := [Lexeme.anyName, .number, .string].findSome? (·.length? cs)
  max 1 (found.getD 1)

/-- Moves to the byte offset `target` without building nodes, and over one lexeme at least. -/
def skipTo (r : Reading) (target : Nat) : Reading :=
  if target ≤ r.offset then
    let n := anyLength r.rest
    standAt r (r.offset + byteLength (r.rest.take n)) (r.rest.drop n)
  else
    let rec go (offset : Nat) : List Char → Reading
      | [] => standAt r offset []
      | c :: cs => if target ≤ offset then standAt r offset (c :: cs) else go (offset + c.utf8Size) cs
    go r.offset r.rest

/-- Accepts damage, if it is here. -/
def takeDamage (r : Reading) (d : Damage) : Except Nat Reading :=
  let missing := Tree.node .missing none ⟨r.last, r.last⟩ []
  match d with
  | .missingParenthesis =>
    match r.rest with
    | ';' :: _ | '{' :: _ | ']' :: _ | '}' :: _ => .ok (r.push missing)
    | _ => .error r.refusal
  | .missingBrace => if r.rest.isEmpty then .ok (r.push missing) else .error r.refusal
  | .strayMarkup =>
    match r.rest with
    | '&' :: _ | '>' :: _ | '}' :: _ =>
      .ok (r.take .error (runLength (fun c => c != '<' && c != '{') r.rest) [])
    | _ => .error r.refusal

end Reading

open Reading in
/-- Reads by a pattern. The result is the reading after it, or how far the reading came. -/
def read (grammar : Rule → Pattern) : Nat → (lenient : Bool) → Pattern → Reading →
    Except Nat Reading
  | 0, _, _, r => .error r.refusal
  | fuel + 1, lenient, p, r =>
    match p with
    | .empty => .ok r
    | .token l => r.takeLexeme .token l
    | .leaf kind l => r.takeLexeme kind l
    | .seq a b =>
      match read grammar fuel lenient a r with
      | .ok r' => read grammar fuel lenient b r'
      | .error n => .error n
    | .alt a b =>
      match read grammar fuel lenient a r with
      | .ok r' => .ok r'
      | .error n => read grammar fuel lenient b { r with reach := max r.reach n }
    | .many a =>
      match read grammar fuel lenient a r with
      | .ok r' => if r'.last ≤ r.last then .ok r else read grammar fuel lenient p r'
      | .error n => .ok { r with reach := max r.reach n }
    | .ahead a =>
      match read grammar fuel lenient a r with
      | .ok _ => .ok r
      | .error _ => .error r.refusal
    | .notAhead a =>
      match read grammar fuel lenient a r with
      | .ok _ => .error r.refusal
      | .error _ => .ok r
    | .node kind a =>
      match read grammar fuel lenient a { r with out := [] } with
      | .ok r' => .ok (r'.close r.out kind)
      | .error n => .error n
    | .fold kind role a =>
      let marked := match role with
        | some role => r.markLast role
        | none => r
      match read grammar fuel lenient a marked with
      | .ok r' => .ok (r'.close [] kind)
      | .error n => .error n
    | .scope a =>
      match read grammar fuel lenient a { r with out := [] } with
      | .ok r' => .ok { r' with out := r'.out ++ r.out }
      | .error n => .error n
    | .mark role a =>
      match read grammar fuel lenient a { r with out := [] } with
      | .ok r' => let m := r'.markLast role; .ok { m with out := m.out ++ r.out }
      | .error n => .error n
    | .rule name => read grammar fuel lenient (grammar name) r
    | .sameLine => if r.newline then .error r.refusal else .ok r
    | .semicolon afterExpression =>
      match r.rest with
      | ';' :: _ => .ok (r.take .token 1 [])
      | _ => if r.impliesSemicolon afterExpression then .ok r else .error r.refusal
    | .endOfText => if r.rest.isEmpty then .ok r else .error r.refusal
    | .guarded inBraces a =>
      if !lenient then read grammar fuel false a r
      else
        match read grammar fuel false a { r with reach := 0 } with
        | .ok r' => .ok { r' with reach := max r.reach r'.reach }
        | .error n =>
          if r.rest.isEmpty || (inBraces && r.rest.head? == some '}') then
            .error (max r.reach n)
          else
            match read grammar fuel true a { r with reach := 0 } with
            | .ok r' => .ok { r' with reach := max r.reach r'.reach }
            | .error m => skipRegion fuel inBraces a r (r.skipTo (max n m))
    | .damaged d => if lenient then r.takeDamage d else .error r.refusal
    | .flawed kind l =>
      if lenient then
        match l.length? r.rest with
        | some n =>
          .ok (r.take kind n [.node .error none ⟨r.offset + 1, r.offset + 2⟩ []])
        | none => .error r.refusal
      else .error r.refusal
where
  /-- Skips from where `r` stands to `here` and on, up to a place where the pattern can be read. -/
  skipRegion : Nat → Bool → Pattern → Reading → Reading → Except Nat Reading
  | 0, _, _, _, here => .error here.refusal
  | fuel + 1, inBraces, a, r, here =>
    let region : Tree := .node .error none ⟨r.offset, here.last⟩ []
    let closed := { here with out := region :: (r.comments ++ r.out) }
    if here.rest.isEmpty || (inBraces && here.rest.head? == some '}') then .ok closed
    else
      match read grammar fuel false a { closed with reach := 0 } with
      | .ok r' => .ok r'
      | .error n => skipRegion fuel inBraces a r (here.skipTo n)

end Localization.Syntax
