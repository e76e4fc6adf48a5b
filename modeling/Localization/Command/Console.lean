import Localization.Text.Basic

/-!
# What commands show

A command shows lines of text, tables and panels. Parts of a text are styled by marks such as
`[red]` and `[/red]`; text from elsewhere that looks like a mark is guarded by a backslash.
-/

namespace Localization.Command

/-- Something that is shown. -/
inductive Shown where
  | line (text : Text)
  | table (title : Text) (columns : List Text) (rows : List (List Text))
  | panel (title text : Text)

/-! ## Marks -/

/-- Whether a code point can follow the bracket of a mark. -/
def startsMark (c : CodePoint) : Bool :=
  c.is fun c => c.isLower || c == '#' || c == '/' || c == '@'

/-- The rest of a mark up to its closing bracket, and what follows. -/
def markEnd? : Text → Option (Text × Text)
  | [] => none
  | c :: rest =>
    if c = .scalar ']' then some ([c], rest)
    else if c = .scalar '[' then none
    else (markEnd? rest).map fun m => (c :: m.1, m.2)

/-- The mark at the start of a text, and what follows. -/
def mark? : Text → Option (Text × Text)
  | b :: c :: rest =>
    if b = .scalar '[' && startsMark c then
      (markEnd? rest).map fun m => (b :: c :: m.1, m.2)
    else none
  | _ => none

/-- A text with its marks guarded; `slashes` counts the backslashes just before it. A mark's
backslashes are doubled and one more is put in front. -/
def guardMarks (slashes : Nat) : Text → Text
  | [] => List.replicate slashes (.scalar '\\')
  | c :: rest =>
    if c = .scalar '\\' then guardMarks (slashes + 1) rest
    else
      let before := if (mark? (c :: rest)).isSome then 2 * slashes + 1 else slashes
      List.replicate before (.scalar '\\') ++ c :: guardMarks 0 rest

/-- A text that is shown as it is, whatever marks it seems to have. -/
def escape (t : Text) : Text :=
  let guarded := guardMarks 0 t
  if guarded.endsWith "\\" && !guarded.endsWith "\\\\" then guarded ++ "\\" else guarded

/-! ## Without styles -/

/-- The styles that commands use. -/
def styles : List Text :=
  (["red", "green", "yellow", "blue", "cyan", "dim"] : List String).map Text.ofString

/-- Whether a mark sets or ends a style. -/
def isStyle (mark : Text) : Bool :=
  styles.any fun s => mark = Text.ofString "[" ++ s ++ "]" || mark = Text.ofString "[/" ++ s ++ "]"

/-- A text without its styles; `skip` code points at its start belong to a mark. -/
def plainFrom (skip : Nat) : Text → Text
  | [] => []
  | c :: rest =>
    match skip with
    | n + 1 => plainFrom n rest
    | 0 =>
      match mark? (c :: rest) with
      | some (mark, _) =>
        if isStyle mark then plainFrom (mark.length - 1) rest else c :: plainFrom 0 rest
      | none => c :: plainFrom 0 rest

/-- A text without its styles. -/
def plain (t : Text) : Text := plainFrom 0 t

/-- Something that is shown as plain text, its cells divided by bars. -/
def Shown.plain : Shown → Text
  | .line t => Command.plain t
  | .table title columns rows =>
    Text.join "\n" (title :: (columns :: rows).map fun cells => Text.join " | " cells)
  | .panel title t => title ++ "\n" ++ Command.plain t

end Localization.Command
