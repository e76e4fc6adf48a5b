import Localization.Text.Digit

/-!
# Escapes of string literals

The body of a quoted string literal, read and written. `resolve` gives the text a body stands for:
named escapes, hexadecimal and Unicode escapes, line continuations, and a backslash in front of
anything else, which stands for that character itself. A pair of escaped surrogates gives two code
points, as escapes are resolved one by one. `literal` writes a text between single quotes.
-/

namespace Localization.Escape

/-- Why a body has no text: an escape names a number that is no code point. Numbers that do not
fit a machine word are told apart from those that merely lie above the last code point. In values of
attributes, where references stand in the place of escapes, a number may have too many digits. -/
inductive Fault where
  | notACodePoint
  | tooLarge
  | oversizedNumber (digits : Nat)
  deriving DecidableEq

/-- The report on an escape that names no code point. -/
def Fault.message : Fault → Text
  | .notACodePoint => "chr() arg not in range(0x110000)"
  | .tooLarge => "Python int too large to convert to C int"
  | .oversizedNumber digits => Text.tooManyDigits digits

/-- The character of an escape made of one letter, or of the digit zero. -/
def simple? : CodePoint → Option CodePoint
  | .scalar 'n' => some '\n'
  | .scalar 't' => some '\t'
  | .scalar 'r' => some '\r'
  | .scalar 'b' => some '\x08'
  | .scalar 'f' => some '\x0c'
  | .scalar 'v' => some '\x0b'
  | .scalar '0' => some '\x00'
  | _ => none

/-- Whether a code point ends a line. -/
def isLineEnd (c : CodePoint) : Bool :=
  c = .scalar '\n' || c = .scalar '\r' || c = .scalar '\u2028' || c = .scalar '\u2029'

/-- The value of exactly `count` hexadecimal digits at the start of a text. -/
def hexValue? (count : Nat) (t : Text) : Option Nat :=
  if t.length < count then none
  else ((t.take count).mapM CodePoint.hexDigit?).map (Text.fromDigits 16)

/-- The value and the number of the hexadecimal digits between braces at the start of a text. -/
def bracedValue? : Text → Option (Nat × Nat)
  | .scalar '{' :: t =>
    let ds := (t.takeWhile fun c => c.hexDigit?.isSome).filterMap CodePoint.hexDigit?
    match ds, t.drop ds.length with
    | _ :: _, .scalar '}' :: _ => some (Text.fromDigits 16 ds, ds.length)
    | _, _ => none
  | _ => none

/-- The code point of an escaped number. -/
def codePoint (n : Nat) : Except Fault CodePoint :=
  match CodePoint.ofNat? n with
  | some c => .ok c
  | none => .error (if n < 0x80000000 then .notACodePoint else .tooLarge)

/-- The escape after a backslash: what it stands for and how many code points it takes. -/
def escape (t : Text) : Except Fault (Text × Nat) :=
  match t with
  | [] => .ok ([.scalar '\\'], 0)
  | .scalar 'u' :: rest =>
    match bracedValue? rest with
    | some (n, count) => (codePoint n).map fun c => ([c], count + 3)
    | none =>
      match hexValue? 4 rest with
      | some n => (codePoint n).map fun c => ([c], 5)
      | none => .ok ([.scalar 'u'], 1)
  | .scalar 'x' :: rest =>
    match hexValue? 2 rest with
    | some n => (codePoint n).map fun c => ([c], 3)
    | none => .ok ([.scalar 'x'], 1)
  | .scalar '\r' :: .scalar '\n' :: _ => .ok ([], 2)
  | c :: _ =>
    if isLineEnd c then .ok ([], 1)
    else .ok ([(simple? c).getD c], 1)

/-- Resolves a body whose first `skip` code points belong to an escape already resolved. -/
def resolveAfter : (skip : Nat) → Text → Except Fault Text
  | _, [] => .ok []
  | skip + 1, _ :: t => resolveAfter skip t
  | 0, c :: t =>
    if c = .scalar '\\' then do
      let (resolved, length) ← escape t
      return resolved ++ (← resolveAfter length t)
    else (resolveAfter 0 t).map (c :: ·)

/-- The text that the body of a string literal stands for. -/
def resolve (body : Text) : Except Fault Text := resolveAfter 0 body

/-- A text as a literal in single quotes: quotes and backslashes are escaped. -/
def literal (t : Text) : Text :=
  .scalar '\'' ::
    (t.flatMap fun c =>
      if c = .scalar '\\' ∨ c = .scalar '\'' then [.scalar '\\', c] else [c]) ++ [.scalar '\'']

end Localization.Escape
