import Localization.Text.Blank
import Localization.Text.Digit
import Localization.Text.Word

/-!
# Placeholders

A text may hold places that a program fills in: a name in one or two pairs of braces, or a percent
sign with a letter and perhaps a number before it. A translated text must have the same placeholders
as often. Named ones may stand in any order; percent signs without a number are filled in the order
in which they stand, so a change of that order is worth a warning.
-/

namespace Localization.Placeholder

/-! ## Finding placeholders -/

/-- Characters of the name of a placeholder. -/
def isNamePoint (c : CodePoint) : Bool := c.isWord || c = .scalar '.' || c = .scalar '-'

/-- What follows a name with blanks around it, at the start of a text. -/
def dropName? (t : Text) : Option Text :=
  let t := t.dropWhile CodePoint.isBlank
  let rest := t.dropWhile isNamePoint
  if rest.length < t.length then some (rest.dropWhile CodePoint.isBlank) else none

/-- What follows a name in braces at the start of a text. -/
def dropBraced? (opening closing t : Text) : Option Text :=
  (Text.dropLead? opening t).bind fun t => (dropName? t).bind (Text.dropLead? closing)

/-- What follows the letter of a percent sign. -/
def dropLetter? : Text → Option Text
  | .scalar c :: t => if "sdif@".toList.contains c then some t else none
  | _ => none

/-- What follows a percent sign with its letter at the start of a text. -/
def dropPercent? : Text → Option Text
  | .scalar '%' :: t =>
    let rest := t.dropWhile CodePoint.isDigit
    match rest with
    | .scalar '$' :: after =>
      if rest.length < t.length then dropLetter? after else dropLetter? t
    | _ => dropLetter? t
  | _ => none

/-- The length of the placeholder at the start of a text. -/
def lengthAt? (t : Text) : Option Nat :=
  ((dropBraced? "\x7b\x7b" "\x7d\x7d" t).or
    ((dropBraced? "\x7b" "\x7d" t).or (dropPercent? t))).map fun rest => t.length - rest.length

/-- The placeholders of a text after its first `skip` code points, blanks inside them removed. -/
def findFrom : (skip : Nat) → Text → List Text
  | _, [] => []
  | skip + 1, _ :: t => findFrom skip t
  | 0, c :: t =>
    match lengthAt? (c :: t) with
    | some n => ((c :: t).take n).filter (fun d => !d.isBlank) :: findFrom (n - 1) t
    | none => findFrom 0 t

/-- The placeholders of a text, in order. -/
def find (t : Text) : List Text := findFrom 0 t

/-! ## Comparing placeholders -/

/-- What is wrong with the placeholders of a translated text. -/
inductive Issue where
  | countMismatch (source translated : Nat)
  | missing (placeholder : Text)
  | extra (placeholder : Text)
  | orderChanged

/-- The wording of an issue. -/
def Issue.message : Issue → Text
  | .countMismatch s u =>
    "Placeholder count mismatch: source has " ++ Text.ofNumber s ++ ", translation has " ++
      Text.ofNumber u
  | .missing p => "Missing placeholder in translation: " ++ p
  | .extra p => "Extra placeholder in translation: " ++ p
  | .orderChanged => "printf placeholder order changed (may cause runtime issues)"

/-- Whether an issue makes a translated text unusable. -/
def Issue.isCritical : Issue → Bool
  | .orderChanged => false
  | _ => true

/-- The placeholders that stand more often in one list than in another, in increasing order. -/
def surplus (a b : List Text) : List Text :=
  Text.sort (a.eraseDups.filter fun p => b.count p < a.count p)

/-- Percent signs without a number. -/
def positional (ps : List Text) : List Text :=
  ps.filter fun p => p.startsWith "%" && !p.contains (.scalar '$')

/-- The issues of a translated text. -/
def issues (source translated : Text) : List Issue :=
  let s := find source
  let u := find translated
  let critical :=
    (if s.length ≠ u.length then [Issue.countMismatch s.length u.length] else []) ++
      (surplus s u).map .missing ++ (surplus u s).map .extra
  if critical.isEmpty && positional s ≠ positional u then [.orderChanged] else critical

/-- Whether the placeholders of a text survived. -/
def survive (source translated : Text) : Bool :=
  (issues source translated).all fun i => !i.isCritical

/-- The critical issues in one line. -/
def describe (is : List Issue) : Text :=
  Text.join "; " ((is.filter Issue.isCritical).map Issue.message)

end Localization.Placeholder
