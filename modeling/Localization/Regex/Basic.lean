import Localization.Text.Case
import Localization.Text.Digit
import Localization.Text.Blank
import Localization.Text.Name
import Localization.Text.Quoted
import Localization.Text.Word

/-!
# Regular expressions

Projects may exclude texts by regular expressions of their own. An expression is a sequence of
items; the fault of one that cannot be read is a cause and, in most cases, a place. Which characters
have a name is not settled here: an expression is read with the names that are known.
-/

namespace Localization.Regex

/-- The characters that are known by a name. -/
abbrev CharacterNames := Text → Option CodePoint

/-- No character is known by a name. -/
def CharacterNames.unnamed : CharacterNames := fun _ => none

/-- The switches of an expression. `unicode` is written out only when it is given. -/
structure Flags where
  ignoreCase : Bool
  multiline : Bool
  dotAll : Bool
  verbose : Bool
  ascii : Bool
  unicode : Bool
  template : Bool
  deriving DecidableEq

namespace Flags

/-- No switch is on. -/
def off : Flags := ⟨false, false, false, false, false, false, false⟩

/-- Joins two sets of switches by an operation on each. -/
def zip (f : Bool → Bool → Bool) (a b : Flags) : Flags :=
  ⟨f a.ignoreCase b.ignoreCase, f a.multiline b.multiline, f a.dotAll b.dotAll,
    f a.verbose b.verbose, f a.ascii b.ascii, f a.unicode b.unicode, f a.template b.template⟩

/-- The switches that are on in either. -/
def union (a b : Flags) : Flags := zip (· || ·) a b

/-- Whether some switch is on in both. -/
def meets (a b : Flags) : Bool := zip (· && ·) a b != off

/-- The switches after turning some on and some off; the two kinds of characters replace each
other. -/
def adjust (flags on off : Flags) : Flags :=
  let base := if on.ascii || on.unicode then { flags with ascii := false, unicode := false } else flags
  zip (fun x y => x && !y) (union base on) off

/-- The switch of a letter. -/
def ofLetter? : CodePoint → Option Flags
  | .scalar 'i' => some { off with ignoreCase := true }
  | .scalar 'm' => some { off with multiline := true }
  | .scalar 's' => some { off with dotAll := true }
  | .scalar 'x' => some { off with verbose := true }
  | .scalar 'a' => some { off with ascii := true }
  | .scalar 'u' => some { off with unicode := true }
  | .scalar 't' => some { off with template := true }
  | _ => none

end Flags

/-- Classes of characters with a name of their own. -/
inductive Category where
  | digit
  | blank
  | word
  deriving DecidableEq

/-- A member of a set of characters. -/
inductive SetItem where
  | point (n : Nat)
  | range (low high : Nat)
  | category (c : Category) (negated : Bool)
  deriving DecidableEq

/-- Places in a text. -/
inductive Place where
  | lineStart
  | lineEnd
  | textStart
  | textEnd
  | wordEdge
  | notWordEdge
  deriving DecidableEq

/-- How a repetition chooses its count. -/
inductive Repetition where
  | greedy
  | lazy
  | possessive
  deriving DecidableEq

/-- The word for a way to repeat. -/
def Repetition.word : Repetition → Text
  | .greedy => "MAX_REPEAT"
  | .lazy => "MIN_REPEAT"
  | .possessive => "POSSESSIVE_REPEAT"

/-- An item of an expression; `none` as an upper bound stands for no bound. -/
inductive Item where
  | point (n : Nat)
  | any
  | set (negated : Bool) (members : List SetItem)
  | place (p : Place)
  | group (number : Option Nat) (on off : Flags) (body : List Item)
  | atomic (body : List Item)
  | branch (bodies : List (List Item))
  | repeated (how : Repetition) (least : Nat) (most : Option Nat) (body : List Item)
  | reference (group : Nat)
  | conditional (group : Nat) (yes : List Item) (no : Option (List Item))
  | look (behind negated : Bool) (body : List Item)

/-! ## Faults -/

/-- Why an expression cannot be read. -/
inductive Cause where
  | danglingBackslash
  | incompleteEscape (escape : Text)
  | badEscape (escape : Text)
  | missingNameBrace
  | missingName (what : Text)
  | unterminatedName (terminator : Text)
  | undefinedCharacter (name : Text)
  | octalRange (escape : Text)
  | openGroup
  | sameLookBehind
  | invalidReference (group : Nat)
  | unterminatedSet
  | badRange (low high : Text)
  | repeatOrder
  | nothingToRepeat
  | multipleRepeat
  | unexpectedEnd
  | unknownExtension (extension : Text)
  | badGroupName (name : Text)
  | unknownGroupName (name : Text)
  | redefinedGroup (name : Text) (number previous : Nat)
  | unterminatedComment
  | unterminatedGroup
  | badGroupNumber
  | tooManyBranches
  | lateFlags
  | localeFlag
  | incompatibleFlags
  | missingFlagEnd
  | unknownFlag
  | globalFlagOn
  | globalFlagOff
  | missingFlag
  | missingColon
  | flagKindOff
  | flagOnAndOff
  | unbalanced
  | variableLookBehind
  | distantLookBehind
  | templateRepetition (how : Repetition)
  deriving DecidableEq

/-- The wording of a cause. -/
def Cause.message : Cause → Text
  | .danglingBackslash => "bad escape (end of pattern)"
  | .incompleteEscape e => "incomplete escape " ++ e
  | .badEscape e => "bad escape " ++ e
  | .missingNameBrace => "missing \x7b"
  | .missingName what => "missing " ++ what
  | .unterminatedName t => "missing " ++ t ++ ", unterminated name"
  | .undefinedCharacter n => "undefined character name " ++ n.quoted
  | .octalRange e => "octal escape value " ++ e ++ " outside of range 0-0o377"
  | .openGroup => "cannot refer to an open group"
  | .sameLookBehind => "cannot refer to group defined in the same lookbehind subpattern"
  | .invalidReference n => "invalid group reference " ++ Text.ofNumber n
  | .unterminatedSet => "unterminated character set"
  | .badRange a b => "bad character range " ++ a ++ "-" ++ b
  | .repeatOrder => "min repeat greater than max repeat"
  | .nothingToRepeat => "nothing to repeat"
  | .multipleRepeat => "multiple repeat"
  | .unexpectedEnd => "unexpected end of pattern"
  | .unknownExtension e => "unknown extension ?" ++ e
  | .badGroupName n => "bad character in group name " ++ n.quoted
  | .unknownGroupName n => "unknown group name " ++ n.quoted
  | .redefinedGroup n new old =>
    "redefinition of group name " ++ n.quoted ++ " as group " ++ Text.ofNumber new ++
      "; was group " ++ Text.ofNumber old
  | .unterminatedComment => "missing ), unterminated comment"
  | .unterminatedGroup => "missing ), unterminated subpattern"
  | .badGroupNumber => "bad group number"
  | .tooManyBranches => "conditional backref with more than two branches"
  | .lateFlags => "global flags not at the start of the expression"
  | .localeFlag => "bad inline flags: cannot use 'L' flag with a str pattern"
  | .incompatibleFlags => "bad inline flags: flags 'a', 'u' and 'L' are incompatible"
  | .missingFlagEnd => "missing -, : or )"
  | .unknownFlag => "unknown flag"
  | .globalFlagOn => "bad inline flags: cannot turn on global flag"
  | .globalFlagOff => "bad inline flags: cannot turn off global flag"
  | .missingFlag => "missing flag"
  | .missingColon => "missing :"
  | .flagKindOff => "bad inline flags: cannot turn off flags 'a', 'u' and 'L'"
  | .flagOnAndOff => "bad inline flags: flag turned on and off"
  | .unbalanced => "unbalanced parenthesis"
  | .variableLookBehind => "look-behind requires fixed-width pattern"
  | .distantLookBehind => "looks too much behind"
  | .templateRepetition how => "internal: unsupported template operator " ++ how.word

/-- What is wrong with an expression: a fault of form, with its place if it has one; a number that is
too large or has too many digits; or switches for the whole of it that contradict each other. Only
the first is a fault of the expression's own; the others stop whoever reads it. -/
inductive Fault where
  | malformed (cause : Cause) (place : Option Nat)
  | overflow
  | oversizedNumber (digits : Nat)
  | contradictoryFlags
  deriving DecidableEq

/-- Whether a fault is one of form. -/
def Fault.isMalformed : Fault → Bool
  | .malformed _ _ => true
  | _ => false

/-- The report on a fault of an expression. -/
def Fault.message (f : Fault) (pattern : Text) : Text :=
  match f with
  | .overflow => "the repetition number is too large"
  | .oversizedNumber digits => Text.tooManyDigits digits
  | .contradictoryFlags => "ASCII and UNICODE flags are incompatible"
  | .malformed cause none => cause.message
  | .malformed cause (some place) =>
    let front := pattern.take place
    let line := front.count (.scalar '\n') + 1
    let column := (front.reverse.takeWhile (· ≠ .scalar '\n')).length + 1
    cause.message ++ " at position " ++ Text.ofNumber place ++
      if pattern.contains (.scalar '\n') then
        " (line " ++ Text.ofNumber line ++ ", column " ++ Text.ofNumber column ++ ")"
      else []

/-! ## Widths -/

/-- A bound on the width of everything. -/
def maxWidth : Nat := 0x10000000000000000

/-- How far a look-behind may reach. -/
def maxBehind : Nat := 0xFFFFFFFF

mutual

/-- The least and the greatest number of characters an item can take, given those of the groups. -/
def Item.width (groups : Nat → Nat × Nat) : Item → Nat × Nat
  | .point _ | .any | .set _ _ => (1, 1)
  | .place _ | .look _ _ _ => (0, 0)
  | .group _ _ _ body => widthOf groups body
  | .atomic body => widthOf groups body
  | .branch bodies =>
    let (low, high) := widthsOf groups bodies
    (low, high)
  | .repeated _ least most body =>
    let (low, high) := widthOf groups body
    (low * least,
      match most with
      | some n => high * n
      | none => if high = 0 then 0 else maxWidth)
  | .reference g => groups g
  | .conditional _ yes no =>
    let (low, high) := widthOf groups yes
    match no with
    | none => (0, high)
    | some no =>
      let (low', high') := widthOf groups no
      (min low low', max high high')

/-- The width of items one after the other. -/
def widthOf (groups : Nat → Nat × Nat) : List Item → Nat × Nat
  | [] => (0, 0)
  | i :: is =>
    let (a, b) := i.width groups
    let (c, d) := widthOf groups is
    (min (a + c) maxWidth, min (b + d) maxWidth)

/-- The width of a choice. -/
def widthsOf (groups : Nat → Nat × Nat) : List (List Item) → Nat × Nat
  | [] => (maxWidth, 0)
  | b :: bs =>
    let (low, high) := widthOf groups b
    let (low', high') := widthsOf groups bs
    (min low low', max high high')

end

end Localization.Regex

namespace Localization

/-- A regular expression that was read: its text, its switches, its items and the widths of its
groups. -/
structure Regex where
  pattern : Text
  flags : Regex.Flags
  items : List Regex.Item
  groups : List (Nat × Nat)

end Localization
