import Localization.Text.Basic

/-!
# Paths

A path is an anchor and the names below it. Reading a path drops empty names and single dots and
keeps double dots; `resolve` makes it absolute and takes the double dots out. The stem and the
suffix of a path are the parts of its last name before and from the last dot on, if that dot is
neither its first nor its last character.
-/

namespace Localization

/-- Where a path starts. -/
inductive Anchor where
  | relative
  | root
  | doubleRoot
  deriving DecidableEq

/-- A path: where it starts, and the names below. -/
structure Path where
  anchor : Anchor
  names : List Text
  deriving DecidableEq

/-- Why a path cannot be resolved. -/
inductive PathFault where
  | embeddedNull
  | notEncodable
  deriving DecidableEq

namespace Path

/-- The text of an anchor. -/
def anchorText : Anchor → Text
  | .relative => []
  | .root => "/"
  | .doubleRoot => "//"

/-- Reads a path. -/
def ofText (t : Text) : Path :=
  let slashes := (t.takeWhile (· = .scalar '/')).length
  let anchor := if slashes = 0 then Anchor.relative else if slashes = 2 then .doubleRoot else .root
  ⟨anchor, (Text.splitOn (.scalar '/') t).filter fun name => !name.isEmpty && name != Text.ofString "."⟩

/-- Writes a path; the empty one is a single dot. -/
def toText (p : Path) : Text :=
  match p.anchor, p.names with
  | .relative, [] => "."
  | anchor, names => anchorText anchor ++ Text.join "/" names

/-- One path below another; an absolute one stands alone. -/
def join (p q : Path) : Path :=
  match q.anchor with
  | .relative => ⟨p.anchor, p.names ++ q.names⟩
  | _ => q

/-- The path of a name below a path. -/
def child (p : Path) (name : Text) : Path := ⟨p.anchor, p.names ++ [name]⟩

/-- The path without its last name. -/
def parent (p : Path) : Path := ⟨p.anchor, p.names.dropLast⟩

/-- The paths above a path, the nearest first. -/
def parents (p : Path) : List Path :=
  (List.range p.names.length).map fun i => ⟨p.anchor, p.names.take (p.names.length - 1 - i)⟩

/-- The last name of a path. -/
def name (p : Path) : Text := p.names.getLast?.getD []

/-- The length of a name up to its last dot, if the dot is neither first nor last. -/
def stemLength? (name : Text) : Option Nat :=
  let afterDot := (name.reverse.takeWhile (· ≠ .scalar '.')).length
  let stem := name.length - afterDot - 1
  if afterDot < name.length ∧ 0 < stem ∧ 0 < afterDot then some stem else none

/-- The stem of a name. -/
def stemOf (name : Text) : Text :=
  match stemLength? name with
  | some n => name.take n
  | none => name

/-- The suffix of a name, its dot included. -/
def suffixOf (name : Text) : Text :=
  match stemLength? name with
  | some n => name.drop n
  | none => []

/-- The stem of a path's last name. -/
def stem (p : Path) : Text := stemOf p.name

/-- The suffix of a path's last name. -/
def suffix (p : Path) : Text := suffixOf p.name

/-- Whether a code point has no place in the name of a file. -/
def isUnencodable : CodePoint → Bool
  | .surrogate i => !(0x480 ≤ i.val && i.val ≤ 0x4FF)
  | .scalar _ => false

/-- Takes the double dots out of the names of an absolute path; `above` holds the names so far, the
nearest first. -/
def collapse : (above : List Text) → List Text → Except PathFault (List Text)
  | above, [] => .ok above.reverse
  | above, name :: names =>
    if name = Text.ofString ".." then collapse above.tail names
    else if name.any isUnencodable then .error .notEncodable
    else if name.contains (.scalar '\x00') then .error .embeddedNull
    else collapse (name :: above) names

/-- A path made absolute below a folder, without double dots. -/
def resolve (base p : Path) : Except PathFault Path :=
  (collapse [] (base.join p).names).map fun names => ⟨.root, names⟩

end Path

end Localization
