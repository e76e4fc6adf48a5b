import Localization.Regex.Reader

/-!
# Searching by regular expressions

The matcher keeps a list of goals still to be met from a place in the text and tries them in order,
taking back choices that do not work out. A repetition of something empty is not repeated once its
least count is reached, so every path ends; the fuel bounds its length.
-/

namespace Localization.Regex

/-! ## Characters -/

/-- Letters that match each other without regard to case though their lower-case forms differ. -/
def caseKin : List (Nat × List Nat) :=
  [(0x69, [0x131]), (0x73, [0x17F]), (0xB5, [0x3BC]), (0x131, [0x69]), (0x17F, [0x73]),
   (0x345, [0x3B9, 0x1FBE]), (0x390, [0x1FD3]), (0x3B0, [0x1FE3]), (0x3B2, [0x3D0]),
   (0x3B5, [0x3F5]), (0x3B8, [0x3D1]), (0x3B9, [0x345, 0x1FBE]), (0x3BA, [0x3F0]),
   (0x3BC, [0xB5]), (0x3C0, [0x3D6]), (0x3C1, [0x3F1]), (0x3C2, [0x3C3]), (0x3C3, [0x3C2]),
   (0x3C6, [0x3D5]), (0x3D0, [0x3B2]), (0x3D1, [0x3B8]), (0x3D5, [0x3C6]), (0x3D6, [0x3C0]),
   (0x3F0, [0x3BA]), (0x3F1, [0x3C1]), (0x3F5, [0x3B5]), (0x432, [0x1C80]), (0x434, [0x1C81]),
   (0x43E, [0x1C82]), (0x441, [0x1C83]), (0x442, [0x1C84, 0x1C85]), (0x44A, [0x1C86]),
   (0x463, [0x1C87]), (0x1C80, [0x432]), (0x1C81, [0x434]), (0x1C82, [0x43E]), (0x1C83, [0x441]),
   (0x1C84, [0x442, 0x1C85]), (0x1C85, [0x442, 0x1C84]), (0x1C86, [0x44A]), (0x1C87, [0x463]),
   (0x1C88, [0xA64B]), (0x1E61, [0x1E9B]), (0x1E9B, [0x1E61]), (0x1FBE, [0x345, 0x3B9]),
   (0x1FD3, [0x390]), (0x1FE3, [0x3B0]), (0xA64B, [0x1C88]), (0xFB05, [0xFB06]),
   (0xFB06, [0xFB05])]

/-- The lower-case form of a number, one code point for one. -/
def lowered (ascii : Bool) (n : Nat) : Nat :=
  if ascii then (if 0x41 ≤ n ∧ n ≤ 0x5A then n + 32 else n)
  else ((CodePoint.ofNat n).lower.head?.map CodePoint.toNat).getD n

/-- The numbers whose lower-case form is `n`. -/
def raised (ascii : Bool) (n : Nat) : List Nat :=
  if ascii then n :: (if 0x61 ≤ n ∧ n ≤ 0x7A then [n - 32] else [])
  else
    let fromRuns := lowerRuns.filterMap fun (low, high, stride, image) =>
      if image ≤ n ∧ n - image ≤ high - low ∧ (n - image) % stride = 0 then some (low + (n - image))
      else none
    n :: fromRuns ++ (if n = 0x69 then [0x130] else [])

/-- All numbers that match `n` without regard to case. -/
def caseFamily (ascii : Bool) (n : Nat) : List Nat :=
  let low := lowered ascii n
  let kin := if ascii then [] else (caseKin.lookup low).getD []
  (low :: kin).flatMap (raised ascii)

/-- Whether a number belongs to a class of characters. -/
def Category.holds (ascii : Bool) (c : Category) (n : Nat) : Bool :=
  let p := CodePoint.ofNat n
  (!ascii || n < 128) &&
    match c with
    | .digit => p.isDigit
    | .blank => if ascii then p.isAsciiBlank else p.isBlank
    | .word => p.isWord

/-- Whether a number is a member of a set. -/
def SetItem.holds (flags : Flags) (n : Nat) : SetItem → Bool
  | .category c negated => c.holds flags.ascii n != negated
  | .point m => if flags.ignoreCase then (caseFamily flags.ascii n).contains m else n == m
  | .range low high =>
    let inside (m : Nat) : Bool := low ≤ m && m ≤ high
    if flags.ignoreCase then (caseFamily flags.ascii n).any inside else inside n

/-! ## Places -/

/-- A place in a text: what stands before it, the nearest first, and what comes after. -/
structure Cursor where
  before : List Nat
  after : List Nat

/-- The text of each group that was met, with the cursor after it. -/
abbrev Captures := List (Nat × List Nat)

/-- Whether a cursor stands at a kind of place. -/
def Place.holds (flags : Flags) (c : Cursor) : Place → Bool
  | .lineStart => c.before.isEmpty || (flags.multiline && c.before.head? == some 10)
  | .lineEnd =>
    c.after.isEmpty || c.after == [10] || (flags.multiline && c.after.head? == some 10)
  | .textStart => c.before.isEmpty
  | .textEnd => c.after.isEmpty
  | .wordEdge => edge
  | .notWordEdge => !edge
where
  /-- Whether a word starts or ends here. -/
  edge : Bool :=
    let isWord (n : Option Nat) : Bool := n.any (Category.word.holds flags.ascii)
    isWord c.before.head? != isWord c.after.head?

/-- The cursor `n` characters back. -/
def Cursor.back (c : Cursor) (n : Nat) : Option Cursor :=
  if n ≤ c.before.length then some ⟨c.before.drop n, (c.before.take n).reverse ++ c.after⟩ else none

/-- The cursor after a given text, if it comes next. -/
def Cursor.takeText (same : Nat → Nat → Bool) : List Nat → Cursor → Option Cursor
  | [], c => some c
  | n :: ns, c =>
    match c.after with
    | m :: rest => if same n m then takeText same ns ⟨m :: c.before, rest⟩ else none
    | [] => none

/-! ## Matching -/

/-- What is still to be met. A running repetition knows its count and the place of its last turn;
an end of a group knows where the group began. -/
inductive Goal where
  | item (flags : Flags) (i : Item)
  | turn (flags : Flags) (how : Repetition) (least : Nat) (most : Option Nat) (body : List Item)
      (count : Nat) (last : Option Nat)
  | close (group : Nat) (start : List Nat)

/-- The items of a sequence as goals. -/
def goals (flags : Flags) (items : List Item) : List Goal := items.map (.item flags)

/-- Meets the goals in order from a cursor: the cursor and captures after the first way that
works. -/
def run (widths : Nat → Nat × Nat) : Nat → List Goal → Cursor → Captures →
    Option (Cursor × Captures)
  | 0, _, _, _ => none
  | _ + 1, [], c, caps => some (c, caps)
  | fuel + 1, .close g start :: rest, c, caps =>
    let text := start.take (start.length - c.after.length)
    run widths fuel rest c ((g, text) :: caps)
  | fuel + 1, .turn flags how least most body count last :: rest, c, caps =>
    let here := c.after.length
    let again := .turn flags how least most body (count + 1) (some here)
    let more (_ : Unit) : Option (Cursor × Captures) :=
      run widths fuel (goals flags body ++ again :: rest) c caps
    if count < least then more ()
    else if most.any (· ≤ count) || last == some here then run widths fuel rest c caps
    else
      match how with
      | .lazy => (run widths fuel rest c caps).orElse more
      | _ => (more ()).orElse fun _ => run widths fuel rest c caps
  | fuel + 1, .item flags i :: rest, c, caps =>
    let one (p : Nat → Bool) : Option (Cursor × Captures) :=
      match c.after with
      | n :: after => if p n then run widths fuel rest ⟨n :: c.before, after⟩ caps else none
      | [] => none
    match i with
    | .point m => one fun n => (SetItem.point m).holds flags n
    | .any => one fun n => flags.dotAll || n != 10
    | .set negated members => one fun n => members.any (·.holds flags n) != negated
    | .place p => if p.holds flags c then run widths fuel rest c caps else none
    | .group none on off body => run widths fuel (goals (flags.adjust on off) body ++ rest) c caps
    | .group (some g) on off body =>
      run widths fuel (goals (flags.adjust on off) body ++ .close g c.after :: rest) c caps
    | .atomic body =>
      match run widths fuel (goals flags body) c caps with
      | some (c', caps') => run widths fuel rest c' caps'
      | none => none
    | .branch bodies => bodies.findSome? fun b => run widths fuel (goals flags b ++ rest) c caps
    | .repeated .possessive least most body =>
      match run widths fuel [.turn flags .greedy least most body 0 none] c caps with
      | some (c', caps') => run widths fuel rest c' caps'
      | none => none
    | .repeated how least most body =>
      run widths fuel (.turn flags how least most body 0 none :: rest) c caps
    | .reference g =>
      match caps.lookup g with
      | none => none
      | some text =>
        let same (a b : Nat) : Bool :=
          if flags.ignoreCase then lowered flags.ascii a == lowered flags.ascii b else a == b
        match c.takeText same text with
        | some c' => run widths fuel rest c' caps
        | none => none
    | .conditional g yes no =>
      if (caps.lookup g).isSome then run widths fuel (goals flags yes ++ rest) c caps
      else run widths fuel (goals flags (no.getD []) ++ rest) c caps
    | .look behind negated body =>
      let from? := if behind then c.back (widthOf widths body).1 else some c
      let found := from?.bind fun c' => run widths fuel (goals flags body) c' caps
      if negated then (if found.isNone then run widths fuel rest c caps else none)
      else
        match found with
        | some (_, caps') => run widths fuel rest c caps'
        | none => none

mutual

/-- The number of goals an item can turn into when its counted repetitions are written out. -/
def Item.extent : Item → Nat
  | .group _ _ _ body => 2 + extentOf body
  | .atomic body => 1 + extentOf body
  | .branch bodies => 1 + extentOfEach bodies
  | .repeated _ least _ body => 3 + (least + 1) * (2 + extentOf body)
  | .conditional _ yes no =>
    1 + extentOf yes +
      match no with
      | some no => extentOf no
      | none => 0
  | .look _ _ body => 1 + extentOf body
  | _ => 1

/-- The extent of a sequence. -/
def extentOf : List Item → Nat
  | [] => 1
  | i :: is => i.extent + extentOf is

/-- The extent of a choice. -/
def extentOfEach : List (List Item) → Nat
  | [] => 1
  | b :: bs => extentOf b + extentOfEach bs

end

end Localization.Regex

namespace Localization.Regex

/-- Whether the expression matches from some place on, given by what stands before and after it. -/
def searchFrom (r : Regex) (fuel : Nat) : (before after : List Nat) → Bool
  | before, [] => (run (fun g => r.groups.getD g (0, 0)) fuel (goals r.flags r.items) ⟨before, []⟩ []).isSome
  | before, n :: after =>
    (run (fun g => r.groups.getD g (0, 0)) fuel (goals r.flags r.items) ⟨before, n :: after⟩ []).isSome ||
      searchFrom r fuel (n :: before) after

/-- Whether the expression matches somewhere in a text. -/
def search (r : Regex) (t : Text) : Bool :=
  let fuel := (extentOf r.items + 2) * (t.length + 2) + 2
  searchFrom r fuel [] (t.map CodePoint.toNat)

end Localization.Regex
