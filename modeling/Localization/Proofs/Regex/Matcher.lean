import Mathlib.Data.List.Basic
import Localization.Proofs.Text.Order
import Localization.Regex.Matcher

/-!
# What an expression admits

The matcher meets goals one after another and takes choices back that do not work out. Which texts
it finds a way through does not depend on the order of its choices. `Admits` says that goals are met
in front of a text exactly if the text is in a class, whatever stands before it, and how many steps
that may take; there is one lemma for each kind of item, which gives the class of an item followed by
goals from the class of the goals. So the class of an expression is put together along its items,
and the fuel is dealt with on the way. Repetitions are of single characters here, the lemma for them
(`admits_repeated`) by induction over the text: a turn either takes one more character or is the
last.

An expression that begins at the start of a line, where only the start of the text counts as one, is
found in a text exactly if the rest of it admits the text (`search_iff`).
-/

namespace Localization.Regex

variable {widths : Nat → Nat × Nat} {flags : Flags} {rest : List Goal} {steps : Nat}
  {P : Text → Prop} {p : CodePoint → Prop} {i : Item}

/-- The goals are met in front of a text exactly if it is in the class `P`, on paths of at most
`steps` goals and two more for each code point. -/
def Admits (widths : Nat → Nat × Nat) (gs : List Goal) (steps : Nat) (P : Text → Prop) : Prop :=
  ∀ (fuel : Nat) (before : List Nat) (t : Text) (caps : Captures), steps + 2 * t.length ≤ fuel →
    ((run widths fuel gs ⟨before, t.map CodePoint.toNat⟩ caps).isSome = true ↔ P t)

/-- Goals that admit a class admit an equal one. -/
theorem Admits.congr {gs : List Goal} {Q : Text → Prop} (h : Admits widths gs steps P)
    (hPQ : ∀ t, P t ↔ Q t) : Admits widths gs steps Q :=
  fun fuel before t caps hfuel => (h fuel before t caps hfuel).trans (hPQ t)

/-- More steps do no harm. -/
theorem Admits.mono {gs : List Goal} {more : Nat} (h : Admits widths gs steps P)
    (hle : steps ≤ more) : Admits widths gs more P :=
  fun fuel before t caps hfuel => h fuel before t caps (by omega)

/-- Without goals every text is admitted. -/
theorem admits_nil (widths : Nat → Nat × Nat) : Admits widths [] 1 fun _ => True := by
  intro fuel before t caps hfuel
  obtain ⟨fuel, rfl⟩ : ∃ n, fuel = n + 1 := ⟨fuel - 1, by omega⟩
  exact iff_of_true rfl trivial

/-! ## Characters -/

/-- An item takes one code point, of a class. -/
structure Takes (flags : Flags) (i : Item) (p : CodePoint → Prop) : Prop where
  nil (widths : Nat → Nat × Nat) (fuel : Nat) (rest : List Goal) (before : List Nat)
    (caps : Captures) : run widths (fuel + 1) (.item flags i :: rest) ⟨before, []⟩ caps = none
  here {c : CodePoint} (h : p c) (widths : Nat → Nat × Nat) (fuel : Nat) (rest : List Goal)
    (before after : List Nat) (caps : Captures) :
    run widths (fuel + 1) (.item flags i :: rest) ⟨before, c.toNat :: after⟩ caps =
      run widths fuel rest ⟨c.toNat :: before, after⟩ caps
  other {c : CodePoint} (h : ¬ p c) (widths : Nat → Nat × Nat) (fuel : Nat) (rest : List Goal)
    (before after : List Nat) (caps : Captures) :
    run widths (fuel + 1) (.item flags i :: rest) ⟨before, c.toNat :: after⟩ caps = none

/-- A set takes the code points that one of its members holds. -/
theorem takes_set {members : List SetItem}
    (h : ∀ c : CodePoint, (∃ m ∈ members, m.holds flags c.toNat = true) ↔ p c) :
    Takes flags (.set false members) p where
  nil _ _ _ _ _ := rfl
  here := by
    intro c hc widths fuel rest before after caps
    have hany : members.any (·.holds flags c.toNat) = true := List.any_eq_true.2 ((h c).2 hc)
    simp only [run, hany]
    rfl
  other := by
    intro c hc widths fuel rest before after caps
    have hany : members.any (·.holds flags c.toNat) = false :=
      Bool.eq_false_iff.2 fun hall => hc ((h c).1 (List.any_eq_true.1 hall))
    simp only [run, hany]
    rfl

/-- A point takes itself where case counts. -/
theorem takes_point (h : flags.ignoreCase = false) (d : CodePoint) :
    Takes flags (.point d.toNat) (· = d) where
  nil _ _ _ _ _ := rfl
  here := by
    rintro c rfl widths fuel rest before after caps
    simp [run, SetItem.holds, h]
  other := by
    intro c hc widths fuel rest before after caps
    have hne : c.toNat ≠ d.toNat := fun heq => hc (CodePoint.toNat_injective heq)
    simp [run, SetItem.holds, h, hne]

/-- A path over an item that takes one code point goes on after it. -/
theorem isSome_take (hi : Takes flags i p) (fuel : Nat) (before : List Nat) (t : Text)
    (caps : Captures) :
    (run widths fuel (.item flags i :: rest) ⟨before, t.map CodePoint.toNat⟩ caps).isSome = true ↔
      ∃ c t', t = c :: t' ∧ p c ∧
        (run widths (fuel - 1) rest ⟨c.toNat :: before, t'.map CodePoint.toNat⟩ caps).isSome =
          true := by
  cases fuel with
  | zero => simp [run]
  | succ fuel =>
    cases t with
    | nil => simp [hi.nil]
    | cons c t =>
      rw [List.map_cons]
      by_cases hc : p c
      · simp [hi.here hc, hc]
      · simp [hi.other hc, hc]

/-- An item that takes one code point admits a text by its first one. -/
theorem admits_take (hi : Takes flags i p) (h : Admits widths rest steps P) :
    Admits widths (.item flags i :: rest) steps fun t => ∃ c t', t = c :: t' ∧ p c ∧ P t' := by
  intro fuel before t caps hfuel
  rw [isSome_take hi]
  refine exists_congr fun c => exists_congr fun t' => and_congr_right fun ht => ?_
  subst ht
  rw [List.length_cons] at hfuel
  rw [h (fuel - 1) _ t' caps (by omega)]

/-- Characters one after the other admit the texts that start with them. -/
theorem admits_points (hcase : flags.ignoreCase = false) (lead : Text)
    (h : Admits widths rest steps P) :
    Admits widths (goals flags (lead.map fun c => .point c.toNat) ++ rest) steps
      fun t => ∃ t', t = lead ++ t' ∧ P t' := by
  induction lead with
  | nil => simpa [goals] using h
  | cons d lead ih =>
    refine (admits_take (takes_point hcase d) ih).congr fun t => ?_
    constructor
    · rintro ⟨c, t', rfl, rfl, t'', rfl, ht⟩
      exact ⟨t'', rfl, ht⟩
    · rintro ⟨t', rfl, ht⟩
      exact ⟨d, lead ++ t', rfl, rfl, t', rfl, ht⟩

/-! ## Places and choices -/

/-- The end of a line is the end of the text, or comes before a last line feed. -/
theorem admits_lineEnd (hlines : flags.multiline = false) (h : Admits widths rest steps P) :
    Admits widths (.item flags (.place .lineEnd) :: rest) (steps + 1)
      fun t => (t = [] ∨ t = [.scalar '\n']) ∧ P t := by
  intro fuel before t caps hfuel
  obtain ⟨fuel, rfl⟩ : ∃ n, fuel = n + 1 := ⟨fuel - 1, by omega⟩
  have hplace : Place.holds flags ⟨before, t.map CodePoint.toNat⟩ .lineEnd = true ↔
      t = [] ∨ t = [.scalar '\n'] := by
    have hfeed : t.map CodePoint.toNat = [10] ↔ t = [.scalar '\n'] :=
      ⟨fun heq => List.map_injective_iff.2 CodePoint.toNat_injective heq, fun heq => by
        rw [heq]
        rfl⟩
    simp [Place.holds, hlines, hfeed]
  change ((if Place.holds flags ⟨before, t.map CodePoint.toNat⟩ .lineEnd = true then
    run widths fuel rest ⟨before, t.map CodePoint.toNat⟩ caps else none).isSome = true) ↔
      (t = [] ∨ t = [.scalar '\n']) ∧ P t
  by_cases hend : Place.holds flags ⟨before, t.map CodePoint.toNat⟩ .lineEnd = true
  · rw [if_pos hend, h fuel before t caps (by omega), and_iff_right (hplace.1 hend)]
  · rw [if_neg hend]
    exact iff_of_false Bool.false_ne_true fun ht => hend (hplace.2 ht.1)

/-- A choice admits what one of its sequences admits. -/
theorem admits_branch {bodies : List (List Item)} {classes : List (Text → Prop)}
    (h : List.Forall₂ (fun body Q => Admits widths (goals flags body ++ rest) steps Q) bodies
      classes) :
    Admits widths (.item flags (.branch bodies) :: rest) (steps + 1)
      fun t => ∃ Q ∈ classes, Q t := by
  intro fuel before t caps hfuel
  obtain ⟨fuel, rfl⟩ : ∃ n, fuel = n + 1 := ⟨fuel - 1, by omega⟩
  change ((bodies.findSome? fun body => run widths fuel (goals flags body ++ rest)
    ⟨before, t.map CodePoint.toNat⟩ caps).isSome = true) ↔ ∃ Q ∈ classes, Q t
  induction h with
  | nil => simp
  | @cons body Q bodies classes hbody _ ih =>
    have hone := hbody fuel before t caps (by omega)
    simp only [List.mem_cons, exists_eq_or_imp]
    rw [← hone, ← ih, List.findSome?_cons]
    cases run widths fuel (goals flags body ++ rest) ⟨before, t.map CodePoint.toNat⟩ caps with
    | none => simp
    | some found => simp

/-! ## Repetitions -/

/-- A text starts with code points of a class, as many as the bounds want when `count` are there
already, and goes on with a text in `P`. -/
def Repeats (p : CodePoint → Prop) (least : Nat) (most : Option Nat) (P : Text → Prop)
    (count : Nat) (t : Text) : Prop :=
  ∃ taken t', t = taken ++ t' ∧ (∀ c ∈ taken, p c) ∧ least ≤ count + taken.length ∧
    (∀ m ∈ most, count + taken.length ≤ m) ∧ P t'

/-- A repetition ends, or takes one more code point. -/
theorem repeats_iff {least count : Nat} {most : Option Nat} {t : Text} :
    Repeats p least most P count t ↔ (least ≤ count ∧ (∀ m ∈ most, count ≤ m) ∧ P t) ∨
      ∃ c t', t = c :: t' ∧ p c ∧ Repeats p least most P (count + 1) t' := by
  constructor
  · rintro ⟨_ | ⟨c, taken⟩, t', rfl, hall, hleast, hmost, ht⟩
    · exact .inl ⟨hleast, hmost, ht⟩
    · obtain ⟨hc, hall⟩ := List.forall_mem_cons.1 hall
      rw [List.length_cons, Nat.add_comm taken.length, ← Nat.add_assoc] at hleast hmost
      exact .inr ⟨c, taken ++ t', rfl, hc, taken, t', rfl, hall, hleast, hmost, ht⟩
  · rintro (⟨hleast, hmost, ht⟩ | ⟨c, _, rfl, hc, taken, t', rfl, hall, hleast, hmost, ht⟩)
    · exact ⟨[], t, rfl, nofun, hleast, hmost, ht⟩
    · refine ⟨c :: taken, t', rfl, List.forall_mem_cons.2 ⟨hc, hall⟩, ?_, ?_, ht⟩
      · rw [List.length_cons]
        omega
      · intro m hm
        have := hmost m hm
        rw [List.length_cons]
        omega

/-- A turn of a greedy repetition that has come forward ends it where the least count is reached, or
goes through the body once more where the most is not. -/
theorem isSome_turn {least count : Nat} {most : Option Nat} {body : List Item} {last : Option Nat}
    {c : Cursor} (hbounds : ∀ m ∈ most, least ≤ m) (hlast : last ≠ some c.after.length)
    (fuel : Nat) (caps : Captures) :
    (run widths (fuel + 1) (.turn flags .greedy least most body count last :: rest) c
        caps).isSome = true ↔
      (least ≤ count ∧ (run widths fuel rest c caps).isSome = true) ∨
        (∀ m ∈ most, count < m) ∧ (run widths fuel (goals flags body ++
          .turn flags .greedy least most body (count + 1) (some c.after.length) :: rest) c
            caps).isSome = true := by
  set again := (run widths fuel (goals flags body ++
    .turn flags .greedy least most body (count + 1) (some c.after.length) :: rest) c caps)
  change (if count < least then again
    else if (most.any (· ≤ count) || last == some c.after.length) = true then
      run widths fuel rest c caps
    else again.orElse fun _ => run widths fuel rest c caps).isSome = true ↔ _
  by_cases hleast : count < least
  · have hmost : ∀ m ∈ most, count < m := fun m hm => hleast.trans_le (hbounds m hm)
    rw [if_pos hleast]
    exact ⟨fun h => .inr ⟨hmost, h⟩, fun h => h.elim (fun h => by omega) (·.2)⟩
  · have hleast' : least ≤ count := by omega
    have hfull : (most.any (· ≤ count) || last == some c.after.length) = true ↔
        ¬ ∀ m ∈ most, count < m := by
      rw [beq_false_of_ne hlast]
      cases most <;> simp
    rw [if_neg hleast]
    by_cases hmost : ∀ m ∈ most, count < m
    · rw [if_neg (by rwa [hfull, not_not])]
      rw [and_iff_right hleast', and_iff_right hmost]
      cases again with
      | none => simp
      | some found => simp
    · rw [if_pos (hfull.2 hmost)]
      exact ⟨fun h => .inl ⟨hleast', h⟩, fun h => h.elim (·.2) fun h => absurd h.1 hmost⟩

/-- A repetition of one character, from one of its turns on. -/
theorem isSome_turns (hi : Takes flags i p) (h : Admits widths rest steps P) {least : Nat}
    {most : Option Nat} (hbounds : ∀ m ∈ most, least ≤ m) (t : Text) :
    ∀ (count : Nat) (last : Option Nat) (fuel : Nat) (before : List Nat) (caps : Captures),
      steps + 1 + 2 * t.length ≤ fuel → last ≠ some t.length → (∀ m ∈ most, count ≤ m) →
      ((run widths fuel (.turn flags .greedy least most [i] count last :: rest)
        ⟨before, t.map CodePoint.toNat⟩ caps).isSome = true ↔ Repeats p least most P count t) := by
  induction hlen : t.length using Nat.strong_induction_on generalizing t with
  | _ n ih =>
    subst hlen
    intro count last fuel before caps hfuel hlast hcount
    obtain ⟨fuel, rfl⟩ : ∃ n, fuel = n + 1 := ⟨fuel - 1, by omega⟩
    rw [isSome_turn hbounds (by simpa using hlast), repeats_iff]
    refine or_congr ?_ ?_
    · rw [h fuel before t caps (by omega)]
      exact and_congr_right fun _ => (and_iff_right hcount).symm
    · change _ ∧ (run widths fuel (.item flags i :: _) _ caps).isSome = true ↔ _
      rw [isSome_take hi]
      constructor
      · rintro ⟨hmore, c, t', rfl, hc, hrun⟩
        rw [List.length_cons] at hfuel
        exact ⟨c, t', rfl, hc, (ih t'.length (by simp) t' rfl (count + 1) _ _ _ _ (by omega)
          (by simp) hmore).1 hrun⟩
      · rintro ⟨c, t', rfl, hc, hrep⟩
        have hmore : ∀ m ∈ most, count < m := by
          obtain ⟨taken, _, _, _, _, hmost, _⟩ := hrep
          intro m hm
          have := hmost m hm
          omega
        rw [List.length_cons] at hfuel
        exact ⟨hmore, c, t', rfl, hc, (ih t'.length (by simp) t' rfl (count + 1) _ _ _ _ (by omega)
          (by simp) hmore).2 hrep⟩

/-- A greedy repetition of one character admits a text by as many of its code points as it wants,
followed by what the rest admits. -/
theorem admits_repeated (hi : Takes flags i p) {least : Nat} {most : Option Nat}
    (hbounds : ∀ m ∈ most, least ≤ m) (h : Admits widths rest steps P) :
    Admits widths (.item flags (.repeated .greedy least most [i]) :: rest) (steps + 2)
      (Repeats p least most P 0) := by
  intro fuel before t caps hfuel
  obtain ⟨fuel, rfl⟩ : ∃ n, fuel = n + 1 := ⟨fuel - 1, by omega⟩
  exact isSome_turns hi h hbounds t 0 none fuel before caps (by omega) (by simp) (by simp)

/-! ## Searching -/

/-- Past the start of a text no path begins with the start of a line. -/
theorem searchFrom_lineStart {r : Regex} {items : List Item}
    (hitems : r.items = .place .lineStart :: items) (hlines : r.flags.multiline = false)
    (fuel : Nat) (after : List Nat) :
    ∀ before ≠ [], searchFrom r fuel before after = false := by
  have hrun : ∀ before ≠ [], ∀ after caps,
      run (fun g => r.groups.getD g (0, 0)) fuel (goals r.flags r.items) ⟨before, after⟩ caps =
        none := by
    intro before hbefore after caps
    cases fuel with
    | zero => rfl
    | succ fuel =>
      have hplace : Place.holds r.flags ⟨before, after⟩ .lineStart = false := by
        simp [Place.holds, hlines, hbefore]
      rw [hitems]
      change (if Place.holds r.flags ⟨before, after⟩ .lineStart = true then _ else none) = none
      rw [hplace, if_neg Bool.false_ne_true]
  induction after with
  | nil =>
    intro before hbefore
    rw [searchFrom, hrun before hbefore]
    rfl
  | cons n after ih =>
    intro before hbefore
    rw [searchFrom, hrun before hbefore, ih (n :: before) (by simp)]
    rfl

/-- An expression for the start of a text finds one exactly if the rest of it admits the text. -/
theorem search_iff {r : Regex} {items : List Item}
    (hitems : r.items = .place .lineStart :: items) (hlines : r.flags.multiline = false)
    (h : Admits (fun g => r.groups.getD g (0, 0)) (goals r.flags items) steps P)
    (hsteps : steps ≤ 2 * extentOf r.items + 5) (t : Text) : r.search t = true ↔ P t := by
  obtain ⟨fuel, hfuel⟩ : ∃ n, (extentOf r.items + 2) * (t.length + 2) + 2 = n + 1 := ⟨_, rfl⟩
  have hmet : (run (fun g => r.groups.getD g (0, 0)) (fuel + 1) (goals r.flags r.items)
      ⟨[], t.map CodePoint.toNat⟩ []).isSome = true ↔ P t := by
    rw [hitems]
    refine h fuel [] t [] ?_
    have : 2 * t.length ≤ (extentOf r.items + 2) * t.length :=
      Nat.mul_le_mul_right _ (by omega)
    rw [Nat.mul_add] at hfuel
    omega
  rw [search, hfuel, ← hmet]
  cases t with
  | nil => rfl
  | cons c t =>
    rw [List.map_cons, searchFrom, searchFrom_lineStart hitems hlines _ _ _ (by simp),
      Bool.or_false]

/-- From a place on an expression is found if what stands from there on, or later, is admitted. -/
theorem searchFrom_iff {r : Regex}
    (h : Admits (fun g => r.groups.getD g (0, 0)) (goals r.flags r.items) steps P) {fuel : Nat}
    {t : Text} (hfuel : steps + 2 * t.length ≤ fuel) (before : List Nat) :
    searchFrom r fuel before (t.map CodePoint.toNat) = true ↔ ∃ u v, t = u ++ v ∧ P v := by
  induction t generalizing before with
  | nil =>
    rw [List.map_nil, searchFrom]
    refine (h fuel before [] [] hfuel).trans ⟨fun hp => ⟨[], [], rfl, hp⟩, ?_⟩
    rintro ⟨u, v, huv, hv⟩
    rwa [(List.append_eq_nil_iff.1 huv.symm).2] at hv
  | cons c t ih =>
    have hhere := h fuel before (c :: t) [] hfuel
    rw [List.length_cons] at hfuel
    rw [List.map_cons] at hhere ⊢
    rw [searchFrom, Bool.or_eq_true, hhere, ih (by omega)]
    constructor
    · rintro (hp | ⟨u, v, rfl, hv⟩)
      · exact ⟨[], c :: t, rfl, hp⟩
      · exact ⟨c :: u, v, rfl, hv⟩
    · rintro ⟨_ | ⟨d, u⟩, v, huv, hv⟩
      · obtain rfl : c :: t = v := huv
        exact .inl hv
      · exact .inr ⟨u, v, (List.cons.inj huv).2, hv⟩

/-- **An expression is found** in a text exactly if it admits what stands somewhere in it. -/
theorem search_somewhere {r : Regex}
    (h : Admits (fun g => r.groups.getD g (0, 0)) (goals r.flags r.items) steps P)
    (hsteps : steps ≤ 2 * extentOf r.items + 6) (t : Text) :
    r.search t = true ↔ ∃ u v, t = u ++ v ∧ P v := by
  refine searchFrom_iff h ?_ []
  have : 2 * t.length ≤ (extentOf r.items + 2) * t.length := Nat.mul_le_mul_right _ (by omega)
  rw [Nat.mul_add]
  omega

end Localization.Regex
