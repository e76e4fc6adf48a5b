import Localization.Json.Reader
import Localization.Proofs.Text.Order

/-!
# The numbers of documents

A number is a sign, digits without a superfluous zero in front, a fraction and an exponent, of which
all but the digits may be missing. The grammar says what a text starts with and what follows; it may
stop anywhere, so the first digits of a longer number are a number, too. What is read is a number of
the grammar, and only an integer of more than 4300 digits is refused although it is one
(`readNumber_numeral`). In turn, both are dealt with where they stand if nothing that follows goes
on with them (`Numeral.exists_readNumber`, `Overlong.exists_readNumber`).
-/

namespace Localization.Json

/-! ## The grammar of numbers -/

/-- The decimal digits with their values. -/
def decimalDigits : List (CodePoint × Nat) := (Text.ofString "0123456789").zipIdx

/-- A row of digits at the start of a text, their values, and what follows. -/
inductive Digits : Text → List Nat → Text → Prop where
  | none {t : Text} : Digits t [] t
  | more {c : CodePoint} {value : Nat} {t rest : Text} {ds : List Nat} :
    (c, value) ∈ decimalDigits → Digits t ds rest → Digits (c :: t) (value :: ds) rest

/-- A minus sign, or none. -/
inductive Sign : Text → Bool → Text → Prop where
  | none {t : Text} : Sign t false t
  | minus {t : Text} : Sign (.scalar '-' :: t) true t

/-- The digits in front of a fraction: at least one, and a zero only by itself. -/
def Whole (t : Text) (ds : List Nat) (rest : Text) : Prop :=
  Digits t ds rest ∧ ds ≠ [] ∧ (ds.head? = some 0 → ds = [0])

/-- A point with digits, or none. -/
inductive Fraction : Text → List Nat → Text → Prop where
  | none {t : Text} : Fraction t [] t
  | point {t rest : Text} {ds : List Nat} : Digits t ds rest → ds ≠ [] →
    Fraction (.scalar '.' :: t) ds rest

/-- The number with a sign. -/
def signed (negative : Bool) (n : Nat) : Int := if negative then -n else n

/-- A sign in an exponent, which may also be a plus sign. -/
inductive ExponentSign : Text → Bool → Text → Prop where
  | sign {t rest : Text} {negative : Bool} : Sign t negative rest → ExponentSign t negative rest
  | plus {t : Text} : ExponentSign (.scalar '+' :: t) false t

/-- An exponent, or none. -/
inductive Exponent : Text → Option Int → Text → Prop where
  | none {t : Text} : Exponent t .none t
  | mark {c : CodePoint} {t u rest : Text} {negative : Bool} {ds : List Nat} :
    c = .scalar 'e' ∨ c = .scalar 'E' → ExponentSign t negative u → Digits u ds rest → ds ≠ [] →
    Exponent (c :: t) (some (signed negative (Text.fromDigits 10 ds))) rest

/-- A number at the start of a text, its value, and what follows. Without a fraction and an exponent
it is an integer, which has at most 4300 digits. -/
inductive Numeral : Text → Json → Text → Prop where
  | int {t u rest : Text} {negative : Bool} {ds : List Nat} : Sign t negative u → Whole u ds rest →
    ds.length ≤ 4300 → Numeral t (.int (signed negative (Text.fromDigits 10 ds))) rest
  | float {t u v w rest : Text} {negative : Bool} {ds part : List Nat} {e : Option Int} :
    Sign t negative u → Whole u ds v → Fraction v part w → Exponent w e rest →
    part ≠ [] ∨ e ≠ none →
    Numeral t (.float (.ofDecimal negative (Text.fromDigits 10 (ds ++ part))
      (e.getD 0 - part.length))) rest

/-- What does not go on with a number. -/
structure Stops (t : Text) : Prop where
  digits : ∀ ds rest, Digits t ds rest → ds = []
  fraction : ∀ ds rest, Fraction t ds rest → ds = []
  exponent : ∀ e rest, Exponent t e rest → e = none

/-- An integer of more than 4300 digits at the start of a text. -/
def Overlong (t : Text) : Prop :=
  ∃ negative u ds rest, Sign t negative u ∧ Whole u ds rest ∧ 4300 < ds.length ∧ Stops rest

/-! ## Parts of a number -/

/-- The sign that is read, and what follows. -/
def signOf : Text → Bool × Text
  | .scalar '-' :: t => (true, t)
  | t => (false, t)

/-- The digits in front of a fraction that are read. -/
def wholeOf (t : Text) : List Nat :=
  match leadingDigits t with
  | 0 :: _ => [0]
  | ds => ds

/-- The digits of a fraction that are read. -/
def partOf (t : Text) : List Nat :=
  match t with
  | .scalar '.' :: t => leadingDigits t
  | _ => []

/-- The sign of an exponent that is read, what follows, and the length of the sign. -/
def exponentSignOf : Text → Bool × Text × Nat
  | .scalar '-' :: u => (true, u, 1)
  | .scalar '+' :: u => (false, u, 1)
  | u => (false, u, 0)

/-- The exponent that is read: its sign, its digits and its length. -/
def exponentOf (t : Text) : Bool × List Nat × Nat :=
  match t with
  | .scalar 'e' :: t | .scalar 'E' :: t =>
    let (neg, body, sign) := exponentSignOf t
    let ds := leadingDigits body
    if ds.isEmpty then (false, [], 0) else (neg, ds, 1 + sign + ds.length)
  | _ => (false, [], 0)

/-- What follows the fraction that is read. -/
def afterPart (t : Text) : Text :=
  t.drop (if (partOf t).isEmpty then 0 else (partOf t).length + 1)

/-- The value of the exponent that is read. -/
def exponentValue (t : Text) : Option Int :=
  if (exponentOf t).2.1.isEmpty then none
  else some (signed (exponentOf t).1 (Text.fromDigits 10 (exponentOf t).2.1))

/-- What follows the exponent that is read. -/
def afterExponent (t : Text) : Text := t.drop (exponentOf t).2.2

/-! ## Digits -/

/-- The table of digits is what `asciiDigit?` reads. -/
theorem mem_decimalDigits {c : CodePoint} {value : Nat} :
    (c, value) ∈ decimalDigits ↔ c.asciiDigit? = some value := by
  refine CodePoint.mem_table_iff (fun c v h => ?_) (by decide) (by decide)
  unfold CodePoint.asciiDigit? CodePoint.isAsciiDigit at h
  grind

/-- What is in the table of digits is a digit. -/
theorem isAsciiDigit_of_mem {c : CodePoint} {value : Nat} (h : (c, value) ∈ decimalDigits) :
    c.isAsciiDigit = true := by
  have hvalue := mem_decimalDigits.1 h
  by_contra hnot
  rw [CodePoint.asciiDigit?, if_neg hnot] at hvalue
  cases hvalue

/-- A digit in front is the first of the leading digits. -/
theorem leadingDigits_cons {c : CodePoint} {value : Nat} (h : (c, value) ∈ decimalDigits)
    (t : Text) : leadingDigits (c :: t) = value :: leadingDigits t := by
  rw [leadingDigits, List.takeWhile_cons_of_pos (isAsciiDigit_of_mem h), List.filterMap_cons,
    mem_decimalDigits.1 h]
  rfl

/-- The digits that are read at the start of a text are there. -/
theorem digits_leadingDigits (t : Text) :
    Digits t (leadingDigits t) (t.drop (leadingDigits t).length) := by
  induction t with
  | nil => exact .none
  | cons c t ih =>
    cases hvalue : c.asciiDigit? with
    | some value =>
      have hmem := mem_decimalDigits.2 hvalue
      rw [leadingDigits_cons hmem]
      exact .more hmem ih
    | none =>
      have hdigit : c.isAsciiDigit = false := by
        by_contra hdigit
        rw [CodePoint.asciiDigit?, if_pos (by simpa using hdigit)] at hvalue
        cases hvalue
      rw [leadingDigits, List.takeWhile_cons_of_neg (by simp [hdigit])]
      exact .none

/-- A row of digits is read first, whatever follows it. -/
theorem Digits.leadingDigits_eq {t rest : Text} {ds : List Nat} (h : Digits t ds rest) :
    leadingDigits t = ds ++ leadingDigits rest ∧ t.drop ds.length = rest := by
  induction h with
  | none => exact ⟨rfl, rfl⟩
  | more hc _ ih =>
    rw [leadingDigits_cons hc, ih.1]
    exact ⟨rfl, ih.2⟩

/-- A row of digits is read up to where no digit follows. -/
theorem Digits.leadingDigits_of_end {t rest : Text} {ds : List Nat} (h : Digits t ds rest)
    (hend : ∀ ds' u, Digits rest ds' u → ds' = []) : leadingDigits t = ds := by
  rw [h.leadingDigits_eq.1, hend _ _ (digits_leadingDigits rest), List.append_nil]

/-! ## Reading the parts -/

/-- The sign that is read is the one that stands there. -/
theorem sign_signOf (t : Text) : Sign t (signOf t).1 (signOf t).2 ∧
    (signOf t).2 = t.drop (if (signOf t).1 then 1 else 0) := by
  unfold signOf
  split
  · exact ⟨.minus, rfl⟩
  · exact ⟨.none, rfl⟩

/-- The digits that are read in front of a fraction are the ones that stand there. -/
theorem whole_wholeOf {t : Text} (h : wholeOf t ≠ []) :
    Whole t (wholeOf t) (t.drop (wholeOf t).length) := by
  have hdigits := digits_leadingDigits t
  unfold wholeOf at h ⊢
  split at h
  next ds hds =>
    rw [hds] at hdigits
    cases hdigits with
    | more hc _ => exact ⟨.more hc .none, List.cons_ne_nil _ _, fun _ => rfl⟩
  next hzero =>
    refine ⟨hdigits, h, fun hhead => ?_⟩
    obtain ⟨ds, hds⟩ := List.head?_eq_some_iff.1 hhead
    exact absurd hds (hzero ds)

/-- The fraction that is read is the one that stands there. -/
theorem fraction_partOf (t : Text) : Fraction t (partOf t) (afterPart t) := by
  unfold afterPart partOf
  split
  next t =>
    split
    next hempty =>
      rw [List.isEmpty_iff.1 hempty]
      exact .none
    next hempty =>
      exact .point (digits_leadingDigits t) fun hnil => hempty (List.isEmpty_iff.2 hnil)
  next => exact .none

/-- The sign of an exponent that is read is the one that stands there. -/
theorem exponentSign_exponentSignOf (t : Text) :
    ExponentSign t (exponentSignOf t).1 (exponentSignOf t).2.1 ∧
      (exponentSignOf t).2.1 = t.drop (exponentSignOf t).2.2 := by
  unfold exponentSignOf
  split
  · exact ⟨.sign .minus, rfl⟩
  · exact ⟨.plus, rfl⟩
  · exact ⟨.sign .none, rfl⟩

/-- The letter of an exponent counts only with a digit behind it. -/
theorem exponentOf_cons {c : CodePoint} (hc : c = .scalar 'e' ∨ c = .scalar 'E') (t : Text) :
    exponentOf (c :: t) =
      if (leadingDigits (exponentSignOf t).2.1).isEmpty then (false, [], 0)
      else ((exponentSignOf t).1, leadingDigits (exponentSignOf t).2.1,
        1 + (exponentSignOf t).2.2 + (leadingDigits (exponentSignOf t).2.1).length) := by
  rcases hc with rfl | rfl <;> rfl

/-- The exponent that is read is the one that stands there. -/
theorem exponent_exponentOf (t : Text) : Exponent t (exponentValue t) (afterExponent t) := by
  unfold exponentValue afterExponent
  by_cases hmark : ∃ c u, t = c :: u ∧ (c = .scalar 'e' ∨ c = .scalar 'E')
  · obtain ⟨c, u, rfl, hc⟩ := hmark
    rw [exponentOf_cons hc]
    split
    next => exact .none
    next hempty =>
      obtain ⟨hsign, hbody⟩ := exponentSign_exponentSignOf u
      have hdigits := digits_leadingDigits (exponentSignOf u).2.1
      have hdrop : (c :: u).drop (1 + (exponentSignOf u).2.2 +
          (leadingDigits (exponentSignOf u).2.1).length) =
          (exponentSignOf u).2.1.drop (leadingDigits (exponentSignOf u).2.1).length := by
        rw [hbody, List.drop_drop, Nat.add_assoc, Nat.add_comm 1, List.drop_succ_cons]
      rw [hdrop]
      exact .mark hc hsign hdigits fun hnil => hempty (List.isEmpty_iff.2 hnil)
  · have hnone : exponentOf t = (false, [], 0) := by
      unfold exponentOf
      split
      · exact absurd ⟨_, _, rfl, .inl rfl⟩ hmark
      · exact absurd ⟨_, _, rfl, .inr rfl⟩ hmark
      · rfl
    rw [hnone]
    exact .none

/-- No exponent takes nothing of the text. -/
theorem Exponent.eq_of_none {t rest : Text} (h : Exponent t .none rest) : rest = t := by
  cases h
  rfl

/-- No fraction takes nothing of the text. -/
theorem Fraction.eq_of_nil {t rest : Text} (h : Fraction t [] rest) : rest = t := by
  cases h with
  | none => rfl
  | point _ hne => exact absurd rfl hne

/-- An exponent that is left out counts as zero. -/
theorem getD_exponentValue (t : Text) : (exponentValue t).getD 0 =
    signed (exponentOf t).1 (Text.fromDigits 10 (exponentOf t).2.1) := by
  unfold exponentValue
  split
  next hempty =>
    rw [List.isEmpty_iff.1 hempty]
    cases (exponentOf t).1 <;> rfl
  next => rfl

/-! ## The parts that are there -/

section

variable {t u rest : Text} {negative : Bool} {ds : List Nat}

/-- A row of digits that is not empty begins with a digit. -/
theorem Digits.exists_cons (h : Digits t ds rest) (hne : ds ≠ []) :
    ∃ c u, t = c :: u ∧ c.isAsciiDigit = true := by
  cases h with
  | none => exact absurd rfl hne
  | more hc _ => exact ⟨_, _, rfl, isAsciiDigit_of_mem hc⟩

/-- A sign is read in front of digits. -/
theorem Sign.signOf_eq (h : Sign t negative u) (hdigits : Digits u ds rest) (hne : ds ≠ []) :
    signOf t = (negative, u) := by
  cases h with
  | minus => rfl
  | none =>
    obtain ⟨c, u, rfl, hc⟩ := hdigits.exists_cons hne
    unfold signOf
    split
    next heq =>
      cases heq
      cases hc
    next => rfl

/-- The sign of an exponent is read in front of digits. -/
theorem ExponentSign.exponentSignOf_eq (h : ExponentSign t negative u) (hdigits : Digits u ds rest)
    (hne : ds ≠ []) : (exponentSignOf t).1 = negative ∧ (exponentSignOf t).2.1 = u := by
  cases h with
  | plus => exact ⟨rfl, rfl⟩
  | sign hsign =>
    cases hsign with
    | minus => exact ⟨rfl, rfl⟩
    | none =>
      obtain ⟨c, u, rfl, hc⟩ := hdigits.exists_cons hne
      unfold exponentSignOf
      split
      next heq =>
        cases heq
        cases hc
      next heq =>
        cases heq
        cases hc
      next => exact ⟨rfl, rfl⟩

/-- The digits in front of a fraction are read up to where no digit follows. -/
theorem Whole.wholeOf_eq (h : Whole t ds rest) (hend : ∀ ds' u, Digits rest ds' u → ds' = []) :
    wholeOf t = ds := by
  obtain ⟨hdigits, -, hzero⟩ := h
  rw [wholeOf, hdigits.leadingDigits_of_end hend]
  split
  next ds' => exact (hzero rfl).symm
  next => rfl

/-- A fraction is read up to where no digit follows, and none where there is none. -/
theorem Fraction.partOf_eq {v : Text} (h : Fraction t ds v)
    (hend : ∀ ds' u, Digits v ds' u → ds' = []) (hnone : ∀ ds' u, Fraction v ds' u → ds' = []) :
    partOf t = ds ∧ afterPart t = v := by
  have hread := fraction_partOf t
  cases h with
  | none =>
    have hpart := hnone _ _ hread
    rw [hpart] at hread
    exact ⟨hpart, hread.eq_of_nil⟩
  | point hdigits hne =>
    have hpart := hdigits.leadingDigits_of_end hend
    rw [afterPart, partOf, hpart, if_neg (mt List.isEmpty_iff.1 hne), List.drop_succ_cons]
    exact ⟨rfl, hdigits.leadingDigits_eq.2⟩

/-- An exponent is read up to where no digit follows, and none where there is none. -/
theorem Exponent.exponentValue_eq {e : Option Int} (h : Exponent t e rest)
    (hend : ∀ ds' u, Digits rest ds' u → ds' = [])
    (hnone : ∀ e' u, Exponent rest e' u → e' = .none) :
    exponentValue t = e ∧ afterExponent t = rest := by
  have hread := exponent_exponentOf t
  cases h with
  | none =>
    have hvalue := hnone _ _ hread
    rw [hvalue] at hread
    exact ⟨hvalue, hread.eq_of_none⟩
  | @mark c t u rest negative ds hc hsign hdigits hne =>
    obtain ⟨hnegative, hbody⟩ := hsign.exponentSignOf_eq hdigits hne
    have hrest := (exponentSign_exponentSignOf t).2
    have hempty : ¬ _ = true := mt List.isEmpty_iff.1 hne
    rw [exponentValue, afterExponent, exponentOf_cons hc, hbody, hnegative,
      hdigits.leadingDigits_of_end hend, if_neg hempty, if_neg hempty]
    refine ⟨rfl, ?_⟩
    rw [hbody] at hrest
    rw [← hdigits.leadingDigits_eq.2, hrest, List.drop_drop, Nat.add_assoc, Nat.add_comm 1,
      List.drop_succ_cons]

/-- No digit and no fraction stands where an exponent does. -/
theorem Exponent.stops {e : Option Int} (h : Exponent t e rest) (hstops : Stops rest) :
    (∀ ds' u, Digits t ds' u → ds' = []) ∧ ∀ ds' u, Fraction t ds' u → ds' = [] := by
  cases h with
  | none => exact ⟨hstops.digits, hstops.fraction⟩
  | mark hc _ _ _ =>
    refine ⟨fun ds' u hdigits => ?_, fun ds' u hpart => ?_⟩
    · by_contra hne
      obtain ⟨c, u, heq, hdigit⟩ := hdigits.exists_cons hne
      cases heq
      rcases hc with rfl | rfl <;> cases hdigit
    · cases hpart with
      | none => rfl
      | point _ _ => rcases hc with hc | hc <;> cases hc

/-- No digit stands where a fraction does. -/
theorem Fraction.no_digits {v : Text} {part : List Nat} (h : Fraction t part v)
    (hend : ∀ ds' u, Digits v ds' u → ds' = []) : ∀ ds' u, Digits t ds' u → ds' = [] := by
  cases h with
  | none => exact hend
  | point _ _ =>
    intro ds' u hdigits
    by_contra hne
    obtain ⟨c, u, heq, hdigit⟩ := hdigits.exists_cons hne
    cases heq
    cases hdigit

end

/-! ## Numbers -/

/-- A number is read part by part. -/
theorem readNumber_eq (cur : Cursor) : readNumber cur =
    (let s := signOf cur.rest
    let whole := wholeOf s.2
    if whole.isEmpty then cur.fail .expectedValue
    else
      let afterWhole := s.2.drop whole.length
      let part := partOf afterWhole
      let partLength := if part.isEmpty then 0 else part.length + 1
      let e := exponentOf (afterWhole.drop partLength)
      let length := (if s.1 then 1 else 0) + whole.length + partLength + e.2.2
      if part.isEmpty && e.2.1.isEmpty then
        if 4300 < whole.length then cur.fail (.oversizedInteger whole.length)
        else .ok (.int (signed s.1 (Text.fromDigits 10 whole)), cur.advance length)
      else .ok (.float (.ofDecimal s.1 (Text.fromDigits 10 (whole ++ part))
        (signed e.1 (Text.fromDigits 10 e.2.1) - part.length)), cur.advance length)) := by
  unfold readNumber
  rfl

section

variable (place : Nat) (t : Text)

/-- What reading a number comes to: a refusal, an integer, or a number with a fraction or an
exponent, and then what follows it. -/
theorem readNumber_cases {u v w : Text} {whole : List Nat} (hu : (signOf t).2 = u)
    (hwhole : wholeOf u = whole) (hv : u.drop whole.length = v) (hw : afterPart v = w) :
    (whole = [] → readNumber ⟨place, t⟩ = .error ⟨.expectedValue, place⟩) ∧
    (whole ≠ [] → partOf v = [] → exponentValue w = none →
      (4300 < whole.length →
        readNumber ⟨place, t⟩ = .error ⟨.oversizedInteger whole.length, place⟩) ∧
      (whole.length ≤ 4300 → ∃ n, readNumber ⟨place, t⟩ =
        .ok (.int (signed (signOf t).1 (Text.fromDigits 10 whole)), ⟨n, afterExponent w⟩))) ∧
    (whole ≠ [] → partOf v ≠ [] ∨ exponentValue w ≠ none → ∃ n, readNumber ⟨place, t⟩ =
      .ok (.float (.ofDecimal (signOf t).1 (Text.fromDigits 10 (whole ++ partOf v))
        ((exponentValue w).getD 0 - (partOf v).length)), ⟨n, afterExponent w⟩)) := by
  have hdrop : t.drop ((if (signOf t).1 then 1 else 0) + whole.length +
      (if (partOf v).isEmpty then 0 else (partOf v).length + 1) + (exponentOf w).2.2) =
      afterExponent w := by
    rw [afterExponent, ← hw, afterPart, ← hv, ← hu, (sign_signOf t).2, List.drop_drop,
      List.drop_drop, List.drop_drop]
  have hempty : ∀ {ds : List Nat}, ds ≠ [] → ¬ ds.isEmpty = true := fun h => mt List.isEmpty_iff.1 h
  have hafter : v.drop (if (partOf v).isEmpty then 0 else (partOf v).length + 1) = w := hw
  rw [readNumber_eq]
  dsimp only
  rw [hu, hwhole, hv, hafter]
  refine ⟨fun h => by rw [h]; rfl, fun hne hpart hexponent => ?_, fun hne hparts => ?_⟩
  · have hnone : (exponentOf w).2.1.isEmpty = true := by
      by_contra hsome
      rw [exponentValue, if_neg hsome] at hexponent
      cases hexponent
    rw [if_neg (hempty hne), if_pos (by rw [hpart, hnone]; rfl)]
    refine ⟨fun hlong => if_pos hlong, fun hshort => ?_⟩
    rw [if_neg (Nat.not_lt.2 hshort), Cursor.advance, hdrop]
    exact ⟨_, rfl⟩
  · have hsome : ¬ ((partOf v).isEmpty && (exponentOf w).2.1.isEmpty) = true := by
      rw [Bool.and_eq_true, List.isEmpty_iff]
      rintro ⟨hpart, hnone⟩
      rcases hparts with h | h
      · exact h hpart
      · exact h (by rw [exponentValue, if_pos hnone])
    rw [if_neg (hempty hne), if_neg hsome, Cursor.advance, hdrop, getD_exponentValue]
    exact ⟨_, rfl⟩

end

/-- Nothing goes on with a number where no part of one is read. -/
theorem stops_iff {t : Text} :
    Stops t ↔ leadingDigits t = [] ∧ partOf t = [] ∧ exponentValue t = none := by
  constructor
  · rintro ⟨hdigits, hpart, hexponent⟩
    exact ⟨hdigits _ _ (digits_leadingDigits t), hpart _ _ (fraction_partOf t),
      hexponent _ _ (exponent_exponentOf t)⟩
  · rintro ⟨hdigits, hpart, hexponent⟩
    refine ⟨fun ds rest h => ?_, fun ds rest h => ?_, fun e rest h => ?_⟩
    · rw [h.leadingDigits_eq.1] at hdigits
      exact (List.append_eq_nil_iff.1 hdigits).1
    · cases h with
      | none => rfl
      | point h _ =>
        rw [partOf, h.leadingDigits_eq.1] at hpart
        exact (List.append_eq_nil_iff.1 hpart).1
    · cases h with
      | none => rfl
      | mark hc hsign h hne =>
        obtain ⟨-, hbody⟩ := hsign.exponentSignOf_eq h hne
        rw [exponentValue, exponentOf_cons hc, hbody, h.leadingDigits_eq.1] at hexponent
        simp [hne] at hexponent

/-- More than one digit in front of a fraction are all that there are. -/
theorem wholeOf_eq_leadingDigits {t : Text} (h : 1 < (wholeOf t).length) :
    wholeOf t = leadingDigits t := by
  unfold wholeOf at h ⊢
  split
  next ds hds =>
    rw [hds] at h
    exact absurd h (Nat.lt_irrefl 1)
  next => rfl

/-- **What is read of a number is a number**; else an integer is refused for its length, or there is
no number. -/
theorem readNumber_numeral (place : Nat) (t : Text) :
    (∃ j n rest, readNumber ⟨place, t⟩ = .ok (j, ⟨n, rest⟩) ∧ Numeral t j rest) ∨
    (∃ k, readNumber ⟨place, t⟩ = .error ⟨.oversizedInteger k, place⟩ ∧ Overlong t) ∨
    readNumber ⟨place, t⟩ = .error ⟨.expectedValue, place⟩ := by
  obtain ⟨hnone, hint, hfloat⟩ := readNumber_cases place t rfl rfl rfl rfl
  have hsign := (sign_signOf t).1
  generalize hu : (signOf t).2 = u at hsign hnone hint hfloat
  generalize hw : wholeOf u = whole at hnone hint hfloat
  generalize hv : u.drop whole.length = v at hint hfloat
  by_cases hempty : whole = []
  · exact .inr (.inr (hnone hempty))
  have hwhole : Whole u whole v := by
    rw [← hv, ← hw]
    exact whole_wholeOf (hw.symm ▸ hempty)
  have hpart := fraction_partOf v
  have hexponent := exponent_exponentOf (afterPart v)
  by_cases hparts : partOf v = [] ∧ exponentValue (afterPart v) = none
  · obtain ⟨hlong, hshort⟩ := hint hempty hparts.1 hparts.2
    rw [hparts.1] at hpart
    have hafter := hpart.eq_of_nil
    rw [hparts.2, hafter] at hexponent
    rcases Nat.lt_or_ge 4300 whole.length with hlength | hlength
    · refine .inr (.inl ⟨_, hlong hlength, _, u, whole, v, hsign, hwhole, hlength, ?_⟩)
      have hall := wholeOf_eq_leadingDigits (t := u) (by rw [hw]; omega)
      rw [hw, hwhole.1.leadingDigits_eq.1, List.self_eq_append_right] at hall
      exact stops_iff.2 ⟨hall, hparts.1, hafter ▸ hparts.2⟩
    · obtain ⟨n, hread⟩ := hshort hlength
      rw [hafter, hexponent.eq_of_none] at hread
      exact .inl ⟨_, n, v, hread, .int hsign hwhole hlength⟩
  · rw [not_and_or] at hparts
    obtain ⟨n, hread⟩ := hfloat hempty hparts
    exact .inl ⟨_, n, _, hread, .float hsign hwhole hpart hexponent hparts⟩

/-- **A number is read**, if nothing that follows goes on with it. -/
theorem Numeral.exists_readNumber {t rest : Text} {j : Json} (h : Numeral t j rest)
    (hstops : Stops rest) (place : Nat) :
    ∃ n, readNumber ⟨place, t⟩ = .ok (j, ⟨n, rest⟩) := by
  cases h with
  | int hsign hwhole hlength =>
    have hu := hsign.signOf_eq hwhole.1 hwhole.2.1
    obtain ⟨hpart, hexponent⟩ := (stops_iff.1 hstops).2
    obtain ⟨-, hafter⟩ := Fraction.none.partOf_eq hstops.digits hstops.fraction
    obtain ⟨-, hend⟩ := Exponent.none.exponentValue_eq hstops.digits hstops.exponent
    obtain ⟨-, hint, -⟩ := readNumber_cases place t (by rw [hu])
      (hwhole.wholeOf_eq hstops.digits) hwhole.1.leadingDigits_eq.2 hafter
    have hread := (hint hwhole.2.1 hpart hexponent).2 hlength
    rwa [hu, hend] at hread
  | float hsign hwhole hfraction hexponent hparts =>
    have hu := hsign.signOf_eq hwhole.1 hwhole.2.1
    obtain ⟨hdigits, hnone⟩ := hexponent.stops hstops
    obtain ⟨hpart, hafter⟩ := hfraction.partOf_eq hdigits hnone
    obtain ⟨hvalue, hend⟩ := hexponent.exponentValue_eq hstops.digits hstops.exponent
    obtain ⟨-, -, hfloat⟩ := readNumber_cases place t (by rw [hu])
      (hwhole.wholeOf_eq (hfraction.no_digits hdigits)) hwhole.1.leadingDigits_eq.2 hafter
    have hread := hfloat hwhole.2.1 (by rwa [hpart, hvalue])
    rwa [hu, hend, hpart, hvalue] at hread

/-- **An integer is refused for its length.** -/
theorem Overlong.exists_readNumber {t : Text} (h : Overlong t) (place : Nat) :
    ∃ k, readNumber ⟨place, t⟩ = .error ⟨.oversizedInteger k, place⟩ := by
  obtain ⟨negative, u, ds, rest, hsign, hwhole, hlength, hstops⟩ := h
  have hu := hsign.signOf_eq hwhole.1 hwhole.2.1
  obtain ⟨hpart, hexponent⟩ := (stops_iff.1 hstops).2
  obtain ⟨-, hafter⟩ := Fraction.none.partOf_eq hstops.digits hstops.fraction
  obtain ⟨-, hint, -⟩ := readNumber_cases place t (by rw [hu])
    (hwhole.wholeOf_eq hstops.digits) hwhole.1.leadingDigits_eq.2 hafter
  exact ⟨_, (hint hwhole.2.1 hpart hexponent).1 hlength⟩

/-! ## Where numbers stand -/

/-- What a number starts with: a digit, or a minus sign in front of one. -/
def StartsNumber (t : Text) : Prop :=
  ∃ c u, (t = c :: u ∨ t = .scalar '-' :: c :: u) ∧ c.isAsciiDigit = true

/-- A sign in front of whole digits starts a number. -/
theorem Sign.startsNumber {t u rest : Text} {negative : Bool} {ds : List Nat}
    (h : Sign t negative u) (hwhole : Whole u ds rest) : StartsNumber t := by
  obtain ⟨c, v, rfl, hc⟩ := hwhole.1.exists_cons hwhole.2.1
  cases h with
  | none => exact ⟨c, v, .inl rfl, hc⟩
  | minus => exact ⟨c, v, .inr rfl, hc⟩

/-- A number starts as numbers do. -/
theorem Numeral.startsNumber {t rest : Text} {j : Json} (h : Numeral t j rest) :
    StartsNumber t := by
  cases h with
  | int hsign hwhole _ => exact hsign.startsNumber hwhole
  | float hsign hwhole _ _ _ => exact hsign.startsNumber hwhole

/-- An integer that is too long starts as numbers do. -/
theorem Overlong.startsNumber {t : Text} (h : Overlong t) : StartsNumber t := by
  obtain ⟨_, _, _, _, hsign, hwhole, -⟩ := h
  exact hsign.startsNumber hwhole

/-- What follows a sign is no longer than the whole. -/
theorem Sign.length_le {t rest : Text} {negative : Bool} (h : Sign t negative rest) :
    rest.length ≤ t.length := by
  cases h with
  | none => exact Nat.le_refl _
  | minus => exact Nat.le_succ _

/-- A row of digits takes one code point for each. -/
theorem Digits.length_eq {t rest : Text} {ds : List Nat} (h : Digits t ds rest) :
    t.length = rest.length + ds.length := by
  induction h with
  | none => rfl
  | more _ _ ih => rw [List.length_cons, List.length_cons, ih, Nat.add_assoc]

/-- What follows a row of digits is no longer than the whole. -/
theorem Digits.length_le {t rest : Text} {ds : List Nat} (h : Digits t ds rest) :
    rest.length ≤ t.length := by
  rw [h.length_eq]
  exact Nat.le_add_right _ _

/-- The digits in front of a fraction take something of the text. -/
theorem Whole.length_lt {t rest : Text} {ds : List Nat} (h : Whole t ds rest) :
    rest.length < t.length := by
  rw [h.1.length_eq]
  exact Nat.lt_add_of_pos_right (List.length_pos_of_ne_nil h.2.1)

/-- What follows a fraction is no longer than the whole. -/
theorem Fraction.length_le {t rest : Text} {ds : List Nat} (h : Fraction t ds rest) :
    rest.length ≤ t.length := by
  cases h with
  | none => exact Nat.le_refl _
  | point hdigits _ => exact Nat.le_succ_of_le hdigits.length_le

/-- What follows the sign of an exponent is no longer than the whole. -/
theorem ExponentSign.length_le {t rest : Text} {negative : Bool}
    (h : ExponentSign t negative rest) : rest.length ≤ t.length := by
  cases h with
  | sign hsign => exact hsign.length_le
  | plus => exact Nat.le_succ _

/-- What follows an exponent is no longer than the whole. -/
theorem Exponent.length_le {t rest : Text} {e : Option Int} (h : Exponent t e rest) :
    rest.length ≤ t.length := by
  cases h with
  | none => exact Nat.le_refl _
  | mark _ hsign hdigits _ =>
    exact Nat.le_succ_of_le (hdigits.length_le.trans hsign.length_le)

/-- A number is not empty. -/
theorem Numeral.length_lt {t rest : Text} {j : Json} (h : Numeral t j rest) :
    rest.length < t.length := by
  cases h with
  | int hsign hwhole _ => exact hwhole.length_lt.trans_le hsign.length_le
  | float hsign hwhole hpart hexponent _ =>
    exact (hexponent.length_le.trans hpart.length_le).trans_lt
      (hwhole.length_lt.trans_le hsign.length_le)

end Localization.Json
