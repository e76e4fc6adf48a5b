import Mathlib.Algebra.Group.Nat.Defs
import Mathlib.Data.List.Basic
import Localization.Escape
import Localization.Proofs.Results
import Localization.Proofs.Text.Encodable

/-!
# Bodies of literals

The body of the literal that is written for a text stands for this text, whatever it holds
(`resolve_body`). A body that was written by hand may stand for no text, and for one reason only: it
has an escape with a number in braces that lies beyond the last code point (`exists_resolve_iff`).
And it may stand for a text without a UTF-8 form, again for one reason only: an escape with the
number of a surrogate (`encodable_resolve_iff`).
-/

namespace Localization.Escape

/-! ## Bodies that are written -/

/-- The body of a literal for a text, without its quotes. -/
def body (t : Text) : Text :=
  t.flatMap fun c => if c = .scalar '\\' ∨ c = .scalar '\'' then [.scalar '\\', c] else [c]

/-- A literal is its body between two single quotes. -/
theorem literal_eq (t : Text) : literal t = .scalar '\'' :: (body t ++ [.scalar '\'']) := rfl

/-- What is written for one character is read as that character. -/
theorem resolveAfter_char (c : CodePoint) (rest : Text) :
    resolveAfter 0
        ((if c = .scalar '\\' ∨ c = .scalar '\'' then [.scalar '\\', c] else [c]) ++ rest) =
      (resolveAfter 0 rest).map (c :: ·) := by
  split
  next h =>
    have hescape : escape (c :: rest) = .ok ([c], 1) := by
      rcases h with rfl | rfl
      · rfl
      · rfl
    have hskip : resolveAfter 1 (c :: rest) = resolveAfter 0 rest := by rw [resolveAfter]
    rw [List.cons_append, List.cons_append, List.nil_append, resolveAfter, if_pos rfl, hescape]
    change (do return [c] ++ (← resolveAfter 1 (c :: rest))) = _
    rw [hskip]
    cases resolveAfter 0 rest with
    | error e => rfl
    | ok t => rfl
  next h => rw [List.cons_append, List.nil_append, resolveAfter, if_neg fun hc => h (.inl hc)]

/-- The escapes of a written body name the text it was written from. -/
theorem resolve_body (t : Text) : resolve (body t) = .ok t := by
  induction t with
  | nil => rfl
  | cons c t ih =>
    rw [resolve] at ih ⊢
    rw [body, List.flatMap_cons, resolveAfter_char]
    exact congrArg (Except.map (c :: ·)) ih

/-! ## Bodies that stand for no text -/

/-- A hexadecimal digit is worth less than sixteen. -/
theorem hexDigit?_lt {c : CodePoint} {d : Nat} (h : c.hexDigit? = some d) : d < 16 := by
  unfold CodePoint.hexDigit? at h
  dsimp only at h
  split at h
  · cases h
    omega
  split at h
  · cases h
    omega
  split at h
  · cases h
    omega
  · cases h

/-- As many digits as there are bound the number that they write. -/
theorem foldl_digits_lt {digits : List Nat} (h : ∀ d ∈ digits, d < 16) (start : Nat) :
    digits.foldl (fun acc d => acc * 16 + d) start < (start + 1) * 16 ^ digits.length := by
  induction digits generalizing start with
  | nil => simp
  | cons d digits ih =>
    rw [List.forall_mem_cons] at h
    calc digits.foldl (fun acc d => acc * 16 + d) (start * 16 + d)
      _ < (start * 16 + d + 1) * 16 ^ digits.length := ih h.2 _
      _ ≤ ((start + 1) * 16) * 16 ^ digits.length := Nat.mul_le_mul_right _ (by omega)
      _ = (start + 1) * 16 ^ (digits.length + 1) := by rw [Nat.pow_succ, Nat.mul_assoc,
          Nat.mul_comm 16]

/-- Hexadecimal digits that are read one by one. -/
theorem mapM_hexDigit? {t : Text} {digits : List Nat}
    (h : t.mapM CodePoint.hexDigit? = some digits) :
    digits.length = t.length ∧ ∀ d ∈ digits, d < 16 := by
  induction t generalizing digits with
  | nil =>
    cases h
    exact ⟨rfl, nofun⟩
  | cons c t ih =>
    rw [List.mapM_cons] at h
    obtain ⟨d, hd, h⟩ := Option.bind_eq_some_iff.1 h
    obtain ⟨rest, hrest, h⟩ := Option.bind_eq_some_iff.1 h
    cases h
    obtain ⟨hlength, hlt⟩ := ih hrest
    exact ⟨congrArg (· + 1) hlength, List.forall_mem_cons.2 ⟨hexDigit?_lt hd, hlt⟩⟩

/-- The number that `count` hexadecimal digits name is below `16 ^ count`. -/
theorem hexValue?_lt {count n : Nat} {t : Text} (h : hexValue? count t = some n) :
    n < 16 ^ count := by
  unfold hexValue? at h
  split at h
  next => cases h
  next hcount =>
    obtain ⟨digits, hdigits, rfl⟩ := Option.map_eq_some_iff.1 h
    obtain ⟨hlength, hlt⟩ := mapM_hexDigit? hdigits
    have hbound : Text.fromDigits 16 digits < (0 + 1) * 16 ^ digits.length :=
      foldl_digits_lt hlt 0
    rwa [hlength, List.length_take, Nat.min_eq_left (Nat.le_of_not_lt hcount), Nat.one_mul]
      at hbound

/-- Every number up to the last code point is a code point. -/
theorem exists_codePoint_iff {n : Nat} : (∃ c, codePoint n = .ok c) ↔ n ≤ 0x10FFFF := by
  unfold codePoint CodePoint.ofNat?
  constructor
  · rintro ⟨c, h⟩
    by_contra hn
    have hvalid : ¬ n.isValidChar := by
      simp only [Nat.isValidChar]
      omega
    have hsurrogate : ¬ (0xD800 ≤ n ∧ n ≤ 0xDFFF) := by omega
    rw [dif_neg hvalid, if_neg hsurrogate] at h
    cases h
  · intro hn
    by_cases hvalid : n.isValidChar
    · rw [dif_pos hvalid]
      exact ⟨_, rfl⟩
    · have hsurrogate : 0xD800 ≤ n ∧ n ≤ 0xDFFF := by
        simp only [Nat.isValidChar] at hvalid
        omega
      rw [dif_neg hvalid, if_pos hsurrogate]
      exact ⟨_, rfl⟩

/-- What stands behind a backslash is a number in braces beyond the last code point. -/
def NamesNone (t : Text) : Prop :=
  ∃ rest n count, t = .scalar 'u' :: rest ∧ bracedValue? rest = some (n, count) ∧ 0x10FFFF < n

/-- A number of four digits or less is a code point. -/
theorem exists_codePoint_of_hexValue? {count n : Nat} {t : Text} (hcount : count ≤ 4)
    (h : hexValue? count t = some n) : ∃ c, codePoint n = .ok c := by
  have hlt : n < 16 ^ 4 :=
    Nat.lt_of_lt_of_le (hexValue?_lt h) (Nat.pow_le_pow_right (by decide) hcount)
  exact exists_codePoint_iff.2 (by omega)

/-- An escape stands for something unless it names no code point. -/
theorem exists_escape_iff {t : Text} : (∃ r, escape t = .ok r) ↔ ¬ NamesNone t := by
  constructor
  · rintro ⟨r, hr⟩ ⟨rest, n, count, rfl, hbraced, hn⟩
    simp only [escape, hbraced] at hr
    obtain ⟨c, hc, -⟩ := map_eq_ok.1 hr
    exact Nat.not_le_of_lt hn (exists_codePoint_iff.1 ⟨c, hc⟩)
  · intro h
    unfold escape
    split
    next => exact ⟨_, rfl⟩
    next rest =>
      split
      next n count hbraced =>
        have hn : n ≤ 0x10FFFF := Nat.le_of_not_lt fun hlt => h ⟨rest, n, count, rfl, hbraced, hlt⟩
        obtain ⟨c, hc⟩ := exists_codePoint_iff.2 hn
        exact ⟨_, map_eq_ok.2 ⟨c, hc, rfl⟩⟩
      next =>
        split
        next n hfour =>
          obtain ⟨c, hc⟩ := exists_codePoint_of_hexValue? (Nat.le_refl 4) hfour
          exact ⟨_, map_eq_ok.2 ⟨c, hc, rfl⟩⟩
        next => exact ⟨_, rfl⟩
    next rest =>
      split
      next n htwo =>
        obtain ⟨c, hc⟩ := exists_codePoint_of_hexValue? (by decide) htwo
        exact ⟨_, map_eq_ok.2 ⟨c, hc, rfl⟩⟩
      next => exact ⟨_, rfl⟩
    next => exact ⟨_, rfl⟩
    next =>
      split
      · exact ⟨_, rfl⟩
      · exact ⟨_, rfl⟩

/-- A backslash in a body begins an escape, with the given text behind it. -/
inductive HasEscape : (body behind : Text) → Prop where
  | here (t : Text) : HasEscape (.scalar '\\' :: t) t
  | char {c : CodePoint} {t behind : Text} : c ≠ .scalar '\\' → HasEscape t behind →
    HasEscape (c :: t) behind
  | later {t behind value : Text} {length : Nat} : escape t = .ok (value, length) →
    HasEscape (t.drop length) behind → HasEscape (.scalar '\\' :: t) behind

/-- Resolving after some code points are skipped is resolving what they leave. -/
theorem resolveAfter_eq (skip : Nat) (t : Text) : resolveAfter skip t = resolve (t.drop skip) := by
  induction skip generalizing t with
  | zero => rfl
  | succ skip ih =>
    cases t with
    | nil => rfl
    | cons c t => rw [resolveAfter, ih, List.drop_succ_cons]

/-- The resolution by its first code point: a backslash opens an escape, anything else stands for
itself. -/
theorem resolve_cons (c : CodePoint) (t : Text) : resolve (c :: t) =
    if c = .scalar '\\' then do
      let (resolved, length) ← escape t
      return resolved ++ (← resolve (t.drop length))
    else (resolve t).map (c :: ·) := by
  rw [resolve, resolveAfter]
  simp only [resolveAfter_eq]
  rfl

/-- A body stands for a text exactly if each of its escapes stands for something. -/
theorem exists_resolve_iff (body : Text) :
    (∃ t, resolve body = .ok t) ↔ ∀ behind, HasEscape body behind → ¬ NamesNone behind := by
  match body with
  | [] => exact ⟨fun _ _ h => (nomatch h), fun _ => ⟨[], rfl⟩⟩
  | c :: t =>
    rw [resolve_cons]
    split
    next hc =>
      subst hc
      constructor
      · rintro ⟨r, hr⟩
        obtain ⟨⟨value, length⟩, hescape, hr⟩ := bind_eq_ok.1 hr
        obtain ⟨later, hlater, -⟩ := bind_eq_ok.1 hr
        have ih := (exists_resolve_iff (t.drop length)).1 ⟨later, hlater⟩
        intro behind hbehind
        cases hbehind with
        | here => exact exists_escape_iff.1 ⟨_, hescape⟩
        | char hne _ => exact absurd rfl hne
        | later hescape' hlater =>
          rw [hescape] at hescape'
          cases hescape'
          exact ih behind hlater
      · intro h
        obtain ⟨⟨value, length⟩, hescape⟩ := exists_escape_iff.2 (h t (.here t))
        obtain ⟨later, hlater⟩ := (exists_resolve_iff (t.drop length)).2 fun behind hbehind =>
          h behind (.later hescape hbehind)
        exact ⟨value ++ later, bind_eq_ok.2 ⟨_, hescape, bind_eq_ok.2 ⟨later, hlater, rfl⟩⟩⟩
    next hc =>
      have ih := exists_resolve_iff t
      constructor
      · rintro ⟨r, hr⟩
        obtain ⟨rest, hrest, -⟩ := map_eq_ok.1 hr
        intro behind hbehind
        cases hbehind with
        | here => exact absurd rfl hc
        | char _ hlater => exact ih.1 ⟨rest, hrest⟩ behind hlater
        | later _ _ => exact absurd rfl hc
      · intro h
        obtain ⟨rest, hrest⟩ := ih.2 fun behind hbehind => h behind (.char hc hbehind)
        exact ⟨c :: rest, map_eq_ok.2 ⟨rest, hrest, rfl⟩⟩
termination_by body.length
decreasing_by
  all_goals simp only [List.length_cons, List.length_drop]
  all_goals omega

/-! ## Bodies that stand for surrogates -/

/-- What stands behind a backslash is a number, in braces or in four digits, that is a
surrogate's. -/
def NamesSurrogate (t : Text) : Prop :=
  ∃ rest n, t = .scalar 'u' :: rest ∧
    ((bracedValue? rest).map Prod.fst = some n ∨
      bracedValue? rest = none ∧ hexValue? 4 rest = some n) ∧
    0xD800 ≤ n ∧ n ≤ 0xDFFF

/-- The code point a number names is a surrogate exactly when the number is in the surrogate range.
-/
theorem isSurrogate_of_codePoint {n : Nat} {c : CodePoint} (h : codePoint n = .ok c) :
    c.isSurrogate = true ↔ 0xD800 ≤ n ∧ n ≤ 0xDFFF := by
  unfold codePoint at h
  split at h
  next hc =>
    cases h
    exact CodePoint.isSurrogate_of_ofNat? hc
  next => cases h

/-- The escape of a number stands for a surrogate exactly if the number is one's. -/
theorem encodable_of_codePoint {n length : Nat} {r : Text × Nat}
    (h : (codePoint n).map (fun c => ([c], length)) = .ok r) :
    r.1.Encodable ↔ ¬ (0xD800 ≤ n ∧ n ≤ 0xDFFF) := by
  obtain ⟨c, hc, rfl⟩ := map_eq_ok.1 h
  rw [← isSurrogate_of_codePoint hc, Bool.not_eq_true]
  exact Text.Encodable.singleton_iff

/-- Only an escape that begins with `u` can name a surrogate. -/
theorem not_namesSurrogate_of_ne {c : CodePoint} {t : Text} (h : c ≠ .scalar 'u') :
    ¬ NamesSurrogate (c :: t) := by
  rintro ⟨rest, n, heq, -⟩
  exact h (List.cons.inj heq).1

/-- No escape of one letter names a surrogate. -/
theorem isSurrogate_simple? {c d : CodePoint} (h : simple? c = some d) :
    d.isSurrogate = false := by
  unfold simple? at h
  split at h <;> cases h <;> rfl

/-- An escape brings a surrogate in exactly if it names one. -/
theorem encodable_escape_iff {t : Text} (ht : t.Encodable) {r : Text × Nat}
    (h : escape t = .ok r) : r.1.Encodable ↔ ¬ NamesSurrogate t := by
  unfold escape at h
  split at h
  next =>
    cases h
    refine iff_of_true (Text.Encodable.singleton_iff.2 rfl) ?_
    rintro ⟨rest, n, heq, -⟩
    cases heq
  next rest =>
    split at h
    next n count hbraced =>
      rw [encodable_of_codePoint h]
      refine not_congr ⟨fun hn => ⟨rest, n, rfl, .inl (by rw [hbraced]; rfl), hn⟩, ?_⟩
      rintro ⟨rest', n', heq, hvalue, hn⟩
      cases heq
      rw [hbraced] at hvalue
      rcases hvalue with hvalue | ⟨hvalue, -⟩
      · cases hvalue
        exact hn
      · cases hvalue
    next hbraced =>
      split at h
      next n hfour =>
        rw [encodable_of_codePoint h]
        refine not_congr ⟨fun hn => ⟨rest, n, rfl, .inr ⟨hbraced, hfour⟩, hn⟩, ?_⟩
        rintro ⟨rest', n', heq, hvalue, hn⟩
        cases heq
        rw [hbraced, hfour] at hvalue
        rcases hvalue with hvalue | ⟨-, hvalue⟩
        · cases hvalue
        · cases hvalue
          exact hn
      next hfour =>
        cases h
        refine iff_of_true (Text.Encodable.singleton_iff.2 rfl) ?_
        rintro ⟨rest', n', heq, hvalue, -⟩
        cases heq
        rw [hbraced, hfour] at hvalue
        rcases hvalue with hvalue | ⟨-, hvalue⟩ <;> cases hvalue
  next rest =>
    refine iff_of_true ?_ (not_namesSurrogate_of_ne (by decide))
    split at h
    next n htwo =>
      have hlt : n < 16 ^ 2 := hexValue?_lt htwo
      rw [encodable_of_codePoint h]
      omega
    next =>
      cases h
      exact Text.Encodable.singleton_iff.2 rfl
  next =>
    cases h
    exact iff_of_true nofun (not_namesSurrogate_of_ne (by decide))
  next c t hu _ _ =>
    refine iff_of_true ?_ (not_namesSurrogate_of_ne hu)
    split at h
    · cases h
      exact nofun
    · cases h
      refine Text.Encodable.singleton_iff.2 ?_
      cases hsimple : simple? c with
      | none => exact ht c (by simp)
      | some d => exact isSurrogate_simple? hsimple

/-- A body stands for a text without a UTF-8 form exactly if one of its escapes names a
surrogate. -/
theorem encodable_resolve_iff {body r : Text} (hbody : body.Encodable)
    (h : resolve body = .ok r) :
    r.Encodable ↔ ∀ behind, HasEscape body behind → ¬ NamesSurrogate behind := by
  match body with
  | [] =>
    cases h
    exact iff_of_true nofun fun _ h => (nomatch h)
  | c :: t =>
    obtain ⟨hc, ht⟩ := Text.Encodable.cons_iff.1 hbody
    rw [resolve_cons] at h
    split at h
    next hbackslash =>
      subst hbackslash
      obtain ⟨⟨value, length⟩, hescape, h⟩ := bind_eq_ok.1 h
      obtain ⟨later, hlater, h⟩ := bind_eq_ok.1 h
      cases h
      have ih := encodable_resolve_iff (ht.subset (List.drop_subset length t)) hlater
      rw [Text.Encodable.append_iff, encodable_escape_iff ht hescape, ih]
      constructor
      · rintro ⟨hhere, hrest⟩ behind hbehind
        cases hbehind with
        | here => exact hhere
        | char hne _ => exact absurd rfl hne
        | later hescape' hlater =>
          rw [hescape] at hescape'
          cases hescape'
          exact hrest behind hlater
      · intro hall
        exact ⟨hall t (.here t), fun behind hbehind => hall behind (.later hescape hbehind)⟩
    next hne =>
      obtain ⟨rest, hrest, rfl⟩ := map_eq_ok.1 h
      rw [Text.Encodable.cons_iff, encodable_resolve_iff ht hrest, and_iff_right hc]
      constructor
      · intro hall behind hbehind
        cases hbehind with
        | here => exact absurd rfl hne
        | char _ hlater => exact hall behind hlater
        | later _ _ => exact absurd rfl hne
      · exact fun hall behind hbehind => hall behind (.char hne hbehind)
termination_by body.length
decreasing_by
  all_goals simp only [List.length_cons, List.length_drop]
  all_goals omega

end Localization.Escape
