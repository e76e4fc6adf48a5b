import Localization.Proofs.Escape.StringValue
import Localization.Proofs.Json.Reading
import Localization.Proofs.Text.Parts

/-!
# The strings of documents

A string's body is a row of characters and escapes up to a quote. `Body` says which texts start with
a body and what it stands for, without saying how it is read: an escape is a letter with a meaning
or four hexadecimal digits, and two escapes in a row that name the halves of a surrogate pair are
one character. Reading gives a text exactly for bodies, and the text is the one they stand for
(`body_of_readString`, `Body.exists_readString`).
-/

namespace Localization.Json

/-! ## The grammar of strings -/

/-- Four hexadecimal digits at the start of a text, the number they write, and what follows. -/
def FourDigits (t : Text) (n : Nat) (rest : Text) : Prop :=
  ∃ digits, t = digits ++ rest ∧ digits.length = 4 ∧ Escape.HexNumber digits n

/-- The first half of a surrogate pair. -/
def IsHigh (n : Nat) : Prop := 0xD800 ≤ n ∧ n < 0xDC00

/-- The second half of a surrogate pair. -/
def IsLow (n : Nat) : Prop := 0xDC00 ≤ n ∧ n < 0xE000

/-- An escape of a number at the start of a text. -/
def NumberEscape (t : Text) (n : Nat) (rest : Text) : Prop :=
  ∃ u, t = .scalar '\\' :: .scalar 'u' :: u ∧ FourDigits u n rest

/-- The characters with an escape of one letter or sign, and what these escapes stand for. -/
def letterEscapes : List (CodePoint × CodePoint) :=
  [('"', '"'), ('\\', '\\'), ('/', '/'), ('b', '\x08'), ('f', '\x0c'), ('n', '\n'), ('r', '\r'),
    ('t', '\t')]

/-- A string's body at the start of a text, what it stands for, and what follows its closing quote.
An escape of a number stands for the number's code point, unless it makes a pair with the next
one. -/
inductive Body : Text → Text → Text → Prop where
  | close {rest : Text} : Body (.scalar '"' :: rest) [] rest
  | plain {c : CodePoint} {t s rest : Text} : c ≠ .scalar '"' → c ≠ .scalar '\\' → 0x20 ≤ c.toNat →
    Body t s rest → Body (c :: t) (c :: s) rest
  | letter {e c : CodePoint} {t s rest : Text} : (e, c) ∈ letterEscapes → Body t s rest →
    Body (.scalar '\\' :: e :: t) (c :: s) rest
  | number {n : Nat} {t u s rest : Text} : NumberEscape t n u →
    (IsHigh n → ∀ m v, NumberEscape u m v → ¬ IsLow m) → Body u s rest →
    Body t (.ofNat n :: s) rest
  | pair {n m : Nat} {t u v s rest : Text} : NumberEscape t n u → IsHigh n → NumberEscape u m v →
    IsLow m → Body v s rest →
    Body t (.ofNat (0x10000 + (n - 0xD800) * 0x400 + (m - 0xDC00)) :: s) rest

/-! ## Escapes -/

/-- The table of escapes of one letter is what `simpleEscape?` reads. -/
theorem mem_letterEscapes {e c : CodePoint} :
    (e, c) ∈ letterEscapes ↔ simpleEscape? e = some c := by
  constructor
  · have hall : ∀ p ∈ letterEscapes, simpleEscape? p.1 = some p.2 := by decide
    exact hall (e, c)
  · intro h
    unfold simpleEscape? at h
    split at h
    all_goals simp_all [letterEscapes]

/-- Four hexadecimal digits are read where four stand, with their number. -/
theorem fourHex?_eq_some {t : Text} {n : Nat} :
    fourHex? t = some n ↔ FourDigits t n (t.drop 4) := by
  rw [fourHex?]
  constructor
  · intro h
    split at h
    · cases h
    next hlength =>
      have htake : (t.take 4).length = 4 := List.length_take_of_le (Nat.le_of_not_lt hlength)
      have hne : t.take 4 ≠ [] := List.ne_nil_of_length_pos (by omega)
      exact ⟨t.take 4, (List.take_append_drop 4 t).symm, htake,
        Escape.hexNumber_iff.2 ⟨hne, Option.map_eq_some_iff.1 h⟩⟩
  · rintro ⟨digits, ht, hlength, hdigits⟩
    have htake : t.take 4 = digits := by rw [ht, List.take_left' hlength]
    have hlong : ¬ t.length < 4 := by
      rw [ht, List.length_append]
      omega
    rw [if_neg hlong, htake]
    exact Option.map_eq_some_iff.2 (Escape.hexNumber_iff.1 hdigits).2

/-- Behind four digits stands what is left when four code points are dropped. -/
theorem FourDigits.eq_drop {t rest : Text} {n : Nat} (h : FourDigits t n rest) :
    rest = t.drop 4 := by
  obtain ⟨digits, rfl, hlength, -⟩ := h
  rw [List.drop_left' hlength]

/-- Four digits that stand in front are read. -/
theorem FourDigits.fourHex? {t rest : Text} {n : Nat} (h : FourDigits t n rest) :
    fourHex? t = some n := by
  have hrest := h.eq_drop
  subst hrest
  exact fourHex?_eq_some.2 h

/-- Four digits are four code points. -/
theorem FourDigits.length_eq {t rest : Text} {n : Nat} (h : FourDigits t n rest) :
    t.length = rest.length + 4 := by
  obtain ⟨digits, rfl, hlength, -⟩ := h
  rw [List.length_append, hlength, Nat.add_comm]

/-- The escape of a number is six code points. -/
theorem NumberEscape.length_eq {t rest : Text} {n : Nat} (h : NumberEscape t n rest) :
    t.length = rest.length + 6 := by
  obtain ⟨u, rfl, hu⟩ := h
  rw [List.length_cons, List.length_cons, hu.length_eq]

/-- An escape is followed by one thing only. -/
theorem NumberEscape.unique {t rest rest' : Text} {n n' : Nat} (h : NumberEscape t n rest)
    (h' : NumberEscape t n' rest') : n = n' ∧ rest = rest' := by
  obtain ⟨u, rfl, hu⟩ := h
  obtain ⟨u', heq, hu'⟩ := h'
  cases heq
  exact ⟨Option.some.inj (hu.fourHex?.symm.trans hu'.fourHex?), hu.eq_drop.trans hu'.eq_drop.symm⟩

/-- A body has at least its closing quote. -/
theorem Body.ne_nil {t s rest : Text} (h : Body t s rest) : t ≠ [] := by
  cases h with
  | close => exact List.cons_ne_nil _ _
  | plain _ _ _ _ => exact List.cons_ne_nil _ _
  | letter _ _ => exact List.cons_ne_nil _ _
  | number hn _ _ | pair hn _ _ _ _ =>
    obtain ⟨u, rfl, -⟩ := hn
    exact List.cons_ne_nil _ _

/-- What is left of a body is shorter than it was. -/
theorem Body.length_lt {t s rest : Text} (h : Body t s rest) : rest.length < t.length := by
  induction h with
  | close => exact Nat.lt_succ_self _
  | plain _ _ _ _ ih => exact Nat.lt_succ_of_lt ih
  | letter _ _ ih => exact Nat.lt_succ_of_lt (Nat.lt_succ_of_lt ih)
  | number hn _ _ ih =>
    have hlength := hn.length_eq
    omega
  | pair hn _ hm _ _ ih =>
    have hlength := hn.length_eq
    have hlength' := hm.length_eq
    omega

/-! ## Reading -/

/-- The lead of a number's escape is dropped from it. -/
theorem dropLead?_numberEscape (u : Text) :
    Text.dropLead? "\\u" (.scalar '\\' :: .scalar 'u' :: u) = some u :=
  Text.dropLead?_eq_some.2 rfl

/-- What follows two escapes is found behind the digits of the first one. -/
theorem drop_ten {digits u : Text} (h : digits.drop 4 = .scalar '\\' :: .scalar 'u' :: u) :
    digits.drop 10 = u.drop 4 := by
  rw [show 10 = 4 + 6 from rfl, ← List.drop_drop, h]
  rfl

/-- A step of a reader puts its character in front of what is read after it. -/
theorem cons_eq_ok {c : CodePoint} {x : Except ReadFault (Text × Cursor)} {s : Text}
    {next : Cursor} : (x >>= fun r => pure (c :: r.1, r.2)) = .ok (s, next) ↔
      ∃ s', x = .ok (s', next) ∧ s = c :: s' := by
  rw [bind_eq_ok]
  constructor
  · rintro ⟨⟨s', next'⟩, hx, heq⟩
    cases heq
    exact ⟨s', hx, rfl⟩
  · rintro ⟨s', hx, rfl⟩
    exact ⟨(s', next), hx, rfl⟩

section

variable {t u v s : Text} {n m : Nat} {next : Cursor} (start fuel place : Nat)

/-- Two escapes of numbers that make a pair are read as one character. -/
theorem readString_pair (hn : NumberEscape t n u) (hhigh : IsHigh n) (hm : NumberEscape u m v)
    (hlow : IsLow m) (hv : v ≠ []) :
    readString start (fuel + 1) ⟨place, t⟩ = readString start fuel ⟨place + 12, v⟩ >>= fun r =>
      pure (.ofNat (0x10000 + (n - 0xD800) * 0x400 + (m - 0xDC00)) :: r.1, r.2) := by
  have hlength := hn.length_eq
  have hlength' := hm.length_eq
  have hpos : 0 < v.length := List.length_pos_of_ne_nil hv
  obtain ⟨w, rfl, hw⟩ := hn
  obtain ⟨x, rfl, hx⟩ := hm
  simp only [List.length_cons] at hlength hlength'
  have hlong : 5 ≤ w.length := by omega
  have hcond : 0xD800 ≤ n ∧ n < 0xDC00 ∧ 11 ≤ w.length := ⟨hhigh.1, hhigh.2, by omega⟩
  have hlow' : 0xDC00 ≤ m ∧ m < 0xE000 := hlow
  have hdrop : w.drop 4 = .scalar '\\' :: .scalar 'u' :: x := hw.eq_drop.symm
  have hdrop' : w.drop 10 = v := (drop_ten hdrop).trans hx.eq_drop.symm
  rw [readString]
  simp only [hw.fourHex?, hlong, decide_true, if_pos hcond, hdrop, dropLead?_numberEscape,
    hx.fourHex?, if_pos hlow', Cursor.advance, List.drop_succ_cons, hdrop']

/-- An escape of a number that makes no pair is read by itself. -/
theorem readString_number (hn : NumberEscape t n u)
    (hsingle : IsHigh n → ∀ m v, NumberEscape u m v → ¬ IsLow m)
    (hnext : ∀ w, u = .scalar '\\' :: .scalar 'u' :: w → ∃ m v, NumberEscape u m v) (hu : u ≠ []) :
    readString start (fuel + 1) ⟨place, t⟩ =
      readString start fuel ⟨place + 6, u⟩ >>= fun r => pure (.ofNat n :: r.1, r.2) := by
  have hlength := hn.length_eq
  have hpos : 0 < u.length := List.length_pos_of_ne_nil hu
  obtain ⟨w, rfl, hw⟩ := hn
  simp only [List.length_cons] at hlength
  have hlong : 5 ≤ w.length := by omega
  have hdrop : w.drop 4 = u := hw.eq_drop.symm
  rw [readString]
  simp only [hw.fourHex?, hlong, decide_true, hdrop, Cursor.advance, List.drop_succ_cons]
  split
  next => rfl
  next x hx =>
    split at hx
    next hcond =>
      obtain rfl := Text.dropLead?_eq_some.1 hx
      obtain ⟨m, v, hm⟩ := hnext x rfl
      have hlow := hsingle ⟨hcond.1, hcond.2.1⟩ m v hm
      obtain ⟨x', heq, hm⟩ := hm
      cases heq
      have hfour : fourHex? x = some m := hm.fourHex?
      rw [hfour]
      exact if_neg hlow
    next => cases hx

end

/-- Where an escape of a number begins in a body, there is one, and something follows. -/
theorem Body.exists_numberEscape {w s rest : Text}
    (h : Body (.scalar '\\' :: .scalar 'u' :: w) s rest) :
    ∃ m v, NumberEscape (.scalar '\\' :: .scalar 'u' :: w) m v ∧ v ≠ [] := by
  cases h with
  | plain _ hslash _ _ => exact absurd rfl hslash
  | letter he _ => cases mem_letterEscapes.1 he
  | number hn _ hbody => exact ⟨_, _, hn, hbody.ne_nil⟩
  | pair hn _ hm _ _ =>
    obtain ⟨x, rfl, -⟩ := hm
    exact ⟨_, _, hn, List.cons_ne_nil _ _⟩

/-- **A body is read up to its closing quote.** -/
theorem Body.exists_readString {t s rest : Text} (h : Body t s rest) (start : Nat) :
    ∀ fuel place, t.length ≤ fuel → ∃ n, readString start fuel ⟨place, t⟩ = .ok (s, ⟨n, rest⟩) := by
  induction h with
  | close =>
    intro fuel place hfuel
    obtain ⟨fuel, rfl⟩ := Nat.exists_eq_succ_of_ne_zero (Nat.ne_zero_of_lt hfuel)
    exact ⟨place + 1, rfl⟩
  | plain hquote hslash hcontrol _ ih =>
    intro fuel place hfuel
    obtain ⟨fuel, rfl⟩ := Nat.exists_eq_succ_of_ne_zero (Nat.ne_zero_of_lt hfuel)
    obtain ⟨n, hread⟩ := ih fuel (place + 1) (Nat.le_of_succ_le_succ hfuel)
    exact ⟨n, by rw [readString_plain hquote hslash (Nat.not_lt.2 hcontrol), hread]; rfl⟩
  | letter he _ ih =>
    intro fuel place hfuel
    obtain ⟨fuel, rfl⟩ := Nat.exists_eq_succ_of_ne_zero (Nat.ne_zero_of_lt hfuel)
    obtain ⟨n, hread⟩ := ih fuel (place + 2) (Nat.le_of_succ_le (Nat.le_of_succ_le_succ hfuel))
    exact ⟨n, by rw [readString_simpleEscape (mem_letterEscapes.1 he), hread]; rfl⟩
  | number hn hsingle hbody ih =>
    intro fuel place hfuel
    rw [hn.length_eq] at hfuel
    obtain ⟨fuel, rfl⟩ := Nat.exists_eq_succ_of_ne_zero (Nat.ne_zero_of_lt hfuel)
    obtain ⟨n, hread⟩ := ih fuel (place + 6) (by omega)
    refine ⟨n, ?_⟩
    rw [readString_number start fuel place hn hsingle (fun w hw => ?_) hbody.ne_nil, hread]
    · rfl
    · subst hw
      obtain ⟨m, v, hm, -⟩ := hbody.exists_numberEscape
      exact ⟨m, v, hm⟩
  | pair hn hhigh hm hlow hbody ih =>
    intro fuel place hfuel
    rw [hn.length_eq, hm.length_eq] at hfuel
    obtain ⟨fuel, rfl⟩ := Nat.exists_eq_succ_of_ne_zero (Nat.ne_zero_of_lt hfuel)
    obtain ⟨n, hread⟩ := ih fuel (place + 12) (by omega)
    refine ⟨n, ?_⟩
    rw [readString_pair start fuel place hn hhigh hm hlow hbody.ne_nil, hread]
    rfl

/-- An escape of a number that no second one follows, as far as a reader looks ahead, is a single
one. -/
theorem NumberEscape.body_of_none {digits s rest : Text} {n : Nat}
    (hn : NumberEscape (.scalar '\\' :: .scalar 'u' :: digits) n (digits.drop 4))
    (hnone : (if 0xD800 ≤ n ∧ n < 0xDC00 ∧ 11 ≤ digits.length then
      Text.dropLead? "\\u" (digits.drop 4) else none) = none)
    (hbody : Body (digits.drop 4) s rest) :
    Body (.scalar '\\' :: .scalar 'u' :: digits) (.ofNat n :: s) rest := by
  refine .number hn (fun hhigh m v hm _ => ?_) hbody
  obtain ⟨x, hx, -⟩ := hm
  rw [hx] at hbody hnone
  -- the body goes on after the second escape, so the reader looks far enough
  obtain ⟨m', v', hm', hv'⟩ := hbody.exists_numberEscape
  have hpos : 0 < v'.length := List.length_pos_of_ne_nil hv'
  have hlength := hn.length_eq
  rw [hx, hm'.length_eq, List.length_cons, List.length_cons] at hlength
  have hlong : 11 ≤ digits.length := by omega
  rw [if_pos ⟨hhigh.1, hhigh.2, hlong⟩, dropLead?_numberEscape] at hnone
  cases hnone

/-- **What is read of a string is its body.** -/
theorem body_of_readString {start fuel : Nat} {cur next : Cursor} {s : Text}
    (h : readString start fuel cur = .ok (s, next)) : Body cur.rest s next.rest := by
  induction fuel generalizing cur s with
  | zero => cases h
  | succ fuel ih =>
    obtain ⟨place, t⟩ := cur
    rw [readString] at h
    dsimp only at h ⊢
    split at h
    next => cases h
    next rest =>
      cases h
      exact .close
    next => cases h
    next digits =>
      split at h
      next n hfour hlong =>
        have hn : NumberEscape (.scalar '\\' :: .scalar 'u' :: digits) n (digits.drop 4) :=
          ⟨digits, rfl, fourHex?_eq_some.1 hfour⟩
        split at h
        next hlow =>
          obtain ⟨s', hread, rfl⟩ := cons_eq_ok.1 h
          exact hn.body_of_none hlow (ih hread)
        next low hlow =>
          split at h
          next => cases h
          next m hm =>
            split at hlow
            next hcond =>
              have hpair : NumberEscape (digits.drop 4) m (low.drop 4) :=
                ⟨low, Text.dropLead?_eq_some.1 hlow, fourHex?_eq_some.1 hm⟩
              split at h
              next hm' =>
                obtain ⟨s', hread, rfl⟩ := cons_eq_ok.1 h
                have hbody : Body (digits.drop 10) s' next.rest := ih hread
                rw [drop_ten (Text.dropLead?_eq_some.1 hlow)] at hbody
                exact .pair hn ⟨hcond.1, hcond.2.1⟩ hpair hm' hbody
              next hm' =>
                obtain ⟨s', hread, rfl⟩ := cons_eq_ok.1 h
                refine .number hn (fun _ m' v' h' hlow' => hm' ?_) (ih hread)
                rw [(hpair.unique h').1]
                exact hlow'
            next => cases hlow
      next => cases h
    next c rest hu hne =>
      split at h
      next => cases h
      next d hd =>
        obtain ⟨s', hread, rfl⟩ := cons_eq_ok.1 h
        exact .letter (mem_letterEscapes.2 hd) (ih hread)
    next c rest hquote hend hnumber hletter =>
      split at h
      next => cases h
      next hcontrol =>
        obtain ⟨s', hread, rfl⟩ := cons_eq_ok.1 h
        refine .plain hquote (fun hslash => ?_) (Nat.not_lt.1 hcontrol) (ih hread)
        cases rest with
        | nil => exact hend hslash rfl
        | cons d rest => exact hletter d rest hslash rfl

/-- A string that cannot be read is malformed. -/
theorem isMalformed_of_readString {start fuel : Nat} {cur : Cursor} {f : ReadFault}
    (h : readString start fuel cur = .error f) : f.fault.isMalformed = true := by
  induction fuel generalizing cur with
  | zero =>
    cases h
    rfl
  | succ fuel ih =>
    have hrest : ∀ {c : CodePoint} {cur : Cursor}, (readString start fuel cur >>= fun r =>
        pure (c :: r.1, r.2)) = .error f → f.fault.isMalformed = true := by
      intro c cur h
      rcases bind_eq_error.1 h with h | ⟨_, _, h⟩
      · exact ih h
      · cases h
    obtain ⟨place, t⟩ := cur
    rw [readString] at h
    dsimp only at h
    split at h
    next => cases h; rfl
    next => cases h
    next => cases h; rfl
    next digits =>
      split at h
      next =>
        split at h
        next => exact hrest h
        next =>
          split at h
          next => cases h; rfl
          next =>
            split at h
            · exact hrest h
            · exact hrest h
      next => cases h; rfl
    next =>
      split at h
      next => cases h; rfl
      next => exact hrest h
    next =>
      split at h
      next => cases h; rfl
      next => exact hrest h

end Localization.Json
