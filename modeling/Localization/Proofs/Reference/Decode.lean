import Mathlib.Data.List.TakeWhile
import Localization.Reference.Decode
import Localization.Proofs.Reference.Table
import Localization.Proofs.Text.Encodable

/-!
# Resolving references and the ends of a text

A text that can be encoded can still be encoded when its references are resolved: no reference
stands for a surrogate (`encodable_decode`). And white space at the ends of a text is no part of any
reference, so that it does not matter whether a text is trimmed before or after its references are
resolved (`decode_between`). The second half is not obvious, since a name goes on over a carriage
return: it holds because no listed name has one. Last, no reference begins inside another one, so
that a decimal one with too many digits is found wherever it stands (`exists_oversized_iff`).
-/

namespace Localization.Reference

/-! ## References stand for characters -/

/-- No number is mapped to a surrogate. -/
theorem isSurrogate_remapped : ∀ r ∈ remapped, ¬ (0xD800 ≤ r.2 ∧ r.2 ≤ 0xDFFF) := by
  decide

/-- What a number stands for has a UTF-8 form. -/
theorem encodable_numeric (n : Nat) : (numeric n).Encodable := by
  unfold numeric
  split
  next m hm =>
    obtain ⟨before, after, hremapped, -⟩ := List.lookup_eq_some_iff.1 hm
    have hmem : (n, m) ∈ remapped := by
      rw [hremapped]
      simp
    exact Text.Encodable.singleton_iff.2
      (CodePoint.isSurrogate_ofNat (isSurrogate_remapped _ hmem))
  next =>
    split
    next => exact Text.Encodable.singleton_iff.2 rfl
    next hn =>
      split
      · exact nofun
      · exact Text.Encodable.singleton_iff.2
          (CodePoint.isSurrogate_ofNat fun h => hn (.inl h))

/-- What the longest known name stands for has a UTF-8 form. -/
theorem encodable_longestNamed? {name r : Text} (hname : name.Encodable) {length : Nat}
    (h : longestNamed? name length = some r) : r.Encodable := by
  induction length with
  | zero => cases h
  | succ length ih =>
    rw [longestNamed?] at h
    split at h
    · cases h
    · split at h
      next t ht =>
        cases h
        exact Text.Encodable.append_iff.2
          ⟨(sound_of_named? ht).encodable, hname.subset (List.drop_subset _ _)⟩
      next => exact ih h

/-- What a name stands for has a UTF-8 form. -/
theorem encodable_byName {name : Text} (hname : name.Encodable) : (byName name).Encodable := by
  unfold byName
  split
  next t ht => exact (sound_of_named? ht).encodable
  next =>
    cases h : longestNamed? name (name.length - 1) with
    | none => exact Text.Encodable.cons_iff.2 ⟨rfl, hname⟩
    | some r => exact encodable_longestNamed? hname h

/-- What a reference by digits stands for has a UTF-8 form. -/
theorem encodable_digits? {base skip : Nat} {value? : CodePoint → Option Nat} {t : Text}
    {r : Text × Nat} (h : digits? base skip value? t = some r) : r.1.Encodable := by
  unfold digits? at h
  dsimp only at h
  split at h
  · cases h
  · cases h
    exact encodable_numeric _

/-- What a reference stands for has a UTF-8 form if the text has one. -/
theorem encodable_reference? {t : Text} (ht : t.Encodable) {r : Text × Nat}
    (h : reference? t = some r) : r.1.Encodable := by
  unfold reference? at h
  split at h
  · exact encodable_digits? h
  · exact encodable_digits? h
  · exact encodable_digits? h
  · dsimp only at h
    split at h
    · cases h
    · cases h
      exact encodable_byName (ht.subset (List.take_subset _ _))

/-- What is decoded from a text with a UTF-8 form has one. -/
theorem encodable_decodeAfter {t : Text} (ht : t.Encodable) (skip : Nat) :
    (decodeAfter skip t).Encodable := by
  induction t generalizing skip with
  | nil =>
    rw [decodeAfter]
    exact nofun
  | cons c t ih =>
    obtain ⟨hc, htail⟩ := Text.Encodable.cons_iff.1 ht
    have hkept : Text.Encodable (c :: decodeAfter 0 t) :=
      Text.Encodable.cons_iff.2 ⟨hc, ih htail 0⟩
    cases skip with
    | succ skip =>
      rw [decodeAfter]
      exact ih htail skip
    | zero =>
      rw [decodeAfter]
      split
      · split
        next hreference =>
          exact Text.Encodable.append_iff.2
            ⟨encodable_reference? htail hreference, ih htail _⟩
        next => exact hkept
      · exact hkept

/-- **Resolving the references of a text brings no surrogate into it.** -/
theorem encodable_decode {t : Text} (ht : t.Encodable) : (decode t).Encodable :=
  encodable_decodeAfter ht 0

/-! ## White space behind a text -/

/-- Every code point of the text is the space or comes before it. -/
def Low (t : Text) : Prop := ∀ c ∈ t, c.toNat ≤ 0x20

section
variable {t v : Text}

/-- White space without its first code points is white space. -/
theorem Low.drop (hv : Low v) (n : Nat) : Low (v.drop n) :=
  fun c hc => hv c (List.mem_of_mem_drop hc)

/-- The first code points of white space are white space. -/
theorem Low.take (hv : Low v) (n : Nat) : Low (v.take n) :=
  fun c hc => hv c (List.mem_of_mem_take hc)

/-- No listed name ends in white space. -/
theorem named?_append (hv : Low v) (hne : v ≠ []) : named? (t ++ v) = none := by
  rw [Option.eq_none_iff_forall_ne_some]
  intro r hr
  obtain ⟨c, v, rfl⟩ := List.exists_cons_of_ne_nil hne
  have hlow : c.toNat ≤ 0x20 := hv c (by simp)
  have hvisible : 0x20 < c.toNat := (sound_of_named? hr).visible c (by simp)
  omega

/-- A name of fewer than two code points is not listed, so looking for the longest beginning covers
the name itself. -/
theorem byName_eq (t : Text) :
    byName t = (longestNamed? t t.length).getD (.scalar '&' :: t) := by
  unfold byName
  cases hnamed : named? t with
  | some r =>
    have htwo : 2 ≤ t.length := (sound_of_named? hnamed).two_le
    obtain ⟨n, hn⟩ : ∃ n, t.length = n + 1 := ⟨t.length - 1, by omega⟩
    rw [hn, longestNamed?, if_neg (by omega), ← hn, List.take_length, hnamed, List.drop_length]
    simp
  | none =>
    cases hlength : t.length with
    | zero => rfl
    | succ n =>
      rw [longestNamed?, ← hlength, List.take_length, hnamed, hlength, Nat.add_sub_cancel]
      dsimp only
      split
      next hlt =>
        obtain rfl : n = 0 := by omega
        rfl
      next => rfl

/-- Within the name itself, looking for the longest beginning does not see what follows. -/
theorem longestNamed?_append {length : Nat} (h : length ≤ t.length) :
    longestNamed? (t ++ v) length = (longestNamed? t length).map (· ++ v) := by
  induction length with
  | zero => rfl
  | succ length ih =>
    rw [longestNamed?, longestNamed?, List.take_append_of_le_length h,
      List.drop_append_of_le_length h, ih (by omega)]
    split
    · rfl
    · cases named? (t.take (length + 1)) with
      | none => rfl
      | some r => simp

/-- White space behind a name never makes a longer beginning match. -/
theorem longestNamed?_beyond (hv : Low v) {n : Nat} (h : n ≤ v.length) :
    longestNamed? (t ++ v) (t.length + n) = longestNamed? (t ++ v) t.length := by
  induction n with
  | zero => rfl
  | succ n ih =>
    have hnone : named? ((t ++ v).take (t.length + n + 1)) = none := by
      rw [Nat.add_assoc, List.take_length_add_append]
      refine named?_append (hv.take _) ?_
      rw [ne_eq, List.take_eq_nil_iff, not_or]
      exact ⟨by omega, List.ne_nil_of_length_pos (by omega)⟩
    rw [← Nat.add_assoc, longestNamed?, hnone, ih (by omega)]
    split
    next hlt =>
      -- the text before has at most one code point, so that no beginning is looked for in it
      obtain ⟨ht, -⟩ | ⟨ht, -⟩ : t.length = 0 ∧ n = 0 ∨ t.length = 1 ∧ n = 0 := by omega
      all_goals
        rw [ht]
        rfl
    next => rfl

/-- White space behind a name stays behind what the name stands for. -/
theorem byName_append (hv : Low v) : byName (t ++ v) = byName t ++ v := by
  rw [byName_eq, byName_eq, List.length_append, longestNamed?_beyond hv (Nat.le_refl _),
    longestNamed?_append (Nat.le_refl _)]
  cases longestNamed? t t.length with
  | none => rfl
  | some r => rfl

/-- No code point up to the space is a digit, a number sign, a letter or a semicolon. -/
theorem ne_scalar_of_low {c : CodePoint} (hc : c.toNat ≤ 0x20) {d : Char} (hd : 0x20 < d.toNat) :
    c ≠ .scalar d := by
  rintro rfl
  have : d.toNat ≤ 0x20 := hc
  omega

/-- Only a semicolon in front is counted. -/
theorem semicolon_cons (c : CodePoint) (t : Text) :
    semicolon (c :: t) = if c = .scalar ';' then 1 else 0 := by
  unfold semicolon
  split
  next h =>
    cases h
    rfl
  next h =>
    rw [if_neg]
    rintro rfl
    exact h t rfl

/-- The semicolon that is counted is part of the text. -/
theorem semicolon_le (t : Text) : semicolon t ≤ t.length := by
  cases t with
  | nil => rfl
  | cons c t =>
    rw [semicolon_cons, List.length_cons]
    split <;> omega

/-- White space behind a text brings in no semicolon. -/
theorem semicolon_append (hv : Low v) : semicolon (t ++ v) = semicolon t := by
  cases t with
  | cons c t => rw [List.cons_append, semicolon_cons, semicolon_cons]
  | nil =>
    cases v with
    | nil => rfl
    | cons c v =>
      rw [List.nil_append, semicolon_cons, if_neg (ne_scalar_of_low (hv c (by simp)) (by decide))]
      rfl

/-- A reference by digits takes no more than the text has. -/
theorem digits?_le {base skip : Nat} {value? : CodePoint → Option Nat} {r : Text × Nat}
    (hskip : skip ≤ t.length) (h : digits? base skip value? t = some r) : r.2 ≤ t.length := by
  unfold digits? at h
  dsimp only at h
  split at h
  · cases h
  · cases h
    dsimp only
    generalize hds : (t.drop skip).takeWhile (fun c => (value? c).isSome) = ds
    have hlength : (ds.filterMap value?).length ≤ (t.drop skip).length := by
      rw [← hds]
      exact (List.length_filterMap_le _ _).trans (List.takeWhile_prefix _).length_le
    have hsemicolon := semicolon_le ((t.drop skip).drop (ds.filterMap value?).length)
    rw [List.length_drop] at hlength hsemicolon
    rw [List.length_drop] at hsemicolon
    omega

/-- White space behind a text is no part of a reference by digits. -/
theorem digits?_append {base skip : Nat} {value? : CodePoint → Option Nat} (hv : Low v)
    (hvalue : ∀ c : CodePoint, c.toNat ≤ 0x20 → value? c = none) (hskip : skip ≤ t.length) :
    digits? base skip value? (t ++ v) = digits? base skip value? t := by
  have hnone : v.takeWhile (fun c => (value? c).isSome) = [] := by
    cases v with
    | nil => rfl
    | cons c v => simp [hvalue c (hv c (by simp))]
  have htake : (t.drop skip ++ v).takeWhile (fun c => (value? c).isSome) =
      (t.drop skip).takeWhile (fun c => (value? c).isSome) := by
    rw [List.takeWhile_append, hnone, List.append_nil]
    split
    next h => exact ((List.takeWhile_prefix _).eq_of_length h).symm
    next => rfl
  unfold digits?
  dsimp only
  rw [List.drop_append_of_le_length hskip, htake]
  split
  · rfl
  · rw [List.drop_append_of_le_length, semicolon_append hv]
    exact (List.length_filterMap_le _ _).trans (List.takeWhile_prefix _).length_le

/-- What stands for an ampersand with the text behind it, and how much of that text it takes: a
reference, or the ampersand alone. -/
def lead (t : Text) : Text × Nat := (reference? t).getD ([.scalar '&'], 0)

/-- An ampersand is decoded by what it leads in, and the decoding goes on behind that. -/
theorem decodeAfter_ampersand (t : Text) :
    decodeAfter 0 (.scalar '&' :: t) = (lead t).1 ++ decodeAfter (lead t).2 t := by
  rw [decodeAfter, if_pos rfl, lead]
  cases reference? t with
  | none => rfl
  | some r => rfl

/-- White space behind a text does not change which of the other characters it starts with. -/
theorem head?_append_low (hv : Low v) {d : Char} (hd : 0x20 < d.toNat) :
    (t ++ v).head? = some (.scalar d) ↔ t.head? = some (.scalar d) := by
  cases t with
  | cons c t => rfl
  | nil =>
    cases v with
    | nil => rfl
    | cons c v =>
      have hc : c ≠ .scalar d := ne_scalar_of_low (hv c (by simp)) hd
      simp [hc]

/-- Without a number sign the reference is by name. -/
theorem reference?_of_head (h : t.head? ≠ some (.scalar '#')) :
    reference? t =
      let name := (t.takeWhile isNamePoint).take 32
      let length := name.length + semicolon (t.drop name.length)
      if name.isEmpty then none else some (byName (t.take length), length) := by
  unfold reference?
  split
  · exact absurd rfl h
  · exact absurd rfl h
  · exact absurd rfl h
  · rfl

/-- Behind a number sign the reference is by digits, hexadecimal behind an `x`. -/
theorem reference?_hash (t : Text) :
    reference? (.scalar '#' :: t) =
      if t.head? = some (.scalar 'x') ∨ t.head? = some (.scalar 'X') then
        digits? 16 2 CodePoint.hexDigit? (.scalar '#' :: t)
      else digits? 10 1 CodePoint.asciiDigit? (.scalar '#' :: t) := by
  unfold reference?
  split
  next h =>
    cases h
    rw [if_pos (.inl rfl)]
  next h =>
    cases h
    rw [if_pos (.inr rfl)]
  next rest hx hX h =>
    cases h
    rw [if_neg]
    rintro (h | h) <;> obtain ⟨t, rfl⟩ := List.head?_eq_some_iff.1 h
    · exact hx t rfl
    · exact hX t rfl
  next h => exact absurd rfl (h t)

/-- White space is no hexadecimal digit. -/
theorem hexDigit?_of_low (c : CodePoint) (hc : c.toNat ≤ 0x20) : c.hexDigit? = none := by
  unfold CodePoint.hexDigit?
  dsimp only
  rw [if_neg (by omega), if_neg (by omega), if_neg (by omega)]

/-- White space is no decimal digit. -/
theorem asciiDigit?_of_low (c : CodePoint) (hc : c.toNat ≤ 0x20) : c.asciiDigit? = none := by
  rw [CodePoint.asciiDigit?, if_neg]
  simp only [CodePoint.isAsciiDigit, Bool.and_eq_true, decide_eq_true_eq]
  omega

/-- How white space behind a text changes what an ampersand before it stands for: not at all, or,
if the reference reaches the end of the text, by some of the white space. -/
structure Lengthened (t v : Text) (n : Nat) : Prop where
  lead_eq : lead (t ++ v) = ((lead t).1 ++ v.take n, (lead t).2 + n)
  le : (lead t).2 ≤ t.length
  reaches : n = 0 ∨ (lead t).2 = t.length

/-- A reference that white space behind the text does not change is not lengthened. -/
theorem lengthened_of_reference?_eq (h : reference? (t ++ v) = reference? t)
    (hle : ∀ r, reference? t = some r → r.2 ≤ t.length) : Lengthened t v 0 where
  lead_eq := by
    rw [lead, lead, h, List.take_zero, List.append_nil]
    rfl
  le := by
    rw [lead]
    cases hr : reference? t with
    | none => exact Nat.zero_le _
    | some r => exact hle r hr
  reaches := .inl rfl

/-- A number ends before white space. -/
theorem lengthened_digits (hv : Low v) : Lengthened (.scalar '#' :: t) v 0 := by
  have hone : 1 ≤ (CodePoint.scalar '#' :: t).length := by simp
  have htwo (h : t.head? = some (.scalar 'x') ∨ t.head? = some (.scalar 'X')) :
      2 ≤ (CodePoint.scalar '#' :: t).length := by
    rcases h with h | h <;> obtain ⟨t, rfl⟩ := List.head?_eq_some_iff.1 h <;> simp
  refine lengthened_of_reference?_eq ?_ ?_
  · rw [List.cons_append, reference?_hash, reference?_hash]
    simp only [head?_append_low hv (d := 'x') (by decide),
      head?_append_low hv (d := 'X') (by decide)]
    split
    next h => exact digits?_append hv hexDigit?_of_low (htwo h)
    next => exact digits?_append hv asciiDigit?_of_low hone
  · intro r hr
    rw [reference?_hash] at hr
    split at hr
    next h => exact digits?_le (htwo h) hr
    next => exact digits?_le hone hr

/-- A name without a semicolon behind it, also if it is empty. -/
theorem lead_of_name (ht : t.head? ≠ some (.scalar '#')) (name : Text)
    (hname : (t.takeWhile isNamePoint).take 32 = name)
    (hsemicolon : semicolon (t.drop name.length) = 0) :
    lead t = (byName (t.take name.length), name.length) := by
  rw [lead, reference?_of_head ht, hname]
  dsimp only
  rw [hsemicolon, Nat.add_zero]
  cases name with
  | nil =>
    rw [List.length_nil, List.take_zero, byName_eq]
    rfl
  | cons c name => rfl

/-- A name that goes on to the end of the text may take some of the white space behind it. -/
theorem lengthened_of_name (hv : Low v) (ht : t.head? ≠ some (.scalar '#'))
    (htv : (t ++ v).head? ≠ some (.scalar '#')) (hname : t.takeWhile isNamePoint = t)
    (hlt : t.length < 32) :
    Lengthened t v ((v.takeWhile isNamePoint).take (32 - t.length)).length := by
  have hlead : lead t = (byName t, t.length) := by
    rw [lead_of_name ht t, List.take_length]
    · rw [hname, List.take_of_length_le (by omega)]
    · rw [List.drop_length]
      rfl
  generalize hw : (v.takeWhile isNamePoint).take (32 - t.length) = w
  have hnameV : ((t ++ v).takeWhile isNamePoint).take 32 = t ++ w := by
    rw [List.takeWhile_append, if_pos (congrArg List.length hname), List.take_append,
      List.take_of_length_le (by omega), hw]
  have hleadV : lead (t ++ v) = (byName (t ++ v.take w.length), t.length + w.length) := by
    rw [lead_of_name htv _ hnameV, List.length_append, List.take_length_add_append]
    rw [List.length_append, List.drop_length_add_append]
    exact semicolon_append (t := []) (hv.drop _)
  constructor
  case lead_eq => rw [hlead, hleadV, byName_append (hv.take _)]
  case le => rw [hlead]
  case reaches => exact .inr (by rw [hlead])

/-- A name with the semicolon behind it lies within the text. -/
theorem length_name_le (t : Text) :
    ((t.takeWhile isNamePoint).take 32).length +
      semicolon (t.drop ((t.takeWhile isNamePoint).take 32).length) ≤ t.length := by
  have hle : ((t.takeWhile isNamePoint).take 32).length ≤ t.length :=
    ((List.take_prefix _ _).trans (List.takeWhile_prefix _)).length_le
  have hsemicolon := semicolon_le (t.drop ((t.takeWhile isNamePoint).take 32).length)
  rw [List.length_drop] at hsemicolon
  omega

/-- A name ends before white space, or it ends with the text and takes some of the white space. -/
theorem exists_lengthened_name (hv : Low v) (ht : t.head? ≠ some (.scalar '#')) :
    ∃ n, Lengthened t v n := by
  have htv : (t ++ v).head? ≠ some (.scalar '#') := fun h =>
    ht ((head?_append_low hv (by decide)).1 h)
  by_cases hall : (t.takeWhile isNamePoint).length = t.length ∧ t.length < 32
  · exact ⟨_, lengthened_of_name hv ht htv ((List.takeWhile_prefix _).eq_of_length hall.1) hall.2⟩
  · have hname : ((t ++ v).takeWhile isNamePoint).take 32 = (t.takeWhile isNamePoint).take 32 := by
      rw [List.takeWhile_append]
      split
      next h =>
        rw [List.take_append_of_le_length (by omega), (List.takeWhile_prefix _).eq_of_length h]
      next => rfl
    have hle := length_name_le t
    refine ⟨0, lengthened_of_reference?_eq ?_ ?_⟩
    · rw [reference?_of_head ht, reference?_of_head htv, hname]
      dsimp only
      rw [List.drop_append_of_le_length (by omega), semicolon_append hv,
        List.take_append_of_le_length hle]
    · intro r hr
      rw [reference?_of_head ht] at hr
      dsimp only at hr
      split at hr
      · cases hr
      · cases hr
        exact hle

/-- White space behind a text lengthens what an ampersand stands for by some of it. -/
theorem exists_lengthened (hv : Low v) (t : Text) : ∃ n, Lengthened t v n := by
  by_cases ht : t.head? = some (.scalar '#')
  · obtain ⟨c, t, rfl⟩ := List.exists_cons_of_ne_nil (l := t) (by rintro rfl; cases ht)
    cases ht
    exact ⟨0, lengthened_digits hv⟩
  · exact exists_lengthened_name hv ht

/-- A text without an ampersand stands for itself. -/
theorem decodeAfter_low_append (hv : Low v) (rest : Text) :
    decodeAfter 0 (v ++ rest) = v ++ decodeAfter 0 rest := by
  induction v with
  | nil => rfl
  | cons c v ih =>
    have hc : c ≠ .scalar '&' := ne_scalar_of_low (hv c (by simp)) (by decide)
    rw [List.cons_append, decodeAfter, if_neg hc, ih fun d hd => hv d (List.mem_cons_of_mem _ hd),
      List.cons_append]

/-- White space is decoded to itself. -/
theorem decodeAfter_low (hv : Low v) : decodeAfter 0 v = v := by
  rw [← List.append_nil v, decodeAfter_low_append hv, decodeAfter]

/-- Decoding after some code points are skipped is decoding what they leave. -/
theorem decodeAfter_drop (n : Nat) (t : Text) : decodeAfter n t = decodeAfter 0 (t.drop n) := by
  induction t generalizing n with
  | nil => cases n <;> rfl
  | cons c t ih =>
    cases n with
    | zero => rfl
    | succ n => rw [decodeAfter, List.drop_succ_cons, ih]

/-- White space behind a text stays behind what the text is decoded to. -/
theorem decodeAfter_append (hv : Low v) {skip : Nat} (hskip : skip ≤ t.length) :
    decodeAfter skip (t ++ v) = decodeAfter skip t ++ v := by
  induction t generalizing skip with
  | nil =>
    obtain rfl : skip = 0 := Nat.le_zero.1 hskip
    exact decodeAfter_low hv
  | cons c t ih =>
    cases skip with
    | succ skip =>
      rw [List.cons_append, decodeAfter, decodeAfter]
      exact ih (Nat.le_of_succ_le_succ hskip)
    | zero =>
      by_cases hc : c = .scalar '&'
      · subst hc
        obtain ⟨n, h⟩ := exists_lengthened hv t
        rw [List.cons_append, decodeAfter_ampersand, decodeAfter_ampersand, h.lead_eq]
        rcases h.reaches with rfl | hreaches
        · rw [List.take_zero, List.append_nil, Nat.add_zero, ih h.le, List.append_assoc]
        · -- the reference goes on over some of the white space, and nothing but white space is left
          have hnone : decodeAfter t.length t = [] := by
            rw [decodeAfter_drop, List.drop_length, decodeAfter]
          rw [hreaches, decodeAfter_drop, List.drop_length_add_append,
            decodeAfter_low (hv.drop n), hnone, List.append_assoc, List.take_append_drop,
            List.append_nil]
      · rw [List.cons_append, decodeAfter, decodeAfter, if_neg hc, if_neg hc,
          ih (Nat.zero_le _), List.cons_append]

/-- **White space at the ends of a text is no part of its references.** -/
theorem decode_between {u : Text} (hu : Low u) (hv : Low v) :
    decode (u ++ t ++ v) = u ++ decode t ++ v := by
  rw [decode, decodeAfter_append hv (Nat.zero_le _), decodeAfter_low_append hu, decode]

/-! ## References with too many digits -/

/-- Code points of a class without the ampersand, with a semicolon behind them if one stands there,
have no ampersand in them. -/
theorem not_ampersand_take {p : CodePoint → Bool} (hp : p (.scalar '&') = false) {n : Nat}
    (hn : n ≤ (t.takeWhile p).length) : .scalar '&' ∉ t.take (n + semicolon (t.drop n)) := by
  rw [List.take_add, List.mem_append]
  rintro (hmem | hmem)
  · obtain ⟨u, hu⟩ := List.takeWhile_prefix (l := t) p
    rw [← hu, List.take_append_of_le_length hn] at hmem
    rw [List.mem_takeWhile_imp (List.mem_of_mem_take hmem)] at hp
    cases hp
  · cases hdrop : t.drop n with
    | nil => simp [hdrop] at hmem
    | cons c u =>
      rw [hdrop, semicolon_cons] at hmem
      split at hmem
      next hc =>
        rw [hc, List.take_succ_cons, List.take_zero, List.mem_singleton] at hmem
        cases hmem
      next => simp at hmem

/-- A reference by digits has no ampersand in it. -/
theorem not_ampersand_of_digits? {base skip : Nat} {value? : CodePoint → Option Nat}
    {r : Text × Nat} (hskip : .scalar '&' ∉ t.take skip) (hvalue : value? (.scalar '&') = none)
    (h : digits? base skip value? t = some r) : .scalar '&' ∉ t.take r.2 := by
  unfold digits? at h
  dsimp only at h
  split at h
  · cases h
  · cases h
    dsimp only
    rw [Nat.add_assoc, List.take_add, List.mem_append, not_or]
    exact ⟨hskip, not_ampersand_take (p := fun c => (value? c).isSome) (by simp [hvalue])
      (List.length_filterMap_le _ _)⟩

/-- A reference has no ampersand in it. -/
theorem not_ampersand_of_reference? {r : Text × Nat} (h : reference? t = some r) :
    .scalar '&' ∉ t.take r.2 := by
  by_cases hhash : t.head? = some (.scalar '#')
  · obtain ⟨u, rfl⟩ : ∃ u, t = .scalar '#' :: u := by
      cases t with
      | nil => cases hhash
      | cons c u => exact ⟨u, by rw [Option.some.inj hhash]⟩
    rw [reference?_hash] at h
    split at h
    next hx =>
      refine not_ampersand_of_digits? ?_ (by decide) h
      cases u with
      | nil => simp
      | cons d u => rcases hx with hx | hx <;> cases hx <;> simp
    next => exact not_ampersand_of_digits? (by simp) (by decide) h
  · rw [reference?_of_head hhash] at h
    dsimp only at h
    split at h
    · cases h
    · cases h
      exact not_ampersand_take (p := isNamePoint) (by decide) (List.take_prefix _ _).length_le

/-- Somewhere in a text more decimal digits than are read stand behind an ampersand and a number
sign. -/
def Oversized (t : Text) : Prop :=
  ∃ behind, .scalar '&' :: .scalar '#' :: behind <:+ t ∧
    Text.digitLimit < (behind.takeWhile CodePoint.isAsciiDigit).length

/-- A decimal reference with too many digits stands in front or further on. -/
theorem oversized_cons {c : CodePoint} : Oversized (c :: t) ↔
    c = .scalar '&' ∧ Text.digitLimit < decimalDigits t ∨ Oversized t := by
  unfold Oversized
  constructor
  · rintro ⟨behind, hsuffix, hlength⟩
    rcases List.suffix_cons_iff.1 hsuffix with heq | hsuffix
    · cases heq
      exact .inl ⟨rfl, hlength⟩
    · exact .inr ⟨behind, hsuffix, hlength⟩
  · rintro (⟨rfl, hlength⟩ | ⟨behind, hsuffix, hlength⟩)
    · unfold decimalDigits at hlength
      split at hlength
      next behind => exact ⟨behind, List.suffix_refl _, hlength⟩
      next => cases hlength
    · exact ⟨behind, hsuffix.trans (List.suffix_cons c t), hlength⟩

/-- Passing over references misses no decimal reference with too many digits, since none begins
inside another reference. -/
theorem exists_oversizedAfter_iff {skip : Nat} (hskip : .scalar '&' ∉ t.take skip) :
    (∃ n, oversizedAfter skip t = some n) ↔ Oversized t := by
  induction t generalizing skip with
  | nil => simp [oversizedAfter, Oversized]
  | cons c t ih =>
    rw [oversized_cons]
    cases skip with
    | succ skip =>
      rw [List.take_succ_cons, List.mem_cons, not_or] at hskip
      rw [oversizedAfter, ih hskip.2]
      exact ⟨.inr, fun h => h.resolve_left fun hc => hskip.1 hc.1.symm⟩
    | zero =>
      rw [oversizedAfter]
      by_cases hc : c = .scalar '&'
      · rw [if_pos hc]
        by_cases hlength : Text.digitLimit < decimalDigits t
        · rw [if_pos hlength]
          exact ⟨fun _ => .inl ⟨hc, hlength⟩, fun _ => ⟨_, rfl⟩⟩
        · rw [if_neg hlength]
          have hrest : Oversized t ↔ c = .scalar '&' ∧ Text.digitLimit < decimalDigits t ∨
              Oversized t := ⟨.inr, fun h => h.resolve_left fun hc => hlength hc.2⟩
          rw [← hrest]
          cases hreference : reference? t with
          | none => exact ih (by simp)
          | some r => exact ih (not_ampersand_of_reference? hreference)
      · rw [if_neg hc, ih (by simp)]
        exact ⟨.inr, fun h => h.resolve_left fun h => hc h.1⟩

/-- A decimal reference with too many digits is found exactly where there is one. -/
theorem exists_oversized_iff : (∃ n, oversized? t = some n) ↔ Oversized t :=
  exists_oversizedAfter_iff (by simp)

end

end Localization.Reference
