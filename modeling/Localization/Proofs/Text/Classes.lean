import Mathlib.Data.List.Chain
import Localization.Text.Blank
import Localization.Text.Digit
import Localization.Text.Word

/-!
# Classes of code points beside each other

A class that is stored as ranges is what its ranges hold together (`inRanges_iff`), since their
starts increase. So how two classes lie to each other is read off their ranges: every decimal digit
is a word character, and no blank is one.
-/

namespace Localization

namespace Text

/-- A member of a list of ranges is in one of them. -/
theorem exists_of_inRanges {rs : List (Nat × Nat)} {n : Nat} (h : inRanges rs n = true) :
    ∃ r ∈ rs, r.1 ≤ n ∧ n ≤ r.2 := by
  induction rs with
  | nil => simp [inRanges] at h
  | cons r rs ih =>
    obtain ⟨low, high⟩ := r
    rw [inRanges] at h
    split at h
    case isTrue => simp at h
    case isFalse hlow =>
      rw [Bool.or_eq_true, decide_eq_true_eq] at h
      obtain hhigh | h := h
      · exact ⟨(low, high), List.mem_cons_self, by omega, hhigh⟩
      · obtain ⟨r, hr, hn⟩ := ih h
        exact ⟨r, List.mem_cons_of_mem _ hr, hn⟩

/-- Where the starts increase, the walk does not stop before a range that holds the number. -/
theorem inRanges_iff {rs : List (Nat × Nat)} (hrs : rs.IsChain fun r s => r.1 ≤ s.1) {n : Nat} :
    inRanges rs n = true ↔ ∃ r ∈ rs, r.1 ≤ n ∧ n ≤ r.2 := by
  refine ⟨exists_of_inRanges, ?_⟩
  have htrans : IsTrans (Nat × Nat) fun r s => r.1 ≤ s.1 := ⟨fun _ _ _ => Nat.le_trans⟩
  have hpair := List.isChain_iff_pairwise.1 hrs
  clear hrs
  rintro ⟨r, hr, hlow, hhigh⟩
  induction rs with
  | nil => simp at hr
  | cons s rs ih =>
    obtain ⟨low, high⟩ := s
    obtain ⟨hs, hpair⟩ := List.pairwise_cons.1 hpair
    rw [inRanges]
    obtain rfl | hr := List.mem_cons.1 hr
    · rw [if_neg (by omega), Bool.or_eq_true, decide_eq_true_eq]
      exact .inl hhigh
    · have := hs r hr
      rw [if_neg (by omega), ih hpair hr, Bool.or_true]

end Text

namespace CodePoint

variable {c : CodePoint}

/-- A code point is alphanumeric exactly when it lies in one of the ranges. -/
theorem isAlphanumeric_iff :
    c.isAlphanumeric = true ↔ ∃ r ∈ alphanumericRanges, r.1 ≤ c.toNat ∧ c.toNat ≤ r.2 :=
  Text.inRanges_iff (by decide +kernel)

/-- An alphanumeric code point may stand in a word. -/
theorem isWord_of_isAlphanumeric (h : c.isAlphanumeric = true) : c.isWord = true := by
  rw [isWord, h, Bool.or_true]

/-- A digit may stand in a word. -/
theorem isWord_of_isDigit (h : c.isDigit = true) : c.isWord = true := by
  have hinside : ∀ r ∈ digitRanges,
      (alphanumericRanges.any fun s => s.1.ble r.1 && r.2.ble s.2) = true := by
    decide +kernel
  obtain ⟨r, hr, hlow, hhigh⟩ := Text.exists_of_inRanges h
  obtain ⟨s, hs, hbounds⟩ := List.any_eq_true.1 (hinside r hr)
  rw [Bool.and_eq_true, Nat.ble_eq, Nat.ble_eq] at hbounds
  obtain ⟨hleft, hright⟩ := hbounds
  exact isWord_of_isAlphanumeric
    (isAlphanumeric_iff.2 ⟨s, hs, hleft.trans hlow, hhigh.trans hright⟩)

/-- A decimal digit may stand in a word. -/
theorem isWord_of_isAsciiDigit (h : c.isAsciiDigit = true) : c.isWord = true := by
  rw [isAsciiDigit, Bool.and_eq_true, decide_eq_true_eq, decide_eq_true_eq] at h
  exact isWord_of_isAlphanumeric
    (isAlphanumeric_iff.2 ⟨(0x30, 0x39), .head _, h⟩)

/-- A capital letter may stand in a word. -/
theorem isWord_of_isAsciiUpper (h : c.isAsciiUpper = true) : c.isWord = true := by
  rw [isAsciiUpper, Bool.and_eq_true, decide_eq_true_eq, decide_eq_true_eq] at h
  exact isWord_of_isAlphanumeric
    (isAlphanumeric_iff.2 ⟨(0x41, 0x5A), .tail _ (.head _), h⟩)

/-- A lower-case letter may stand in a word. -/
theorem isWord_of_isAsciiLower (h : c.isAsciiLower = true) : c.isWord = true := by
  rw [isAsciiLower, Bool.and_eq_true, decide_eq_true_eq, decide_eq_true_eq] at h
  exact isWord_of_isAlphanumeric
    (isAlphanumeric_iff.2 ⟨(0x61, 0x7A), .tail _ (.tail _ (.head _)), h⟩)

/-- Blanks stand between words. -/
theorem isWord_of_isBlank (h : c.isBlank = true) : c.isWord = false := by
  have hapart : ∀ r ∈ blankRanges, ∀ s ∈ (0x5F, 0x5F) :: alphanumericRanges,
      (r.2.blt s.1 || s.2.blt r.1) = true := by
    decide +kernel
  simp only [Bool.or_eq_true, Nat.blt_eq] at hapart
  obtain ⟨r, hr, hlow, hhigh⟩ := Text.exists_of_inRanges h
  refine Bool.eq_false_iff.2 fun hword => ?_
  rw [isWord, Bool.or_eq_true, decide_eq_true_eq] at hword
  obtain rfl | hword := hword
  · have hself : (CodePoint.scalar '_').toNat = 0x5F := rfl
    have := hapart r hr (0x5F, 0x5F) List.mem_cons_self
    omega
  · obtain ⟨s, hs, hleft, hright⟩ := isAlphanumeric_iff.1 hword
    have := hapart r hr s (List.mem_cons_of_mem _ hs)
    omega

end CodePoint

end Localization
