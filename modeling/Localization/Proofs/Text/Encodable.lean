import Mathlib.Data.List.Basic
import Localization.Text.Blank

/-!
# Texts with a UTF-8 form

A text has a UTF-8 form if it holds no surrogate. This is about its code points one by one, so that
parts of such a text have a form, too, and so has what is put together from such texts. Of the code
points with a number, the surrogates are those in a range.
-/

namespace Localization

/-- The code point of a number is a surrogate exactly when the number is in the surrogate range. -/
theorem CodePoint.isSurrogate_of_ofNat? {n : Nat} {c : CodePoint} (h : ofNat? n = some c) :
    c.isSurrogate = true ↔ 0xD800 ≤ n ∧ n ≤ 0xDFFF := by
  unfold ofNat? at h
  by_cases hvalid : n.isValidChar
  · rw [dif_pos hvalid] at h
    cases h
    refine iff_of_false Bool.false_ne_true ?_
    rcases hvalid with hvalid | hvalid <;> omega
  · rw [dif_neg hvalid] at h
    split at h
    next hrange =>
      cases h
      exact iff_of_true rfl hrange
    next => cases h

/-- A number that is no surrogate's stands for a character, be it the replacement character. -/
theorem CodePoint.isSurrogate_ofNat {n : Nat} (h : ¬ (0xD800 ≤ n ∧ n ≤ 0xDFFF)) :
    (ofNat n).isSurrogate = false := by
  rw [ofNat]
  cases hc : ofNat? n with
  | none => rfl
  | some c => exact Bool.eq_false_iff.2 fun hs => h ((isSurrogate_of_ofNat? hc).1 hs)

/-- A text of characters has a UTF-8 form. -/
theorem Text.encodable_ofChars (cs : List Char) : (Text.ofChars cs).Encodable := by
  intro c hc
  obtain ⟨d, -, rfl⟩ := List.mem_map.1 hc
  rfl

namespace Text.Encodable

variable {s t : Text}

/-- A text of code points of one with a UTF-8 form has one. -/
theorem subset (ht : t.Encodable) (h : s ⊆ t) : s.Encodable := fun c hc => ht c (h hc)

/-- Two texts together have a UTF-8 form when each has one. -/
theorem append_iff : Text.Encodable (s ++ t) ↔ s.Encodable ∧ t.Encodable :=
  List.forall_mem_append

/-- A text has a UTF-8 form when its first code point is no surrogate and the rest has one. -/
theorem cons_iff {c : CodePoint} :
    Text.Encodable (c :: t) ↔ c.isSurrogate = false ∧ t.Encodable :=
  List.forall_mem_cons

/-- One code point has a UTF-8 form when it is no surrogate. -/
theorem singleton_iff {c : CodePoint} : Text.Encodable [c] ↔ c.isSurrogate = false :=
  List.forall_mem_singleton

/-- Trimming the end keeps the UTF-8 form. -/
theorem trimEnd (p : CodePoint → Bool) (ht : t.Encodable) : (Text.trimEnd p t).Encodable := by
  induction t with
  | nil => exact ht
  | cons c t ih =>
    obtain ⟨hc, ht⟩ := cons_iff.1 ht
    rw [Text.trimEnd]
    split
    · split
      · exact nofun
      · exact singleton_iff.2 hc
    · exact cons_iff.2 ⟨hc, ih ht⟩

/-- Trimming both ends keeps the UTF-8 form. -/
theorem strip (ht : t.Encodable) : t.strip.Encodable :=
  trimEnd _ (ht.subset (List.dropWhile_subset _))

end Text.Encodable

end Localization
