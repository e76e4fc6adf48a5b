import Localization.Proofs.Text.Classes
import Localization.Proofs.Text.Order
import Localization.Text.Case

/-!
# Texts in either case

A lead in whatever case it is written: each of its letters has the lower-case form of the letter in
the lead (`InEitherCase`). The lower-case form of a text is taken letter by letter but for capital
sigma, which looks at its neighbours, and letter for letter but for the dotted capital I, which
becomes two code points. So whether a text begins with a lead can be read off the lower-case forms
of both if the lead has none of the code points that these two letters become (`begins_iff`).
-/

namespace Localization

namespace CodePoint

/-- The lower-case form of a code point is one code point, or an `i` and a dot above it. -/
theorem lower_cases (c : CodePoint) :
    (∃ d, c.lower = [d]) ∨ c.lower = [.scalar 'i', .scalar '\u0307'] := by
  unfold lower
  split
  next n _ => exact .inl ⟨_, rfl⟩
  next =>
    split
    next ns hns =>
      obtain ⟨front, back, hsplit, -⟩ := List.lookup_eq_some_iff.1 hns
      have hmem : (c.toNat, ns) ∈ lowerExpansions := by
        rw [hsplit]
        simp
      obtain rfl : ns = [0x69, 0x307] := (Prod.mk.inj (List.mem_singleton.1 hmem)).2
      exact .inr rfl
    next => exact .inl ⟨c, rfl⟩

/-- The lower case of the capital sigma by itself. -/
theorem lower_sigma : (scalar 'Σ').lower = [.scalar 'σ'] := by decide +kernel

/-- A blank has no other case. -/
theorem lower_of_isBlank {c : CodePoint} (h : c.isBlank = true) : c.lower = [c] := by
  have hall : ∀ r ∈ blankRanges, ∀ i < r.2 + 1 - r.1,
      (ofNat (r.1 + i)).lower = [ofNat (r.1 + i)] := by
    decide +kernel
  obtain ⟨r, hr, hlow, hhigh⟩ := Text.exists_of_inRanges h
  have hblank := hall r hr (c.toNat - r.1) (by omega)
  rwa [Nat.add_sub_cancel' hlow, ofNat_toNat] at hblank

end CodePoint

namespace Text

variable {lead t written : Text}

/-- A text is another one but for the case of its letters. -/
def InEitherCase (lead written : Text) : Prop :=
  written.map CodePoint.lower = lead.map CodePoint.lower

/-- A lead-in is as long in either case. -/
theorem InEitherCase.length_eq (h : InEitherCase lead written) : written.length = lead.length := by
  simpa using congrArg List.length h

/-- Without a capital sigma, lower case is taken code point by code point. -/
theorem lowerAfter_append (h : CodePoint.scalar 'Σ' ∉ written) (before t : Text) :
    lowerAfter before (written ++ t) =
      (written.map CodePoint.lower).flatten ++ lowerAfter (written.reverse ++ before) t := by
  induction written generalizing before with
  | nil => rfl
  | cons c written ih =>
    obtain ⟨hc, hwritten⟩ := not_or.1 (mt List.mem_cons.2 h)
    rw [List.cons_append, lowerAfter, if_neg (Ne.symm hc), ih hwritten]
    simp

/-- A lead that no letter with a rule of its own is lowered to: it has no sigma, no dot above a
letter, and does not end in an `i`. -/
structure Regular (lead : Text) : Prop where
  sigma : ∀ c ∈ lead, c ≠ .scalar 'σ' ∧ c ≠ .scalar 'ς'
  dot : CodePoint.scalar '\u0307' ∉ lead
  last : lead.getLast? ≠ some (.scalar 'i')

/-- What follows the first code point of a regular lead-in is regular. -/
theorem Regular.tail {c : CodePoint} (h : Regular (c :: lead)) : Regular lead where
  sigma d hd := h.sigma d (List.mem_cons_of_mem c hd)
  dot hdot := h.dot (List.mem_cons_of_mem c hdot)
  last hlast := by
    cases lead with
    | nil => cases hlast
    | cons d lead => exact h.last (by rwa [List.getLast?_cons_cons])

/-- What begins, in lower case, with a regular text begins with letters that are lowered to it. -/
theorem exists_of_prefix_lowerAfter (hlead : Regular lead) {before : Text}
    (h : lead <+: lowerAfter before t) :
    ∃ written rest, t = written ++ rest ∧ written.map CodePoint.lower = lead.map ([·]) := by
  induction lead generalizing before t with
  | nil => exact ⟨[], t, rfl, rfl⟩
  | cons x lead ih =>
    cases t with
    | nil => exact absurd h (by simp [lowerAfter])
    | cons c t =>
      rw [lowerAfter] at h
      split at h
      next =>
        have hx := (List.cons_prefix_cons.1 h).1
        obtain ⟨hsigma, hfinal⟩ := hlead.sigma x List.mem_cons_self
        split at hx
        · exact absurd hx hfinal
        · exact absurd hx hsigma
      next =>
        obtain ⟨d, hd⟩ | hdotted := c.lower_cases
        · rw [hd] at h
          obtain ⟨rfl, hrest⟩ := List.cons_prefix_cons.1 h
          obtain ⟨written, rest, rfl, hwritten⟩ := ih hlead.tail hrest
          exact ⟨c :: written, rest, rfl, by rw [List.map_cons, List.map_cons, hd, hwritten]⟩
        · rw [hdotted] at h
          obtain ⟨rfl, hrest⟩ := List.cons_prefix_cons.1 h
          cases lead with
          | nil => exact absurd rfl hlead.last
          | cons y lead =>
            obtain rfl := (List.cons_prefix_cons.1 hrest).1
            exact absurd (by simp) hlead.dot

/-- A lead whose lower-case form is regular, and is taken code point by code point. -/
structure Plain (lead : Text) : Prop where
  regular : Regular lead.lower
  pointwise : lead.map CodePoint.lower = lead.lower.map ([·])

/-- A text begins with a plain lead in whatever case it is written exactly if its lower-case form
begins with that of the lead. -/
theorem begins_iff (hlead : Plain lead) : lead.lower <+: t.lower ↔
    ∃ written rest, t = written ++ rest ∧ InEitherCase lead written := by
  constructor
  · intro h
    obtain ⟨written, rest, ht, hwritten⟩ := exists_of_prefix_lowerAfter hlead.regular h
    exact ⟨written, rest, ht, hwritten.trans hlead.pointwise.symm⟩
  · rintro ⟨written, rest, rfl, hcase⟩
    have hwritten : written.map CodePoint.lower = lead.lower.map ([·]) :=
      hcase.trans hlead.pointwise
    have hsigma : CodePoint.scalar 'Σ' ∉ written := by
      intro hmem
      have hlower : (CodePoint.scalar 'Σ').lower ∈ lead.lower.map ([·]) := by
        rw [← hwritten]
        exact List.mem_map_of_mem hmem
      rw [CodePoint.lower_sigma] at hlower
      obtain ⟨c, hc, heq⟩ := List.mem_map.1 hlower
      exact (hlead.regular.sigma c hc).1 (List.singleton_inj.1 heq)
    have hflatten : (lead.lower.map ([·])).flatten = lead.lower := by
      rw [← List.flatMap_def, List.flatMap_singleton']
    rw [lower.eq_def (written ++ rest), lowerAfter_append hsigma, hwritten, hflatten]
    exact List.prefix_append _ _

end Text

end Localization
