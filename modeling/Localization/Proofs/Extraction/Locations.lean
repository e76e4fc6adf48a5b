import Localization.Proofs.Extraction.Replacements
import Localization.Proofs.Source.Lines

/-!
# Locations tell literals apart

A pass keeps the locations of the literals that it has replaced and refuses a literal at one of
them. Locations grow with the offset, so that different boundaries have different ones: a literal is
refused only where one that starts at the very same byte was replaced before
(`locations_grow`).
-/

namespace Localization

namespace Extraction

variable {o : WrapOptions} {source : Source} {p q : Pass} {rs : List Replacement} {m n : Nat}

/-- After a literal its location is taken, whether it was so before or not; no other location comes
in. -/
theorem mem_taken_of_take {r : Replacement} (h : p.take o source r = .ok q) (l : Location) :
    l ∈ q.taken ↔ l ∈ p.taken ∨ r.location source = l := by
  unfold Pass.take Pass.replace at h
  dsimp only at h
  split at h
  next htaken =>
    cases h
    refine ⟨.inl, fun hl => hl.elim id ?_⟩
    rintro rfl
    exact List.contains_iff_mem.1 htaken
  next =>
    obtain ⟨⟨key, registry⟩, -, h⟩ := bind_eq_ok.1 h
    cases h
    exact List.mem_cons.trans (or_comm.trans (or_congr_right eq_comm))

/-- After a run over literals the locations of all of them are taken. -/
theorem mem_taken_of_run (h : rs.foldlM (Pass.take o source) p = .ok q) (l : Location) :
    l ∈ q.taken ↔ l ∈ p.taken ∨ ∃ r ∈ rs, r.location source = l := by
  have hall := foldlM_extends (fun r => [r])
    (R := fun rs p q => ∀ l, l ∈ q.taken ↔ l ∈ p.taken ∨ ∃ r ∈ rs, r.location source = l)
    (fun _ _ => by simp)
    (fun hpq hqr l => by
      rw [hqr, hpq, or_assoc]
      simp only [List.mem_append, or_and_right, exists_or])
    (fun _ _ _ hstep l => by simpa using mem_taken_of_take hstep l) h
  rw [List.flatMap_singleton'] at hall
  exact hall l

/-- **Locations grow with the offset.** Of two boundaries the later one has the greater location. A
boundary's location is one more than the number of line feeds in front of it and the number of
characters between the last of these and the boundary; the line is the one that a search among the
starts of lines finds. So a run over literals that starts with no location taken refuses a literal
only if an earlier one started at the same offset. -/
theorem locations_grow {registry : Key.Registry} (hm : source.IsBoundary m)
    (hn : source.IsBoundary n) (hstarts : ∀ r ∈ rs, source.IsBoundary r.span.start)
    (hrun : rs.foldlM (Pass.take o source) ⟨registry, [], [], []⟩ = .ok p) :
    ((source.location m).Before (source.location n) ↔ m < n) ∧
    (∃ lines line, source.Reaches lines line n ∧
      source.location n = ⟨1 + lines.count '\n', line.length⟩) ∧
    source.location n = source.searched n ∧
    (p.taken.contains (source.location n) = true ↔ ∃ r ∈ rs, r.span.start = n) := by
  obtain ⟨lines, line, hreaches⟩ := hn.exists_reaches
  refine ⟨hm.location_before_iff hn, ⟨lines, line, hreaches, hreaches.location_eq⟩,
    source.location_eq_searched n, ?_⟩
  rw [List.contains_iff_mem, mem_taken_of_run hrun]
  constructor
  · rintro (htaken | ⟨r, hr, hlocation⟩)
    · cases htaken
    · exact ⟨r, hr, (hstarts r hr).location_inj hn hlocation⟩
  · rintro ⟨r, hr, rfl⟩
    exact .inr ⟨r, hr, rfl⟩

/-- Two lines, the first with a character of two bytes and a literal on each. -/
def twoLines : Source := .ofChars "aé\nb".toList

/-- The literals of the two lines. -/
def lineLiterals : List Replacement := [⟨.text, "aé", ⟨0, 3⟩⟩, ⟨.text, "b", ⟨4, 5⟩⟩]

/-- The line feed stands at the end of the first line and the second literal at the start of the
second one; after the run over the two literals, the one's location is free and the other's is
taken. -/
theorem locations_grow_twoLines :
    twoLines.IsBoundary 3 ∧ twoLines.IsBoundary 4 ∧
    ∃ p, lineLiterals.foldlM (Pass.take plainOptions twoLines) ⟨.empty "A.tsx" [], [], [], []⟩ =
        .ok p ∧
      (twoLines.location 3).Before (twoLines.location 4) ∧
      twoLines.location 4 = ⟨2, 0⟩ ∧ twoLines.searched 4 = ⟨2, 0⟩ ∧
      p.taken.contains (twoLines.location 3) = false ∧
      p.taken.contains (twoLines.location 4) = true := by
  have hthree : twoLines.IsBoundary 3 := by decide +kernel
  have hfour : twoLines.IsBoundary 4 := by decide +kernel
  have hstarts : ∀ r ∈ lineLiterals, twoLines.IsBoundary r.span.start := by decide +kernel
  have hsome : (lineLiterals.foldlM (Pass.take plainOptions twoLines)
      ⟨.empty "A.tsx" [], [], [], []⟩).toOption.isSome = true := by
    decide +kernel
  obtain ⟨p, hp⟩ := Option.isSome_iff_exists.1 hsome
  have hrun := eq_ok_of_toOption hp
  obtain ⟨hbefore, -, hsearched, htaken⟩ := locations_grow hthree hfour hstarts hrun
  obtain ⟨-, -, -, hfree⟩ := locations_grow hthree hthree hstarts hrun
  have hlocation : twoLines.location 4 = ⟨2, 0⟩ := by decide +kernel
  refine ⟨hthree, hfour, p, hrun, hbefore.2 (by decide), hlocation, hsearched ▸ hlocation, ?_,
    htaken.2 (by decide)⟩
  refine Bool.eq_false_iff.2 fun hcontains => ?_
  obtain ⟨r, hr, hstart⟩ := hfree.1 hcontains
  exact absurd hstart (by revert r; decide)

end Extraction

end Localization
