import Mathlib.Data.List.Forall2
import Mathlib.Data.List.Sort
import Localization.Extraction.Wrap
import Localization.Proofs.Results
import Localization.Proofs.Text.Utf8

/-!
# Applying edits

Edits whose spans lie apart can be put in the order of their places. Applied from the last one back,
as `edited` does it, each of them is spliced into bytes whose front is still the file as it was: the
invariant of the run (`spliceAll_eq`) is that up to the place of the next edit nothing has changed
and behind it stands the weave of the edits applied so far. So the edited file is the file's own
bytes between the edits with the replacements in their places (`IsEdited`), whatever the order in
which the edits were recorded.
-/

namespace Localization

namespace Syntax.Span

/-- One of two spans ends before the other starts. -/
def Apart (a b : Span) : Prop := a.stop ≤ b.start ∨ b.stop ≤ a.start

/-- Lying apart is symmetric. -/
theorem Apart.symm {a b : Span} (h : a.Apart b) : b.Apart a := Or.symm h

end Syntax.Span

namespace Extraction

open Syntax

namespace Edit

/-- The bytes an edit replaces. -/
def span (e : Edit) : Span := ⟨e.start, e.stop⟩

/-- The bytes of an edit's replacement, with the place they go to. -/
def Encodes (e : Edit) (w : Nat × Nat × List UInt8) : Prop :=
  ∃ new, Utf8.encode e.replacement = .ok new ∧ w = (e.start, e.stop, new)

/-! ## Splicing one after another -/

/-- Bytes with spans replaced, the last one of the list first. -/
def spliceAll (bytes : List UInt8) (ws : List (Nat × Nat × List UInt8)) : List UInt8 :=
  ws.foldr (fun w bs => splice bs w.1 w.2.1 w.2.2) bytes

/-- Edits that are applied without a fault have replacements with bytes, and these are spliced in.
-/
theorem applyAll_eq_ok {es : List Edit} {bytes new : List UInt8} (h : applyAll es bytes = .ok new) :
    ∃ ws, List.Forall₂ Encodes es ws ∧ new = spliceAll bytes ws.reverse := by
  induction es generalizing bytes with
  | nil =>
    cases h
    exact ⟨[], .nil, rfl⟩
  | cons e es ih =>
    simp only [applyAll] at h
    split at h
    next bs hbs =>
      obtain ⟨ws, hws, rfl⟩ := ih h
      refine ⟨(e.start, e.stop, bs) :: ws, .cons ⟨bs, hbs, rfl⟩ hws, ?_⟩
      rw [List.reverse_cons, spliceAll, spliceAll, List.foldr_append]
      rfl
    next => cases h

/-- One more edit in front of what has been edited already. -/
theorem splice_take_append {bytes back : List UInt8} {start stop : Nat} (new : List UInt8)
    (hle : start ≤ stop) (hstop : stop ≤ bytes.length) :
    splice (bytes.take stop ++ back) start stop new = bytes.take start ++ new ++ back := by
  have hlen : (bytes.take stop).length = stop := by
    rw [List.length_take, Nat.min_eq_left hstop]
  have htake : (bytes.take stop ++ back).take start = bytes.take start := by
    rw [List.take_append_of_le_length (by omega), List.take_take, Nat.min_eq_left hle]
  have hdrop : (bytes.take stop ++ back).drop stop = back := by
    rw [List.drop_append_of_le_length (by omega), List.drop_eq_nil_of_le (by omega),
      List.nil_append]
  rw [splice, Nat.max_eq_right hle, htake, hdrop]

/-- In front of the first edit nothing changes; from there on the edits are woven in. -/
theorem spliceAll_eq {bytes : List UInt8} {es : List Edit} {ws : List (Nat × Nat × List UInt8)}
    (hws : List.Forall₂ Encodes es ws) (hforward : ∀ e ∈ es, e.start ≤ e.stop)
    (hinside : ∀ e ∈ es, e.stop ≤ bytes.length) (hsorted : es.Pairwise fun a b => a.stop ≤ b.start)
    {offset : Nat} (hoffset : ∀ e ∈ es, offset ≤ e.start) :
    spliceAll bytes ws = bytes.take offset ++ weave bytes offset ws := by
  induction hws generalizing offset with
  | nil => exact (List.take_append_drop offset bytes).symm
  | @cons e w es ws hew _ ih =>
    obtain ⟨new, -, rfl⟩ := hew
    rw [List.forall_mem_cons] at hforward hinside hoffset
    rw [List.pairwise_cons] at hsorted
    have hrest := ih hforward.2 hinside.2 hsorted.2 hsorted.1
    have hfront : bytes.take e.start = bytes.take offset ++ (bytes.take e.start).drop offset := by
      conv_lhs => rw [← List.take_append_drop offset (bytes.take e.start), List.take_take,
        Nat.min_eq_left hoffset.1]
    calc spliceAll bytes ((e.start, e.stop, new) :: ws)
        = splice (spliceAll bytes ws) e.start e.stop new := rfl
      _ = bytes.take e.start ++ new ++ weave bytes e.stop ws := by
        rw [hrest, splice_take_append new hforward.1 hinside.1]
      _ = bytes.take offset ++ weave bytes offset ((e.start, e.stop, new) :: ws) := by
        rw [weave, ← List.append_assoc, ← List.append_assoc, ← hfront]

/-! ## The order of application -/

/-- An edit goes before another when it starts behind it, or starts with it and ends no later. -/
theorem goesBefore_iff (a b : Edit) :
    goesBefore a b = true ↔ b.start < a.start ∨ b.start = a.start ∧ b.stop ≤ a.stop := by
  simp [goesBefore]

/-- The edits in order go before one another. -/
theorem pairwise_ordered (es : List Edit) :
    (ordered es).Pairwise fun a b => goesBefore a b = true := by
  refine List.pairwise_mergeSort (fun a b c => ?_) (fun a b => ?_) es
  · simp only [goesBefore_iff]
    omega
  · simp only [Bool.or_eq_true, goesBefore_iff]
    omega

/-- Two edits change places if the second one is applied first. -/
theorem ordered_pair {a b : Edit} (h : goesBefore a b = false) : ordered [a, b] = [b, a] := by
  simp [ordered, List.mergeSort, List.MergeSort.Internal.splitInTwo, h]

/-- Of two edits apart, the one that is applied first stands behind the other. An empty edit may
stand where another one starts; then the other one is applied first. -/
theorem stop_le_of_goesBefore {a b : Edit} (h : goesBefore a b = true)
    (hapart : a.span.Apart b.span) (ha : a.start ≤ a.stop) : b.stop ≤ a.start := by
  rw [goesBefore_iff] at h
  simp only [Span.Apart, span] at hapart
  omega

/-- Edits that lie apart, from the first place to the last. -/
theorem pairwise_reverse_ordered {es : List Edit} (hforward : ∀ e ∈ es, e.start ≤ e.stop)
    (hapart : es.Pairwise fun a b => a.span.Apart b.span) :
    (ordered es).reverse.Pairwise fun a b => a.stop ≤ b.start := by
  have hperm : (ordered es).Perm es := List.mergeSort_perm es _
  have hapart' : (ordered es).Pairwise fun a b => a.span.Apart b.span :=
    hperm.symm.pairwise hapart fun h => h.symm
  rw [List.pairwise_reverse]
  refine ((pairwise_ordered es).and hapart').imp_of_mem ?_
  intro a b ha _ hab
  exact stop_le_of_goesBefore hab.1 hab.2 (hforward a (hperm.subset ha))

end Edit

/-! ## The edited file -/

/-- Characters are those of a file with the span of every edit replaced and every other byte kept:
put in the order of their places, the edits are woven into the bytes of the file. -/
def IsEdited (source : Source) (edits : List Edit) (new : List Char) : Prop :=
  ∃ es ws, es.Perm edits ∧ (es.Pairwise fun a b => a.stop ≤ b.start) ∧
    List.Forall₂ Edit.Encodes es ws ∧
    Utf8.encodeChars new = Edit.weave source.bytes 0 ws

/-- Edits inside the file that lie apart replace their spans and nothing else. -/
theorem isEdited_of_edited {source : Source} {edits : List Edit} {new : List Char}
    (hforward : ∀ e ∈ edits, e.start ≤ e.stop) (hinside : ∀ e ∈ edits, e.stop ≤ source.bytes.length)
    (hapart : edits.Pairwise fun a b => a.span.Apart b.span) (h : edited source edits = .ok new) :
    IsEdited source edits new := by
  simp only [edited, bind_eq_ok, mapError_eq_ok] at h
  obtain ⟨bytes, hbytes, hnew⟩ := h
  obtain ⟨ws, hws, rfl⟩ := Edit.applyAll_eq_ok hbytes
  have hperm : (Edit.ordered edits).reverse.Perm edits :=
    (List.reverse_perm _).trans (List.mergeSort_perm edits _)
  have hsorted := Edit.pairwise_reverse_ordered hforward hapart
  have hws' : List.Forall₂ Edit.Encodes (Edit.ordered edits).reverse ws.reverse :=
    List.rel_reverse hws
  refine ⟨_, _, hperm, hsorted, hws', ?_⟩
  rw [Utf8.encodeChars_of_decodeFrom hnew, Edit.spliceAll_eq hws'
    (fun e he => hforward e (hperm.subset he)) (fun e he => hinside e (hperm.subset he)) hsorted
    (fun e _ => Nat.zero_le e.start)]
  rfl

end Extraction

end Localization
