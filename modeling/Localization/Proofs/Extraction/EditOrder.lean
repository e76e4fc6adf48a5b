import Localization.Proofs.Extraction.Spots
import Localization.Proofs.Text.Encodable

/-!
# Edits in any order

Edits are applied in an order that does not depend on how they are listed, as long as no two of them
start at the same place (`ordered_of_perm`). If they also lie apart from each other and replace
whole characters by texts with a UTF-8 form, then each of them can be spliced in, and what comes out
is read as characters again: it is woven from pieces that are (`exists_woven`). So the edited file
is there, it is made of the gaps between the edits and of their replacements in the order of their
places, and every listing of the edits gives the same one (`edited_any_order`).
-/

namespace Localization

namespace Source

variable {s : Source} {m n : Nat}

/-- The end of a source is a boundary. -/
theorem isBoundary_length (s : Source) : s.IsBoundary s.bytes.length := by
  rw [s.bytes_eq]
  exact isBoundary_of_append (List.append_nil s.chars).symm

/-- The text between two boundaries is there. -/
theorem exists_sliceText (hm : s.IsBoundary m) (hn : s.IsBoundary n) :
    ∃ cs, s.slice m n = Utf8.encodeChars cs ∧ s.sliceText m n = .ok (Text.ofChars cs) := by
  obtain ⟨cs, hcs⟩ := exists_slice hm hn
  refine ⟨cs, hcs, ?_⟩
  rw [sliceText, hcs, Utf8.decode, Utf8.decodeFrom_encodeChars]
  rfl

end Source

namespace Extraction

open Syntax

namespace Edit

/-! ## One order of application -/

/-- Edits of which no two start at the same place are put in one order, however they are listed. -/
theorem ordered_of_perm {es es' : List Edit} (hstarts : (es.map Edit.start).Nodup)
    (hperm : es'.Perm es) : ordered es' = ordered es := by
  have hes : (ordered es).Perm es := List.mergeSort_perm es _
  have hes' : (ordered es').Perm es := (List.mergeSort_perm es' _).trans hperm
  refine (hes'.trans hes.symm).eq_of_pairwise ?_ (pairwise_ordered es') (pairwise_ordered es)
  intro a b ha hb hab hba
  rw [goesBefore_iff] at hab hba
  exact List.inj_on_of_nodup_map hstarts (hes'.subset ha) (hes.subset hb) (by omega)

/-- Edits whose replacements have a UTF-8 form are all applied. -/
theorem applyAll_of_encodes {es : List Edit} {ws : List (Nat × Nat × List UInt8)}
    (hws : List.Forall₂ Encodes es ws) (bytes : List UInt8) :
    applyAll es bytes = .ok (spliceAll bytes ws.reverse) := by
  induction hws generalizing bytes with
  | nil => rfl
  | @cons e w es ws hew _ ih =>
    obtain ⟨new, hnew, rfl⟩ := hew
    rw [applyAll, hnew]
    dsimp only
    rw [ih, List.reverse_cons, spliceAll, spliceAll, List.foldr_append]
    rfl

end Edit

/-! ## The text between and in the edits -/

/-- A text is made of the gaps of a file from byte `offset` on, up to each edit of a list and behind
the last one, with the replacements between the gaps. -/
inductive Woven (source : Source) : (offset : Nat) → List Edit → Text → Prop where
  | rest {offset : Nat} {gap : Text} :
      source.sliceText offset source.bytes.length = .ok gap → Woven source offset [] gap
  | edit {offset : Nat} {e : Edit} {es : List Edit} {gap t : Text} :
      source.sliceText offset e.start = .ok gap → Woven source e.stop es t →
      Woven source offset (e :: es) (gap ++ e.replacement ++ t)

/-- Edits that can be made together: each replaces whole characters of the file by a text with a
UTF-8 form, they lie apart from each other, and no two start at the same place. An empty one may
stand where another one ends. -/
structure Compatible (source : Source) (edits : List Edit) : Prop where
  whole : ∀ e ∈ edits, Whole source e.span
  apart : edits.Pairwise fun a b => a.span.Apart b.span ∧ a.start ≠ b.start
  encodable : ∀ e ∈ edits, e.replacement.Encodable

instance (a b : Span) : Decidable (a.Apart b) := inferInstanceAs (Decidable (_ ∨ _))

instance (source : Source) (s : Span) : Decidable (Whole source s) :=
  decidable_of_iff
    (s.start ≤ s.stop ∧ s.stop ≤ source.bytes.length ∧
      source.IsBoundary s.start ∧ source.IsBoundary s.stop)
    ⟨fun ⟨h₁, h₂, h₃, h₄⟩ => ⟨h₁, h₂, h₃, h₄⟩, fun h => ⟨h.1, h.2, h.3, h.4⟩⟩

instance (source : Source) (edits : List Edit) : Decidable (Compatible source edits) :=
  decidable_of_iff
    ((∀ e ∈ edits, Whole source e.span) ∧
      (edits.Pairwise fun a b => a.span.Apart b.span ∧ a.start ≠ b.start) ∧
      ∀ e ∈ edits, e.replacement.Encodable)
    ⟨fun ⟨h₁, h₂, h₃⟩ => ⟨h₁, h₂, h₃⟩, fun h => ⟨h.1, h.2, h.3⟩⟩

variable {source : Source} {edits es : List Edit}

/-- Edits of whole characters weave characters: the bytes between boundaries are the form of
characters, and so are those of the replacements. -/
theorem exists_woven (hwhole : ∀ e ∈ es, Whole source e.span)
    (henc : ∀ e ∈ es, e.replacement.Encodable) {offset : Nat} (hoffset : source.IsBoundary offset) :
    ∃ ws cs, List.Forall₂ Edit.Encodes es ws ∧
      Edit.weave source.bytes offset ws = Utf8.encodeChars cs ∧
      Woven source offset es (Text.ofChars cs) := by
  induction es generalizing offset with
  | nil =>
    obtain ⟨cs, hslice, htext⟩ := Source.exists_sliceText hoffset source.isBoundary_length
    refine ⟨[], cs, .nil, ?_, .rest htext⟩
    rw [← hslice, Source.slice, List.take_length]
    rfl
  | cons e es ih =>
    rw [List.forall_mem_cons] at hwhole henc
    obtain ⟨hwhole, hrest⟩ := hwhole
    obtain ⟨gap, hslice, hgap⟩ := Source.exists_sliceText hoffset hwhole.startBoundary
    obtain ⟨new, hnew⟩ := Utf8.exists_encodeFrom henc.1 0
    obtain ⟨chars, hchars, hbytes⟩ := Utf8.encodeFrom_eq_ok hnew
    obtain ⟨ws, cs, hws, hweave, hwoven⟩ := ih hrest henc.2 hwhole.stopBoundary
    refine ⟨(e.start, e.stop, new) :: ws, gap ++ chars ++ cs, .cons ⟨new, hnew, rfl⟩ hws, ?_, ?_⟩
    · have hgapBytes : (source.bytes.take e.start).drop offset = Utf8.encodeChars gap := hslice
      have hrestBytes : Edit.weave source.bytes e.stop ws = Utf8.encodeChars cs := hweave
      rw [Edit.weave, hgapBytes, hbytes, hrestBytes, Utf8.encodeChars_append,
        Utf8.encodeChars_append]
    · have htext : Text.ofChars (gap ++ chars ++ cs) =
          Text.ofChars gap ++ e.replacement ++ Text.ofChars cs := by
        rw [hchars, Text.ofChars, List.map_append, List.map_append]
        rfl
      exact htext ▸ .edit hgap hwoven

/-- No two compatible edits start at one place. -/
theorem Compatible.nodup_starts (h : Compatible source edits) : (edits.map Edit.start).Nodup :=
  List.pairwise_map.2 (h.apart.imp And.right)

/-- From the first place to the last, compatible edits start further and further on. -/
theorem Compatible.pairwise_start (h : Compatible source edits) :
    (Edit.ordered edits).reverse.Pairwise fun a b => a.start < b.start := by
  have hperm : (Edit.ordered edits).reverse.Perm edits :=
    (List.reverse_perm _).trans (List.mergeSort_perm edits _)
  have hnodup : ((Edit.ordered edits).reverse.map Edit.start).Nodup :=
    (hperm.map Edit.start).nodup_iff.2 h.nodup_starts
  have hsorted := Edit.pairwise_reverse_ordered (fun e he => (h.whole e he).forward)
    (h.apart.imp And.left)
  refine (hsorted.and (List.pairwise_map.1 hnodup)).imp_of_mem fun {a b} ha _ hab => ?_
  have hforward : a.start ≤ a.stop := (h.whole a (hperm.subset ha)).forward
  exact Nat.lt_of_le_of_ne (hforward.trans hab.1) hab.2

/-- **Edits may come in any order.** Edits of whole characters that lie apart, of which no two start
at the same place and whose replacements have a UTF-8 form, can always be applied. The edited file
is the concatenation of the untouched gaps and the replacements in the order of the places, and it
is the same for every listing of the edits. -/
theorem edited_any_order (h : Compatible source edits) :
    ∃ es chars, es.Perm edits ∧ (es.Pairwise fun a b => a.start < b.start) ∧
      Woven source 0 es (Text.ofChars chars) ∧
      ∀ edits' : List Edit, edits'.Perm edits → edited source edits' = .ok chars := by
  have hperm : (Edit.ordered edits).reverse.Perm edits :=
    (List.reverse_perm _).trans (List.mergeSort_perm edits _)
  have hwhole : ∀ e ∈ (Edit.ordered edits).reverse, Whole source e.span :=
    fun e he => h.whole e (hperm.subset he)
  obtain ⟨ws, cs, hws, hweave, hwoven⟩ := exists_woven hwhole
    (fun e he => h.encodable e (hperm.subset he)) source.isBoundary_zero
  refine ⟨_, _, hperm, h.pairwise_start, hwoven, fun edits' hedits' => ?_⟩
  have hws' : List.Forall₂ Edit.Encodes (Edit.ordered edits) ws.reverse := by
    simpa using List.rel_reverse hws
  -- Spliced in from the last place back, the edits are woven into the file.
  have hspliced : Edit.spliceAll source.bytes ws = Utf8.encodeChars cs := by
    rw [← hweave, Edit.spliceAll_eq hws (fun e he => (hwhole e he).forward)
      (fun e he => (hwhole e he).inside)
      (Edit.pairwise_reverse_ordered (fun e he => (h.whole e he).forward) (h.apart.imp And.left))
      (fun e _ => Nat.zero_le e.start)]
    rfl
  have hbytes : Edit.applyAll (Edit.ordered edits') source.bytes = .ok (Utf8.encodeChars cs) := by
    rw [Edit.ordered_of_perm h.nodup_starts hedits', Edit.applyAll_of_encodes hws',
      List.reverse_reverse, hspliced]
  simp only [edited, bind_eq_ok, mapError_eq_ok]
  exact ⟨_, hbytes, Utf8.decodeFrom_encodeChars 0 cs⟩

/-- A file of two tags with a word between them that has characters of more than one byte. -/
def twoTags : Source := .ofChars "<p>Grüße</p>".toList

/-- The word of the file replaced, a text put in right behind it, and a line put in front. -/
def scatteredEdits : List Edit := [⟨10, 10, "!"⟩, ⟨3, 10, "Hi ☺"⟩, ⟨0, 0, "\n"⟩]

/-- The three edits of the file can be made together, and made in another order they give the same
text: the two tags with the replacements around and between them. -/
theorem edited_any_order_scattered :
    Compatible twoTags scatteredEdits ∧
    ∃ chars, Woven twoTags 0 scatteredEdits.reverse (Text.ofChars chars) ∧
      edited twoTags [⟨3, 10, "Hi ☺"⟩, ⟨0, 0, "\n"⟩, ⟨10, 10, "!"⟩] = .ok chars := by
  have hcompatible : Compatible twoTags scatteredEdits := by decide +kernel
  obtain ⟨es, chars, hperm, hsorted, hwoven, hall⟩ := edited_any_order hcompatible
  have hes : es = scatteredEdits.reverse := by
    refine (hperm.trans (List.reverse_perm scatteredEdits).symm).eq_of_pairwise
      (fun a b _ _ hab hba => absurd hab (Nat.lt_asymm hba)) hsorted ?_
    decide
  exact ⟨hcompatible, chars, hes ▸ hwoven, hall _ (by decide)⟩

end Extraction

end Localization
