import Mathlib.Data.List.Basic
import Mathlib.Data.List.Pairwise
import Localization.Extraction.Wrap
import Localization.Proofs.Extraction.Edits
import Localization.Proofs.Source
import Localization.Proofs.Syntax.Visits

/-!
# The spots a walk may replace

Each node of a tree has its own spots: an element the runs of text between its tags, trimmed; an
attribute its string value; a string in braces itself. The spots of all nodes of a tree lie apart
from each other, inside the tree and between characters. This rests on what a parser promises of its
trees. The spans nest (`Placed`): siblings follow each other inside their parent, and no node starts
or ends inside a character. And the nodes that are replaced as a whole are literals
(`Grammatical`): nothing that could be replaced stands inside them, and nothing stands between the
texts of a run. Nesting alone would not do: a text with an element in it has spots in its spot.

So a spot of a node lies apart from every child of the node, but for the literals it replaces, and
below these there are no spots.
-/

namespace Localization.Extraction

open Syntax Syntax.Tree

/-! ## What a parser promises -/

/-- Whether a node is replaced as a whole when it is replaced. -/
def isLiteral (t : Tree) : Bool := t.kind = .string || isMarkupText t

/-- The children of a visited tree follow each other inside its span, and the span cuts no
character. -/
structure Placed (source : Source) (v : Visit) : Prop where
  forward : v.tree.start ≤ v.tree.stop
  inside : ∀ c ∈ v.tree.children, v.tree.start ≤ c.start ∧ c.stop ≤ v.tree.stop
  ordered : v.tree.children.Pairwise fun a b => a.stop ≤ b.start
  boundary : source.IsBoundary v.tree.start ∧ source.IsBoundary v.tree.stop

instance (source : Source) (v : Visit) : Decidable (Placed source v) :=
  decidable_of_iff
    (v.tree.start ≤ v.tree.stop ∧
      (∀ c ∈ v.tree.children, v.tree.start ≤ c.start ∧ c.stop ≤ v.tree.stop) ∧
      (v.tree.children.Pairwise fun a b => a.stop ≤ b.start) ∧
      source.IsBoundary v.tree.start ∧ source.IsBoundary v.tree.stop)
    ⟨fun ⟨h₁, h₂, h₃, h₄⟩ => ⟨h₁, h₂, h₃, h₄⟩, fun h => ⟨h.1, h.2, h.3, h.4⟩⟩

/-- Of two different children one follows the other. -/
theorem Placed.siblings {source : Source} {v : Visit} (h : Placed source v) {c d : Tree}
    (hc : c ∈ v.tree.children) (hd : d ∈ v.tree.children) :
    c = d ∨ c.stop ≤ d.start ∨ d.stop ≤ c.start :=
  List.Pairwise.forall_of_forall_of_flip
    (R := fun c d : Tree => c = d ∨ c.stop ≤ d.start ∨ d.stop ≤ c.start) (fun _ _ => .inl rfl)
    (h.ordered.imp fun hcd => .inr (.inl hcd)) (h.ordered.imp fun hcd => .inr (.inr hcd)) hc hd

/-- What the grammar says of literals. A text and a character reference are single lexemes and a
string holds its quotes and pieces only, so that no element, attribute or string stands in one of
them, but for what could not be read. And an element is its content between its tags, so that the
nodes of a run of text stand side by side. -/
structure Grammatical (v : Visit) : Prop where
  outside : v.inError = false →
    v.tree.kind = .element ∨ v.tree.kind = .markupAttribute ∨ v.tree.kind = .string →
    ∀ a ∈ v.ancestors, isLiteral a = false
  sideBySide : v.inError = false → v.tree.kind = .element →
    ∀ run ∈ textRuns v.tree, run <:+: v.tree.children

/-- A span covers whole characters of a file. -/
structure Whole (source : Source) (s : Span) : Prop where
  forward : s.start ≤ s.stop
  inside : s.stop ≤ source.bytes.length
  startBoundary : source.IsBoundary s.start
  stopBoundary : source.IsBoundary s.stop

/-- A placed node covers whole characters. -/
theorem Placed.whole {source : Source} {v : Visit} (h : Placed source v) :
    Whole source v.tree.span :=
  ⟨h.forward, h.boundary.2.le, h.boundary.1, h.boundary.2⟩

/-! ## Runs of text -/

/-- The runs of a list of nodes are its texts, in order. -/
theorem flatten_textRunsOf (ts : List Tree) : (textRunsOf ts).flatten = ts.filter isMarkupText := by
  induction ts with
  | nil => rfl
  | cons t ts ih =>
    simp only [textRunsOf]
    split
    next ht =>
      rw [List.filter_cons_of_pos ht, ← ih]
      split
      next next rest run runs hruns =>
        rw [hruns]
        split
        · rfl
        · rfl
      next => rfl
    next ht => rw [List.filter_cons_of_neg ht, ih]

/-- A run consists of markup text. -/
theorem isMarkupText_of_mem_run {ts run : List Tree} (hrun : run ∈ textRunsOf ts) {t : Tree}
    (ht : t ∈ run) : isMarkupText t = true := by
  have hmem : t ∈ (textRunsOf ts).flatten := List.mem_flatten_of_mem hrun ht
  rw [flatten_textRunsOf] at hmem
  exact (List.mem_filter.1 hmem).2

/-- A blank byte is a character of its own. -/
theorem isBlankByte_ascii (b : UInt8) (h : isBlankByte b = true) : b.toNat < 0x80 := by
  simp only [isBlankByte, Bool.or_eq_true, beq_iff_eq, Bool.and_eq_true, decide_eq_true_eq] at h
  rcases h with rfl | ⟨-, hle⟩
  · decide
  · exact Nat.lt_of_le_of_lt hle (by decide)

/-- A run is trimmed to a span inside it that cuts no character. -/
theorem trimmedSpan?_eq_some {source : Source} {run : List Tree} {s : Span}
    (h : trimmedSpan? source run = some s) :
    ∃ first ∈ run, ∃ last ∈ run, first.start ≤ s.start ∧ s.stop ≤ last.stop ∧ s.start ≤ s.stop ∧
      (source.IsBoundary first.start → source.IsBoundary s.start) ∧
      (source.IsBoundary last.stop → source.IsBoundary s.stop) := by
  simp only [trimmedSpan?, Option.bind_eq_some_iff] at h
  obtain ⟨whole, hwhole, h⟩ := h
  split at h
  next => cases h
  next hlt =>
    cases h
    unfold runSpan? at hwhole
    split at hwhole
    next first last hfirst hlast =>
      cases hwhole
      exact ⟨first, List.mem_of_head? hfirst, last, List.mem_of_getLast? hlast,
        Nat.le_add_right .., Nat.sub_le .., Nat.le_of_not_le hlt,
        fun hb => hb.trim_start isBlankByte_ascii _, fun hb => hb.trim_stop isBlankByte_ascii _⟩
    next => cases hwhole

/-! ## The spots of one node -/

/-- The spans that a visit may replace, in the order in which it comes to them; none in a region
that could not be read. -/
def spots (source : Source) (v : Visit) : List Span :=
  if v.inError then []
  else
    match v.tree.kind with
    | .element => (textRuns v.tree).filterMap (trimmedSpan? source)
    | .markupAttribute =>
      match attributeParts source v.tree with
      | some (_, some value) => if value.kind = .string then [value.span] else []
      | _ => []
    | .string => if v.parent?.any (·.kind = .container) then [v.tree.span] else []
    | _ => []

/-- An attribute's value is its last child. -/
theorem getLast?_of_attributeParts {source : Source} {t value : Tree} {name : Text}
    (h : attributeParts source t = some (name, some value)) : t.children.getLast? = some value := by
  unfold attributeParts at h
  split at h
  next => cases h
  next first rest hchildren =>
    simp only [Option.some.injEq, Prod.mk.injEq, Option.ite_none_right_eq_some] at h
    rw [hchildren, List.getLast?_cons, h.2.2]
    rfl

/-- Where a spot comes from. -/
theorem spots_cases {source : Source} {v : Visit} {s : Span} (h : s ∈ spots source v) :
    v.inError = false ∧
    ((v.tree.kind = .element ∧ ∃ run ∈ textRuns v.tree, trimmedSpan? source run = some s) ∨
    (v.tree.kind = .markupAttribute ∧
      ∃ value, v.tree.children.getLast? = some value ∧ value.kind = .string ∧ s = value.span) ∨
    (v.tree.kind = .string ∧ (v.parent?.any fun p => p.kind = .container) ∧ s = v.tree.span)) := by
  unfold spots at h
  split at h
  next => cases h
  next herror =>
    refine ⟨Bool.eq_false_iff.2 herror, ?_⟩
    split at h
    next hkind =>
      obtain ⟨run, hrun, hs⟩ := List.mem_filterMap.1 h
      exact .inl ⟨hkind, run, hrun, hs⟩
    next hkind =>
      split at h
      next name value hparts =>
        split at h
        next hvalue =>
          exact .inr (.inl ⟨hkind, value, getLast?_of_attributeParts hparts, hvalue,
            List.mem_singleton.1 h⟩)
        next => cases h
      next => cases h
    next hkind =>
      split at h
      next hparent => exact .inr (.inr ⟨hkind, hparent, List.mem_singleton.1 h⟩)
      next => cases h
    next => cases h

section
variable {source : Source} {v : Visit}

/-- Inside a literal there are no spots. -/
theorem spots_eq_nil_of_literal (hv : Grammatical v) {a : Tree} (ha : a ∈ v.ancestors)
    (hliteral : isLiteral a = true) : spots source v = [] := by
  rw [List.eq_nil_iff_forall_not_mem]
  intro s hs
  obtain ⟨herror, hcases⟩ := spots_cases hs
  have hkind : v.tree.kind = .element ∨ v.tree.kind = .markupAttribute ∨ v.tree.kind = .string := by
    rcases hcases with ⟨hkind, -⟩ | ⟨hkind, -⟩ | ⟨hkind, -⟩
    · exact .inl hkind
    · exact .inr (.inl hkind)
    · exact .inr (.inr hkind)
  rw [hv.outside herror hkind a ha] at hliteral
  cases hliteral

/-- The spots of a node lie inside it. -/
theorem spots_inside (hv : Placed source v) (hg : Grammatical v) {s : Span}
    (hs : s ∈ spots source v) : v.tree.start ≤ s.start ∧ s.stop ≤ v.tree.stop := by
  obtain ⟨herror, ⟨hkind, run, hrun, htrim⟩ | ⟨-, value, hvalue, -, rfl⟩ | ⟨-, -, rfl⟩⟩ :=
    spots_cases hs
  · obtain ⟨first, hfirst, last, hlast, hstart, hstop, -⟩ := trimmedSpan?_eq_some htrim
    have hsub := (hg.sideBySide herror hkind run hrun).subset
    have hin := hv.inside first (hsub hfirst)
    have hin' := hv.inside last (hsub hlast)
    omega
  · exact hv.inside value (List.mem_of_getLast? hvalue)
  · exact ⟨Nat.le_refl _, Nat.le_refl _⟩

/-- The spots of a node lie apart from each other. -/
theorem spots_apart (hv : Placed source v) : (spots source v).Pairwise Span.Apart := by
  unfold spots
  split
  · exact .nil
  split
  · have hsub : ((textRuns v.tree).flatten).Sublist v.tree.children := by
      rw [textRuns, flatten_textRunsOf]
      exact List.filter_sublist.trans List.filter_sublist
    have hruns := (List.pairwise_flatten.1 (hv.ordered.sublist hsub)).2
    refine List.pairwise_filterMap.2 (hruns.imp ?_)
    intro run run' hrun s hs s' hs'
    obtain ⟨-, -, last, hlast, -, hstop, -⟩ := trimmedSpan?_eq_some hs
    obtain ⟨first, hfirst, -, -, hstart, -⟩ := trimmedSpan?_eq_some hs'
    exact .inl (hstop.trans ((hrun last hlast first hfirst).trans hstart))
  · split
    · split
      · exact List.pairwise_singleton ..
      · exact .nil
    · exact .nil
  · split
    · exact List.pairwise_singleton ..
    · exact .nil
  · exact .nil

/-- A child is replaced along with its parent, or in a spot of it. -/
def GoesWith (t c : Tree) : Prop :=
  t.kind = .string ∨ t.kind = .markupAttribute ∧ c.kind = .string ∨ isMarkupText c = true

/-- The spots of a node lie apart from its children, but for those that go with it. -/
theorem spot_apart_child (hv : Placed source v) (hg : Grammatical v) {s : Span}
    (hs : s ∈ spots source v) {c : Tree} (hc : c ∈ v.tree.children) :
    s.Apart c.span ∨ GoesWith v.tree c := by
  obtain ⟨herror, ⟨hkind, run, hrun, htrim⟩ | ⟨hkind, value, hvalue, hstring, rfl⟩ | ⟨hkind, -⟩⟩ :=
    spots_cases hs
  · obtain ⟨first, hfirst, last, hlast, hstart, hstop, -⟩ := trimmedSpan?_eq_some htrim
    obtain ⟨front, back, hsplit⟩ := hg.sideBySide herror hkind run hrun
    have hordered := hv.ordered
    rw [← hsplit, List.pairwise_append, List.pairwise_append] at hordered
    obtain ⟨⟨-, -, hfront⟩, -, hback⟩ := hordered
    rw [← hsplit, List.mem_append, List.mem_append] at hc
    rcases hc with (hc | hc) | hc
    · exact .inl (.inr ((hfront c hc first hfirst).trans hstart))
    · exact .inr (.inr (.inr (isMarkupText_of_mem_run hrun hc)))
    · exact .inl (.inl (hstop.trans (hback last (List.mem_append_right _ hlast) c hc)))
  · obtain ⟨front, hsplit⟩ := List.getLast?_eq_some_iff.1 hvalue
    have hordered := hv.ordered
    rw [hsplit, List.pairwise_append] at hordered
    rw [hsplit, List.mem_append, List.mem_singleton] at hc
    rcases hc with hc | rfl
    · exact .inl (.inr (hordered.2.2 c hc value (List.mem_singleton_self value)))
    · exact .inr (.inr (.inl ⟨hkind, hstring⟩))
  · exact .inr (.inl hkind)

end

/-! ## The spots of a tree -/

section
variable {source : Source} {ancestors : List Tree} {t : Tree}

/-- Below a child that goes with its parent there are no spots. -/
theorem spots_eq_nil_of_goesWith {c : Tree} (hgoes : GoesWith t c) {v : Visit}
    (hv : v ∈ visitsUnder (t :: ancestors) c) (hg : Grammatical v) : spots source v = [] := by
  rcases hgoes with hstring | hchild
  · refine spots_eq_nil_of_literal hg (ancestors_subset hv List.mem_cons_self) ?_
    simp [isLiteral, hstring]
  rcases mem_visitsUnder.1 hv with rfl | ⟨d, -, hv⟩
  · -- The child itself: a text is never visited for its own sake, and the string of an attribute
    -- does not stand in braces.
    rw [List.eq_nil_iff_forall_not_mem]
    intro s hs
    rcases (spots_cases hs).2 with ⟨hkind, -⟩ | ⟨hkind, -⟩ | ⟨hkind, hparent, -⟩
    · rcases hchild with ⟨-, hc⟩ | hc <;> simp_all [isMarkupText]
    · rcases hchild with ⟨-, hc⟩ | hc <;> simp_all [isMarkupText]
    · rcases hchild with ⟨ht, -⟩ | hc
      · simp [Visit.parent?, ht] at hparent
      · simp_all [isMarkupText]
  · refine spots_eq_nil_of_literal hg (ancestors_subset hv List.mem_cons_self) ?_
    rcases hchild with ⟨-, hc⟩ | hc
    · simp [isLiteral, hc]
    · simp [isLiteral, hc]

/-- All spots of a tree lie inside it. -/
theorem spots_inside_tree (hplaced : ∀ v ∈ visitsUnder ancestors t, Placed source v)
    (hgram : ∀ v ∈ visitsUnder ancestors t, Grammatical v) {v : Visit}
    (hv : v ∈ visitsUnder ancestors t) {s : Span} (hs : s ∈ spots source v) :
    t.start ≤ s.start ∧ s.stop ≤ t.stop := by
  induction t using induct generalizing ancestors with
  | step t ih =>
    have hself := self_mem_visitsUnder ancestors t
    rcases mem_visitsUnder.1 hv with rfl | ⟨c, hc, hv⟩
    · exact spots_inside (hplaced _ hself) (hgram _ hself) hs
    · have hbelow : ∀ w ∈ visitsUnder (t :: ancestors) c, w ∈ visitsUnder ancestors t :=
        fun w hw => mem_visitsUnder.2 (.inr ⟨c, hc, hw⟩)
      have hin := ih c hc (fun w hw => hplaced w (hbelow w hw))
        (fun w hw => hgram w (hbelow w hw)) hv
      have hchild := (hplaced _ hself).inside c hc
      exact ⟨hchild.1.trans hin.1, hin.2.trans hchild.2⟩

/-- All spots of a tree lie apart from each other. -/
theorem spots_apart_tree (hplaced : ∀ v ∈ visitsUnder ancestors t, Placed source v)
    (hgram : ∀ v ∈ visitsUnder ancestors t, Grammatical v) :
    ((visitsUnder ancestors t).flatMap (spots source)).Pairwise Span.Apart := by
  induction t using induct generalizing ancestors with
  | step t ih =>
    have hself := self_mem_visitsUnder ancestors t
    have hbelow : ∀ {c}, c ∈ t.children → ∀ w ∈ visitsUnder (t :: ancestors) c,
        w ∈ visitsUnder ancestors t := fun hc w hw => mem_visitsUnder.2 (.inr ⟨_, hc, hw⟩)
    have hinside : ∀ {c s}, c ∈ t.children →
        s ∈ (visitsUnder (t :: ancestors) c).flatMap (spots source) →
        c.start ≤ s.start ∧ s.stop ≤ c.stop := by
      intro c s hc hs
      obtain ⟨w, hw, hs⟩ := List.mem_flatMap.1 hs
      exact spots_inside_tree (fun w hw => hplaced w (hbelow hc w hw))
        (fun w hw => hgram w (hbelow hc w hw)) hw hs
    rw [visitsUnder_eq, List.flatMap_cons, List.flatMap_assoc, List.pairwise_append]
    refine ⟨spots_apart (hplaced _ hself), List.pairwise_flatMap.2 ⟨?_, ?_⟩, ?_⟩
    · intro c hc
      exact ih c hc (fun w hw => hplaced w (hbelow hc w hw)) fun w hw => hgram w (hbelow hc w hw)
    · refine (hplaced _ hself).ordered.imp_of_mem ?_
      intro c d hc hd hcd s hs s' hs'
      exact .inl ((hinside hc hs).2.trans (hcd.trans (hinside hd hs').1))
    · intro s hs s' hs'
      obtain ⟨c, hc, hs'⟩ := List.mem_flatMap.1 hs'
      have hin := hinside hc hs'
      rcases spot_apart_child (hplaced _ hself) (hgram _ hself) hs hc with (hapart | hapart) | hgoes
      · exact .inl (hapart.trans hin.1)
      · exact .inr (hin.2.trans hapart)
      · obtain ⟨w, hw, hs'⟩ := List.mem_flatMap.1 hs'
        rw [spots_eq_nil_of_goesWith hgoes hw (hgram w (hbelow hc w hw))] at hs'
        cases hs'

/-- The spots of a tree cover whole characters. -/
theorem spots_whole (hplaced : ∀ v ∈ visitsUnder ancestors t, Placed source v)
    (hgram : ∀ v ∈ visitsUnder ancestors t, Grammatical v) {v : Visit}
    (hv : v ∈ visitsUnder ancestors t) {s : Span} (hs : s ∈ spots source v) : Whole source s := by
  have hchild : ∀ c ∈ v.tree.children, Whole source c.span :=
    fun c hc => (hplaced _ (child_mem_visitsUnder hv hc)).whole
  obtain ⟨herror, ⟨hkind, run, hrun, htrim⟩ | ⟨-, value, hvalue, -, rfl⟩ | ⟨-, -, rfl⟩⟩ :=
    spots_cases hs
  · obtain ⟨first, hfirst, last, hlast, -, hle, hforward, hstart, hstop⟩ :=
      trimmedSpan?_eq_some htrim
    have hsub := ((hgram v hv).sideBySide herror hkind run hrun).subset
    have hwhole := hchild first (hsub hfirst)
    have hwhole' := hchild last (hsub hlast)
    exact ⟨hforward, hle.trans hwhole'.inside, hstart hwhole.startBoundary,
      hstop hwhole'.stopBoundary⟩
  · exact hchild value (List.mem_of_getLast? hvalue)
  · exact (hplaced v hv).whole

end

end Localization.Extraction
