import Mathlib.Data.List.Basic
import Mathlib.Data.List.Forall2
import Localization.Proofs.Extraction.Asked

/-!
# What wrapping changes

A pass over a tree records edits at spots of the tree only, each at most once and in the order in
which the walk comes to them, and reports every edit it records (`record_extends`). The import goes
to the end of a statement, which lies apart from all spots (`importEdit_apart`). So the edits of a
file lie apart from each other, and the file that wrapping gives is the file it was given with the
recorded spans replaced, the import put in, and nothing else changed.
-/

namespace Localization.Extraction

open Syntax Syntax.Tree

/-! ## Where an import goes -/

/-- An offset is one of the anchors found. -/
def Anchors.Holds (a : Anchors) (n : Nat) : Prop :=
  a.lastImport = some n ∨ a.lastRequire = some n ∨ a.lastDirective = some n

/-- A statement adds its own end to the anchors at most, and only if it is no literal. -/
theorem anchorsOf_cons (source : Source) (leading : Bool) (a : Anchors) (t : Tree)
    (ts : List Tree) :
    ∃ leading' a', anchorsOf source leading a (t :: ts) = anchorsOf source leading' a' ts ∧
      ∀ n, a'.Holds n → a.Holds n ∨ t.stop = n ∧ isLiteral t = false := by
  simp only [anchorsOf]
  split
  next hkind =>
    have hliteral : isLiteral t = false := by simp [isLiteral, isMarkupText, hkind]
    refine ⟨_, _, rfl, fun n hold => ?_⟩
    simp only [Anchors.Holds, Option.some.injEq] at hold ⊢
    tauto
  split
  next hrequire =>
    have hliteral : isLiteral t = false := by
      simp only [isRequire, Bool.and_eq_true, Bool.or_eq_true, decide_eq_true_eq] at hrequire
      rcases hrequire.1 with hkind | hkind
      · simp [isLiteral, isMarkupText, hkind]
      · simp [isLiteral, isMarkupText, hkind]
    refine ⟨_, _, rfl, fun n hold => ?_⟩
    simp only [Anchors.Holds, Option.some.injEq] at hold ⊢
    tauto
  split
  next hdirective =>
    have hliteral : isLiteral t = false := by
      simp only [isDirective, Bool.and_eq_true, decide_eq_true_eq] at hdirective
      simp [isLiteral, isMarkupText, hdirective.2.1]
    refine ⟨_, _, rfl, fun n hold => ?_⟩
    simp only [Anchors.Holds, Option.some.injEq] at hold ⊢
    tauto
  next => exact ⟨_, _, rfl, fun n hold => .inl hold⟩

/-- An anchor is the end of a statement that is no literal. -/
theorem anchorsOf_holds {source : Source} {leading : Bool} {a : Anchors} {ts : List Tree} {n : Nat}
    (h : (anchorsOf source leading a ts).Holds n) :
    a.Holds n ∨ ∃ t ∈ ts, t.stop = n ∧ isLiteral t = false := by
  induction ts generalizing leading a with
  | nil => exact .inl h
  | cons t ts ih =>
    obtain ⟨leading', a', hstep, hadd⟩ := anchorsOf_cons source leading a t ts
    rw [hstep] at h
    rcases ih h with hold | ⟨t', ht', hn⟩
    · refine (hadd n hold).imp_right fun hn => ?_
      exact ⟨t, List.mem_cons_self, hn⟩
    · exact .inr ⟨t', List.mem_cons_of_mem t ht', hn⟩

/-- An import replaces nothing; it goes to the start of the file or to the end of a statement. -/
theorem importEdit_place (source : Source) (name module : Text) (root : Tree) :
    (importEdit source name module root).stop = (importEdit source name module root).start ∧
    ((importEdit source name module root).start = 0 ∨
      ∃ c ∈ root.children, c.stop = (importEdit source name module root).start ∧
        isLiteral c = false) := by
  have hanchor : ∀ n, (anchorsOf source true ⟨none, none, none⟩ root.namedChildren).Holds n →
      ∃ c ∈ root.children, c.stop = n ∧ isLiteral c = false := by
    intro n hn
    rcases anchorsOf_holds hn with (h | h | h) | ⟨c, hc, hstop⟩
    · cases h
    · cases h
    · cases h
    · exact ⟨c, List.mem_of_mem_filter hc, hstop⟩
  simp only [importEdit]
  split
  next n h => exact ⟨rfl, .inr (hanchor n (.inl h))⟩
  next n _ h => exact ⟨rfl, .inr (hanchor n (.inr (.inl h)))⟩
  next n _ _ h => exact ⟨rfl, .inr (hanchor n (.inr (.inr h)))⟩
  next => exact ⟨rfl, .inl rfl⟩

/-- The end of a child that is no literal lies in no spot of the tree. -/
theorem spots_apart_end {source : Source} {root c : Tree}
    (hplaced : ∀ v ∈ root.visits, Placed source v) (hgram : ∀ v ∈ root.visits, Grammatical v)
    (hc : c ∈ root.children) (hliteral : isLiteral c = false) {v : Visit} (hv : v ∈ root.visits)
    {s : Span} (hs : s ∈ spots source v) : s.stop ≤ c.stop ∨ c.stop ≤ s.start := by
  have hself : ⟨root, []⟩ ∈ root.visits := self_mem_visitsUnder [] root
  have hforward : c.start ≤ c.stop := (hplaced _ (child_mem_visitsUnder hself hc)).forward
  rcases mem_visitsUnder.1 hv with rfl | ⟨d, hd, hv⟩
  · rcases spot_apart_child (hplaced _ hself) (hgram _ hself) hs hc with (hapart | hapart) | hgoes
    · exact .inl (hapart.trans hforward)
    · exact .inr hapart
    · rcases hgoes with hstring | ⟨-, hchild⟩ | hchild
      · -- A string is a spot in braces only, and nothing stands around the root.
        rcases (spots_cases hs).2 with ⟨hkind, -⟩ | ⟨hkind, -⟩ | ⟨-, hparent, -⟩
        · simp [hstring] at hkind
        · simp [hstring] at hkind
        · simp [Visit.parent?] at hparent
      · simp [isLiteral, hchild] at hliteral
      · simp [isLiteral, hchild] at hliteral
  · have hbelow : ∀ w ∈ visitsUnder [root] d, w ∈ root.visits :=
      fun w hw => mem_visitsUnder.2 (.inr ⟨d, hd, hw⟩)
    have hin := spots_inside_tree (fun w hw => hplaced w (hbelow w hw))
      (fun w hw => hgram w (hbelow w hw)) hv hs
    rcases (hplaced _ hself).siblings hc hd with rfl | hcd | hdc
    · exact .inl hin.2
    · exact .inr (hcd.trans hin.1)
    · exact .inl (hin.2.trans (hdc.trans hforward))

/-- An import goes between characters. -/
theorem importEdit_whole {source : Source} {root : Tree}
    (hplaced : ∀ v ∈ root.visits, Placed source v) (name module : Text) :
    Whole source (importEdit source name module root).span := by
  obtain ⟨hempty, hplace⟩ := importEdit_place source name module root
  have hboundary : source.IsBoundary (importEdit source name module root).start := by
    rcases hplace with hzero | ⟨c, hc, hstop, -⟩
    · rw [hzero]
      exact source.isBoundary_zero
    · rw [← hstop]
      exact (hplaced _ (child_mem_visitsUnder (self_mem_visitsUnder [] root) hc)).boundary.2
  have hboundary' : source.IsBoundary (importEdit source name module root).stop := by
    rwa [hempty]
  exact ⟨Nat.le_of_eq hempty.symm, hboundary'.le, hboundary, hboundary'⟩

/-- An import goes into no spot. -/
theorem importEdit_apart {source : Source} {root : Tree}
    (hplaced : ∀ v ∈ root.visits, Placed source v) (hgram : ∀ v ∈ root.visits, Grammatical v)
    (name module : Text) {v : Visit} (hv : v ∈ root.visits) {s : Span} (hs : s ∈ spots source v) :
    s.Apart (importEdit source name module root).span := by
  obtain ⟨hempty, hplace⟩ := importEdit_place source name module root
  simp only [Span.Apart, Edit.span, hempty]
  rcases hplace with hzero | ⟨c, hc, hstop, hliteral⟩
  · exact .inr (hzero ▸ Nat.zero_le s.start)
  · exact hstop ▸ spots_apart_end hplaced hgram hc hliteral hv hs

/-! ## What a pass records -/

/-- A pass reports an edit: the place of its first byte, and the call it puts there, in braces or
not. -/
structure Reports (o : WrapOptions) (source : Source) (e : Edit) (w : Wrapped) : Prop where
  location : w.location = source.location e.start
  replacement : ∃ position : Position,
    e.replacement = (if position = .expression then callOf o.markers.functionName w.key
      else braced (callOf o.markers.functionName w.key)) ∧
    w.wrapped = if position = .text then e.replacement else callOf o.markers.functionName w.key

/-- A pass goes on from another one by edits at some of the given spans, in their order, and reports
each of them. -/
def Pass.Extends (o : WrapOptions) (source : Source) (spans : List Span) (p q : Pass) : Prop :=
  ∃ es ws, q.edits = p.edits ++ es ∧ q.wrapped = p.wrapped ++ ws ∧
    List.Forall₂ (Reports o source) es ws ∧ (es.map Edit.span).Sublist spans

section
variable {o : WrapOptions} {source : Source} {p q r : Pass} {spans spans' : List Span}

namespace Pass.Extends

/-- A pass that does not go on is extended by nothing. -/
theorem refl (p : Pass) : p.Extends o source spans p :=
  ⟨[], [], (List.append_nil _).symm, (List.append_nil _).symm, .nil, List.nil_sublist _⟩

/-- A pass that is extended inside spans is so inside more of them. -/
theorem mono (h : p.Extends o source spans q) (hspans : spans.Sublist spans') :
    p.Extends o source spans' q := by
  obtain ⟨es, ws, hedits, hwrapped, hreports, hes⟩ := h
  exact ⟨es, ws, hedits, hwrapped, hreports, hes.trans hspans⟩

/-- A pass that is extended twice is extended inside both lists of spans. -/
theorem trans (h : p.Extends o source spans q) (h' : q.Extends o source spans' r) :
    p.Extends o source (spans ++ spans') r := by
  obtain ⟨es, ws, hedits, hwrapped, hreports, hspans⟩ := h
  obtain ⟨es', ws', hedits', hwrapped', hreports', hspans'⟩ := h'
  refine ⟨es ++ es', ws ++ ws', ?_, ?_, List.rel_append hreports hreports', ?_⟩
  · rw [hedits', hedits, List.append_assoc]
  · rw [hwrapped', hwrapped, List.append_assoc]
  · rw [List.map_append]
    exact hspans.append hspans'

end Pass.Extends

/-- Recording a replacement adds one edit and its report, or nothing. -/
theorem replace_extends {position : Position} {text : Text} {span : Span}
    (h : p.replace o source position text span = .ok q) : p.Extends o source [span] q := by
  simp only [Pass.replace] at h
  split at h
  next =>
    cases h
    exact .refl p
  next =>
    obtain ⟨⟨key, registry⟩, -, h⟩ := bind_eq_ok.1 h
    cases h
    exact ⟨[_], [_], rfl, rfl, .cons ⟨rfl, position, rfl, rfl⟩ .nil, List.Sublist.refl _⟩

/-- A visit records edits at its own spots: it asks for nothing else. -/
theorem wrapVisit_extends {v : Visit} (h : wrapVisit o source p v = .ok q) :
    p.Extends o source (spots source v) q := by
  rw [wrapVisit_eq] at h
  obtain ⟨rs, hrs, h⟩ := bind_eq_ok.1 h
  have htakes : p.Extends o source (rs.flatMap fun r : Replacement => [r.span]) q :=
    foldlM_extends (fun r : Replacement => [r.span]) (fun a => .refl a) .trans
      (fun _ _ _ => replace_extends) h
  rw [← List.map_eq_flatMap] at htakes
  exact htakes.mono (map_span_sublist (mapError_eq_ok.1 hrs))

/-- A pass over a file records edits at the spots of its tree, in the order of the walk, and reports
each of them. -/
theorem record_extends {file : Text} {root : Tree} (h : record o source file root = .ok p) :
    List.Forall₂ (Reports o source) p.edits p.wrapped ∧
      (p.edits.map Edit.span).Sublist (root.visits.flatMap (spots source)) := by
  obtain ⟨registry, -, h⟩ := bind_eq_ok.1 h
  obtain ⟨es, ws, hedits, hwrapped, hreports, hspans⟩ :=
    foldlM_extends (spots source) (fun a => Pass.Extends.refl a) .trans
      (fun _ _ _ => wrapVisit_extends) h
  rw [hedits, hwrapped]
  exact ⟨hreports, hspans⟩

end

/-! ## The file that wrapping gives -/

/-- All edits of a file: those that a pass recorded, and the import if there is one. -/
def fileEdits (o : WrapOptions) (source : Source) (root : Tree) (importAdded : Bool)
    (recorded : List Edit) : List Edit :=
  if importAdded then recorded ++ [importEdit source o.markers.functionName o.module root]
  else recorded

section
variable {o : WrapOptions} {parser : Parser} {file : Text} {new : List Char}
  {source : Source} {root : Tree}

/-- What is made of the tree of a file once the pass is over. -/
theorem wrapTree_eq {pass : Pass} (hpass : record o source file root = .ok pass) :
    wrapTree o source file root =
      if pass.edits.isEmpty then .ok (.unchanged file)
      else (edited source (fileEdits o source root
          (!declares source o.markers.functionName root pass.edits) pass.edits)).map fun new =>
        { WrapResult.unchanged file with
          wrapped := pass.wrapped, newSource := some new,
          importAdded := !declares source o.markers.functionName root pass.edits } := by
  rw [wrapTree, hpass]
  change (if pass.edits.isEmpty then _ else _) = _
  congr 1
  cases declares source o.markers.functionName root pass.edits with
  | true => rfl
  | false => rfl

/-- A file is changed by applying all its edits. -/
theorem wrapContent_newSource (hparse : parser file source = .ok root)
    (hnew : (wrapContent o parser file source).newSource = some new) :
    ∃ pass, record o source file root = .ok pass ∧
      (wrapContent o parser file source).wrapped = pass.wrapped ∧
      edited source (fileEdits o source root (wrapContent o parser file source).importAdded
        pass.edits) = .ok new := by
  unfold wrapContent at hnew ⊢
  simp only [hparse] at hnew ⊢
  cases htree : wrapTree o source file root with
  | error e =>
    rw [htree] at hnew
    cases hnew
  | ok r =>
    rw [htree] at hnew
    obtain ⟨pass, hpass, -⟩ := bind_eq_ok.1 htree
    refine ⟨pass, hpass, ?_⟩
    rw [wrapTree_eq hpass] at htree
    split at htree
    next =>
      cases htree
      cases hnew
    next =>
      cases hedited : edited source (fileEdits o source root
          (!declares source o.markers.functionName root pass.edits) pass.edits) with
      | error e =>
        rw [hedited] at htree
        cases htree
      | ok new' =>
        rw [hedited] at htree
        cases htree
        cases hnew
        exact ⟨rfl, hedited⟩

/-- The file with edits applied, by their order. -/
theorem edited_of_ordered {edits inOrder : List Edit} {chars : List Char}
    (hordered : Edit.ordered edits = inOrder)
    (hchars : ((Edit.applyAll inOrder source.bytes).toOption.bind fun bytes =>
      (Utf8.decode bytes).toOption) = some chars) :
    edited source edits = .ok chars := by
  obtain ⟨bytes, hbytes, hchars⟩ := Option.bind_eq_some_iff.1 hchars
  simp only [edited, bind_eq_ok, mapError_eq_ok, hordered]
  exact ⟨bytes, eq_ok_of_toOption hbytes, eq_ok_of_toOption hchars⟩

/-- Edits that can be applied in their order give a file. -/
theorem exists_edited_of_ordered {edits inOrder : List Edit}
    (hordered : Edit.ordered edits = inOrder)
    (hchars : ((Edit.applyAll inOrder source.bytes).toOption.bind fun bytes =>
      (Utf8.decode bytes).toOption).isSome = true) : ∃ new, edited source edits = .ok new := by
  obtain ⟨chars, hchars⟩ := Option.isSome_iff_exists.1 hchars
  exact ⟨_, edited_of_ordered hordered hchars⟩

/-- What wrapping gives if the pass recorded edits and they can be applied. -/
theorem wrapContent_of_edited {pass : Pass} (hparse : parser file source = .ok root)
    (hpass : record o source file root = .ok pass) (hne : pass.edits.isEmpty = false)
    (hedited : edited source (fileEdits o source root
      (!declares source o.markers.functionName root pass.edits) pass.edits) = .ok new) :
    wrapContent o parser file source =
      { WrapResult.unchanged file with
        wrapped := pass.wrapped, newSource := some new,
        importAdded := !declares source o.markers.functionName root pass.edits } := by
  have htree := wrapTree_eq hpass
  rw [hne, if_neg Bool.false_ne_true, hedited] at htree
  simp only [wrapContent, hparse, htree]
  rfl

/-- The edits of a file lie apart from each other and replace whole characters. -/
theorem fileEdits_apart (hplaced : ∀ v ∈ root.visits, Placed source v)
    (hgram : ∀ v ∈ root.visits, Grammatical v) (importAdded : Bool) {recorded : List Edit}
    (hspans : (recorded.map Edit.span).Sublist (root.visits.flatMap (spots source))) :
    ((fileEdits o source root importAdded recorded).Pairwise fun a b => a.span.Apart b.span) ∧
    ∀ e ∈ fileEdits o source root importAdded recorded, Whole source e.span := by
  have hspot : ∀ e ∈ recorded, ∃ v ∈ root.visits, e.span ∈ spots source v := by
    intro e he
    exact List.mem_flatMap.1 (hspans.subset (List.mem_map_of_mem he))
  have hapart : recorded.Pairwise fun a b => a.span.Apart b.span :=
    List.pairwise_map.1 ((spots_apart_tree hplaced hgram).sublist hspans)
  have hwhole : ∀ e ∈ recorded, Whole source e.span := by
    intro e he
    obtain ⟨v, hv, hs⟩ := hspot e he
    exact spots_whole hplaced hgram hv hs
  unfold fileEdits
  split
  · refine ⟨List.pairwise_append.2 ⟨hapart, List.pairwise_singleton .., ?_⟩, ?_⟩
    · intro e he i hi
      obtain rfl := List.mem_singleton.1 hi
      obtain ⟨v, hv, hs⟩ := hspot e he
      exact importEdit_apart hplaced hgram _ _ hv hs
    · intro e he
      rcases List.mem_append.1 he with he | he
      · exact hwhole e he
      · obtain rfl := List.mem_singleton.1 he
        exact importEdit_whole hplaced _ _
  · exact ⟨hapart, hwhole⟩

/-- **Wrapping changes the spans it reports and nothing else.** For every tree whose spans nest and
whose literals hold nothing that is replaced: if a file is changed, then the edits that were
recorded and the import lie apart from each other and replace whole characters inside the file; the
new file is the old one with these spans replaced and every other byte kept; and there is one report
for each recorded edit, in the order in which the walk over the tree came to them. -/
theorem wrapContent_changes_reported (hparse : parser file source = .ok root)
    (hplaced : ∀ v ∈ root.visits, Placed source v) (hgram : ∀ v ∈ root.visits, Grammatical v)
    (hnew : (wrapContent o parser file source).newSource = some new) :
    ∃ pass, record o source file root = .ok pass ∧
      (∃ edits,
        edits = fileEdits o source root (wrapContent o parser file source).importAdded pass.edits ∧
        (edits.Pairwise fun a b => a.span.Apart b.span) ∧ (∀ e ∈ edits, Whole source e.span) ∧
        IsEdited source edits new) ∧
      List.Forall₂ (Reports o source) pass.edits (wrapContent o parser file source).wrapped ∧
      (pass.edits.map Edit.span).Sublist (root.visits.flatMap (spots source)) := by
  obtain ⟨pass, hpass, hwrapped, hedited⟩ := wrapContent_newSource hparse hnew
  obtain ⟨hreports, hspans⟩ := record_extends hpass
  obtain ⟨hapart, hwhole⟩ := fileEdits_apart hplaced hgram _ hspans
  refine ⟨pass, hpass, ⟨_, rfl, hapart, hwhole, ?_⟩, hwrapped ▸ hreports, hspans⟩
  exact isEdited_of_edited (fun e he => (hwhole e he).forward) (fun e he => (hwhole e he).inside)
    hapart hedited

end

/-- The file `<p title="Save it">Hello</p>`. -/
def paragraphSource : Source := .ofChars "<p title=\"Save it\">Hello</p>".toList

/-- The tree of this file. -/
def paragraph : Tree :=
  .node .program none ⟨0, 28⟩ [
    .node .expressionStatement none ⟨0, 28⟩ [.node .element none ⟨0, 28⟩ [
    .node .openTag (some .openTag) ⟨0, 19⟩ [
      .node .token none ⟨0, 1⟩ [],
      .node .identifier (some .name) ⟨1, 2⟩ [],
      .node .markupAttribute none ⟨3, 18⟩ [
        .node .phrase none ⟨3, 8⟩ [], .node .token none ⟨8, 9⟩ [], .node .string none ⟨9, 18⟩ []],
      .node .token none ⟨18, 19⟩ []],
    .node .markupText none ⟨19, 24⟩ [],
    .node .closeTag (some .closeTag) ⟨24, 28⟩ [
      .node .token none ⟨24, 26⟩ [],
      .node .identifier (some .name) ⟨26, 27⟩ [],
      .node .token none ⟨27, 28⟩ []]]]]

/-- The nodes of the paragraph stand where a parser puts them. -/
theorem placed_paragraph : ∀ v ∈ paragraph.visits, Placed paragraphSource v := by
  decide +kernel

/-- The tree of the paragraph is one the grammar builds. -/
theorem grammatical_paragraph : ∀ v ∈ paragraph.visits, Grammatical v := by
  have houtside : ∀ v ∈ paragraph.visits, v.inError = false →
      v.tree.kind = .element ∨ v.tree.kind = .markupAttribute ∨ v.tree.kind = .string →
      ∀ a ∈ v.ancestors, isLiteral a = false := by
    decide +kernel
  have hruns : ∀ v ∈ paragraph.visits, v.tree.kind = .element →
      ∀ run ∈ textRuns v.tree, run <:+: v.tree.children := by
    simp [visits, paragraph, visitsUnder, visitsBeside, Tree.kind, Tree.children, Tree.role,
      textRuns, elementContent, textRunsOf, isMarkupText]
    exact ⟨[_], [_], rfl⟩
  exact fun v hv => ⟨houtside v hv, fun _ => hruns v hv⟩

/-- Options of a project that sets nothing. -/
def plainOptions : WrapOptions := ⟨⟨"t", "T"⟩, [], .standard, "lokal-react"⟩

/-- The edits of the paragraph, the last place first. -/
def paragraphEdits : List Edit :=
  [⟨19, 24, "\x7bt('A_hello')\x7d"⟩, ⟨9, 18, "\x7bt('A_save_it')\x7d"⟩,
    importEdit paragraphSource "t" "lokal-react" paragraph]

/-- The pass over the paragraph records edits that need an import. -/
theorem record_paragraph :
    ∃ pass, record plainOptions paragraphSource "A.tsx" paragraph = .ok pass ∧
    pass.edits.isEmpty = false ∧
    fileEdits plainOptions paragraphSource paragraph
      (!declares paragraphSource "t" paragraph pass.edits) pass.edits = paragraphEdits := by
  have hrecord : ((record plainOptions paragraphSource "A.tsx" paragraph).toOption.map fun pass =>
      (pass.edits.isEmpty, fileEdits plainOptions paragraphSource paragraph
        (!declares paragraphSource "t" paragraph pass.edits) pass.edits)) =
      some (false, paragraphEdits) := by
    decide +kernel
  obtain ⟨pass, hpass, hedits⟩ := Option.map_eq_some_iff.1 hrecord
  exact ⟨pass, eq_ok_of_toOption hpass, Prod.mk.inj hedits⟩

/-- The paragraph's edits give a new source. -/
theorem edited_paragraph : ∃ new, edited paragraphSource paragraphEdits = .ok new :=
  exists_edited_of_ordered (List.mergeSort_of_pairwise (by decide +kernel)) (by decide +kernel)

/-- The parser that gives this tree. -/
def paragraphParser : Parser := fun _ _ => .ok paragraph

/-- The text and the attribute of the paragraph are replaced and an import is put in front; the rest
of the file is kept. -/
theorem wrapContent_changes_reported_paragraph :
    ∃ new,
      (wrapContent plainOptions paragraphParser "A.tsx" paragraphSource).newSource = some new ∧
      IsEdited paragraphSource paragraphEdits new := by
  obtain ⟨pass, hpass, hne, hedits⟩ := record_paragraph
  obtain ⟨new, hnew⟩ := edited_paragraph
  have hwrap : wrapContent plainOptions paragraphParser "A.tsx" paragraphSource =
      { WrapResult.unchanged "A.tsx" with
        wrapped := pass.wrapped, newSource := some new,
        importAdded := !declares paragraphSource "t" paragraph pass.edits } := by
    have htree := wrapTree_eq hpass
    rw [hne, if_neg Bool.false_ne_true] at htree
    rw [show plainOptions.markers.functionName = "t" from rfl, hedits, hnew] at htree
    simp only [wrapContent, paragraphParser, htree]
    rfl
  have hchanged := congrArg WrapResult.newSource hwrap
  obtain ⟨pass', hpass', ⟨es, hes, -, -, hedited⟩, -⟩ :=
    wrapContent_changes_reported rfl placed_paragraph grammatical_paragraph hchanged
  rw [hpass] at hpass'
  cases hpass'
  rw [hwrap] at hes
  refine ⟨new, hchanged, ?_⟩
  rw [← hedits, ← hes]
  exact hedited

end Localization.Extraction
