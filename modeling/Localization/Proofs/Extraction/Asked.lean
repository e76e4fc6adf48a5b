import Mathlib.Data.List.Basic
import Localization.Extraction.Wrap
import Localization.Proofs.Extraction.Spots
import Localization.Proofs.Results

/-!
# What a visit asks for

A visit asks for some of its spots to be replaced (`map_span_sublist`), without a look at what the
pass has done so far; the pass then takes up what is asked for, one after another
(`wrapVisit_eq`). What a visit looked at when it asked for something is known from what it asked for
(`of_mem_elementReplacements`, `attributeReplacements_cases`, `stringReplacements_cases`), and it
never asks for anything empty (`span_pos`).
-/

namespace Localization.Extraction

open Syntax Syntax.Tree

/-! ## What a visit asks for -/

/-- A text that a visit asks to replace. -/
structure Replacement where
  position : Position
  text : Text
  span : Span

/-- What is asked for a run of text between tags. -/
def runReplacement? (o : WrapOptions) (source : Source) (run : List Tree) : Option Replacement :=
  (trimmedSpan? source run).bind fun s =>
    if o.filter.excludes (shownText source s) then none
    else some ⟨.text, shownText source s, s⟩

/-- What is asked for the text between an element's tags. -/
def elementReplacements (o : WrapOptions) (source : Source) (v : Visit) : List Replacement :=
  if elementName? source v.tree = some o.markers.componentName || v.inError ||
      insideCall o source v then []
  else (textRuns v.tree).filterMap (runReplacement? o source)

/-- What is asked for the value of an attribute. -/
def attributeReplacements (o : WrapOptions) (source : Source) (v : Visit) :
    Except Escape.Fault (List Replacement) :=
  match attributeParts source v.tree with
  | some (name, some value) =>
    if value.kind ≠ .string || v.inError then .ok []
    else (stringValue source (some v.tree) value).map fun text =>
      if o.filter.excludesAttribute name text.strip then []
      else [⟨.markupAttribute, text.strip, value.span⟩]
  | _ => .ok []

/-- What is asked for a string in braces between tags. -/
def stringReplacements (o : WrapOptions) (source : Source) (v : Visit) :
    Except Escape.Fault (List Replacement) :=
  match v.ancestors with
  | container :: element :: _ =>
    if container.kind ≠ .container || element.kind ≠ .element || v.inError ||
        insideCall o source v then .ok []
    else (stringValue source (some container) v.tree).map fun text =>
      if o.filter.excludes text then [] else [⟨.expression, text.strip, v.tree.span⟩]
  | _ => .ok []

/-- What a visit asks to replace. -/
def replacements (o : WrapOptions) (source : Source) (v : Visit) :
    Except Escape.Fault (List Replacement) :=
  match v.tree.kind with
  | .element => .ok (elementReplacements o source v)
  | .markupAttribute => attributeReplacements o source v
  | .string => stringReplacements o source v
  | _ => .ok []

/-- What a pass does when it is asked for a replacement. -/
def Pass.take (o : WrapOptions) (source : Source) (p : Pass) (r : Replacement) :
    Except Failure Pass :=
  p.replace o source r.position r.text r.span

section
variable {o : WrapOptions} {source : Source} {p q : Pass} {v : Visit}

/-- A run of markup text is taken when there is something to put in its place. -/
theorem wrapRun_eq (run : List Tree) : wrapRun o source p run =
    (runReplacement? o source run).toList.foldlM (Pass.take o source) p := by
  unfold wrapRun runReplacement?
  cases trimmedSpan? source run with
  | none => rfl
  | some s =>
    dsimp only [Option.bind_some]
    split
    · rfl
    · exact (bind_pure _).symm

/-- The runs of an element are taken in order, those that ask for nothing left out. -/
theorem foldlM_wrapRun (runs : List (List Tree)) : runs.foldlM (wrapRun o source) p =
    (runs.filterMap (runReplacement? o source)).foldlM (Pass.take o source) p := by
  induction runs generalizing p with
  | nil => rfl
  | cons run runs ih =>
    rw [List.foldlM_cons, wrapRun_eq, List.filterMap_cons]
    cases runReplacement? o source run with
    | none => exact ih
    | some r =>
      simp only [Option.toList_some, List.foldlM_cons, List.foldlM_nil, bind_pure]
      exact congrArg _ (funext fun p => ih)

/-- An attribute is wrapped by taking what it asks for. -/
theorem wrapAttribute_eq : wrapAttribute o source p v =
    ((attributeReplacements o source v).mapError .escape) >>= fun rs =>
      rs.foldlM (Pass.take o source) p := by
  unfold wrapAttribute attributeReplacements
  rcases attributeParts source v.tree with _ | ⟨name, _ | value⟩
  · rfl
  · rfl
  · dsimp only
    split
    · rfl
    · cases stringValue source (some v.tree) value with
      | error e => rfl
      | ok text =>
        dsimp only [Except.mapError, Except.map, bind, Except.bind]
        split
        · rfl
        · exact (bind_pure (p.replace o source .markupAttribute text.strip value.span)).symm

/-- A string is wrapped by taking what it asks for. -/
theorem wrapString_eq : wrapString o source p v =
    ((stringReplacements o source v).mapError .escape) >>= fun rs =>
      rs.foldlM (Pass.take o source) p := by
  unfold wrapString stringReplacements
  rcases v.ancestors with _ | ⟨container, _ | ⟨element, rest⟩⟩
  · rfl
  · rfl
  · dsimp only
    split
    · rfl
    · cases stringValue source (some container) v.tree with
      | error e => rfl
      | ok text =>
        dsimp only [Except.mapError, Except.map, bind, Except.bind]
        split
        · rfl
        · exact (bind_pure (p.replace o source .expression text.strip v.tree.span)).symm

/-- A visit asks for replacements, and the pass makes them one after another. -/
theorem wrapVisit_eq (o : WrapOptions) (source : Source) (p : Pass) (v : Visit) :
    wrapVisit o source p v =
      ((replacements o source v).mapError .escape) >>= fun rs =>
        rs.foldlM (Pass.take o source) p := by
  unfold wrapVisit replacements
  cases v.tree.kind with
  | element =>
    dsimp only [wrapElement, elementReplacements]
    split
    · rfl
    · exact foldlM_wrapRun _
  | markupAttribute => exact wrapAttribute_eq
  | string => exact wrapString_eq
  | _ => rfl

/-! ## What a visit looks at -/

/-- A text that an element asks for is a run between its tags, and it is neither excluded nor marked
or damaged. -/
theorem of_mem_elementReplacements {r : Replacement} (h : r ∈ elementReplacements o source v) :
    elementName? source v.tree ≠ some o.markers.componentName ∧ v.inError = false ∧
      insideCall o source v = false ∧ ∃ run ∈ textRuns v.tree, ∃ s,
        trimmedSpan? source run = some s ∧ o.filter.excludes (shownText source s) = false ∧
        r = ⟨.text, shownText source s, s⟩ := by
  unfold elementReplacements at h
  split at h
  next => cases h
  next hgo =>
    simp only [Bool.or_eq_true, decide_eq_true_eq, not_or, Bool.not_eq_true] at hgo
    obtain ⟨run, hrun, h⟩ := List.mem_filterMap.1 h
    obtain ⟨s, hs, h⟩ := Option.bind_eq_some_iff.1 h
    split at h
    next => cases h
    next hshown =>
      cases h
      exact ⟨hgo.1.1, hgo.1.2, hgo.2, run, hrun, s, hs, Bool.eq_false_iff.2 hshown, rfl⟩

/-- An attribute asks for nothing, or for the string that is its value. -/
theorem attributeReplacements_cases {rs : List Replacement}
    (h : attributeReplacements o source v = .ok rs) :
    rs = [] ∨ ∃ name value text, attributeParts source v.tree = some (name, some value) ∧
      value.kind = .string ∧ v.inError = false ∧
      stringValue source (some v.tree) value = .ok text ∧
      o.filter.excludesAttribute name text.strip = false ∧
      rs = [⟨.markupAttribute, text.strip, value.span⟩] := by
  unfold attributeReplacements at h
  split at h
  next name value hparts =>
    split at h
    next =>
      cases h
      exact .inl rfl
    next hgo =>
      simp only [ne_eq, decide_not, Bool.or_eq_true, Bool.not_eq_true', decide_eq_false_iff_not,
        not_or, not_not, Bool.not_eq_true] at hgo
      obtain ⟨text, hvalue, rfl⟩ := map_eq_ok.1 h
      split
      next => exact .inl rfl
      next hshown =>
        exact .inr ⟨name, value, text, hparts, hgo.1, hgo.2, hvalue, Bool.eq_false_iff.2 hshown,
          rfl⟩
  next =>
    cases h
    exact .inl rfl

/-- A string asks for nothing, or for itself if it stands in braces between tags. -/
theorem stringReplacements_cases {rs : List Replacement}
    (h : stringReplacements o source v = .ok rs) :
    rs = [] ∨ ∃ container element rest text, v.ancestors = container :: element :: rest ∧
      container.kind = .container ∧ element.kind = .element ∧ v.inError = false ∧
      insideCall o source v = false ∧ stringValue source (some container) v.tree = .ok text ∧
      o.filter.excludes text = false ∧ rs = [⟨.expression, text.strip, v.tree.span⟩] := by
  unfold stringReplacements at h
  split at h
  next container element rest hancestors =>
    split at h
    next =>
      cases h
      exact .inl rfl
    next hgo =>
      simp only [ne_eq, decide_not, Bool.or_eq_true, Bool.not_eq_true', decide_eq_false_iff_not,
        not_or, not_not, Bool.not_eq_true] at hgo
      obtain ⟨text, hvalue, rfl⟩ := map_eq_ok.1 h
      split
      next => exact .inl rfl
      next hshown =>
        exact .inr ⟨container, element, rest, text, hancestors, hgo.1.1.1, hgo.1.1.2, hgo.1.2,
          hgo.2, hvalue, Bool.eq_false_iff.2 hshown, rfl⟩
  next =>
    cases h
    exact .inl rfl

/-! ## Where the replacements are -/

/-- What the runs of an element ask for lies in their trimmed spans, in order. -/
theorem map_span_runs_sublist (runs : List (List Tree)) :
    ((runs.filterMap (runReplacement? o source)).map (·.span)).Sublist
      (runs.filterMap (trimmedSpan? source)) := by
  induction runs with
  | nil => exact List.Sublist.refl _
  | cons run runs ih =>
    rw [List.filterMap_cons, List.filterMap_cons]
    unfold runReplacement?
    cases trimmedSpan? source run with
    | none => exact ih
    | some s =>
      dsimp only [Option.bind_some]
      split
      next hnone =>
        split at hnone
        · exact ih.cons s
        · cases hnone
      next r hsome =>
        split at hsome
        · cases hsome
        · cases hsome
          exact ih.cons_cons s

/-- A visit asks for its own spots only. -/
theorem map_span_sublist {rs : List Replacement} (h : replacements o source v = .ok rs) :
    (rs.map (·.span)).Sublist (spots source v) := by
  unfold replacements at h
  split at h
  next hkind =>
    cases h
    unfold elementReplacements
    split
    next => exact List.nil_sublist _
    next hgo =>
      simp only [Bool.or_eq_true, not_or, Bool.not_eq_true] at hgo
      rw [spots, hgo.1.2, hkind, if_neg Bool.false_ne_true]
      exact map_span_runs_sublist _
  next hkind =>
    obtain rfl | ⟨name, value, text, hparts, hstring, hread, -, -, rfl⟩ :=
      attributeReplacements_cases h
    · exact List.nil_sublist _
    · have hspots : spots source v = [value.span] := by
        simp [spots, hread, hkind, hparts, hstring]
      rw [hspots]
      exact List.Sublist.refl _
  next hkind =>
    obtain rfl | ⟨container, element, rest, text, hancestors, hcontainer, -, hread, -, -, -, rfl⟩ :=
      stringReplacements_cases h
    · exact List.nil_sublist _
    · have hspots : spots source v = [v.tree.span] := by
        simp [spots, hread, hkind, Visit.parent?, hancestors, hcontainer]
      rw [hspots]
      exact List.Sublist.refl _
  next =>
    cases h
    exact List.nil_sublist _

/-! ## Nothing empty is asked for -/

/-- A node whose end is not past its start has no text. -/
theorem text_eq_nil {t : Tree} (h : t.stop ≤ t.start) : t.text source = [] := by
  have hslice : source.slice t.start t.stop = [] := by
    rw [Source.slice, List.drop_eq_nil_iff, List.length_take]
    omega
  rw [Tree.text, Source.sliceText, hslice, Utf8.decode, Utf8.decodeFrom]
  rfl

/-- A string node whose end is not past its start has the empty value. -/
theorem stringValue_eq_nil {t : Tree} (h : t.stop ≤ t.start) (parent : Option Tree) :
    stringValue source parent t = .ok [] := by
  rw [stringValue, text_eq_nil h]
  split
  · rfl
  · rfl

/-- Every filter leaves the empty text alone. -/
theorem excludes_nil (f : Filter) : f.excludes [] = true := by
  rfl

/-- A run that is trimmed to something is not empty. -/
theorem trimmedSpan?_pos {run : List Tree} {s : Span} (h : trimmedSpan? source run = some s) :
    s.start < s.stop := by
  obtain ⟨whole, -, htrim⟩ := Option.bind_eq_some_iff.1 h
  dsimp only at htrim
  split at htrim
  next => cases htrim
  next hlt =>
    cases htrim
    exact Nat.lt_of_not_le hlt

/-- The spans that are asked for are not empty: an empty string has an empty value, which is
excluded. -/
theorem span_pos {rs : List Replacement} (h : replacements o source v = .ok rs) {r : Replacement}
    (hr : r ∈ rs) : r.span.start < r.span.stop := by
  unfold replacements at h
  split at h
  next =>
    cases h
    obtain ⟨-, -, -, run, -, s, hs, -, rfl⟩ := of_mem_elementReplacements hr
    exact trimmedSpan?_pos hs
  next =>
    obtain rfl | ⟨name, value, text, -, -, -, htext, hshown, rfl⟩ := attributeReplacements_cases h
    · cases hr
    · obtain rfl := List.mem_singleton.1 hr
      refine Nat.lt_of_not_le fun hempty => ?_
      rw [stringValue_eq_nil hempty] at htext
      cases htext
      have hblank : Text.strip [] = [] := rfl
      rw [Filter.excludesAttribute, hblank, excludes_nil, Bool.or_true] at hshown
      cases hshown
  next =>
    obtain rfl | ⟨container, element, rest, text, -, -, -, -, -, htext, hshown, rfl⟩ :=
      stringReplacements_cases h
    · cases hr
    · obtain rfl := List.mem_singleton.1 hr
      refine Nat.lt_of_not_le fun hempty => ?_
      rw [stringValue_eq_nil hempty] at htext
      cases htext
      rw [excludes_nil] at hshown
      cases hshown
  next =>
    cases h
    cases hr

/-! ## All that is asked for -/

/-- All that a visit asks for; nothing if it fails. -/
def asked (o : WrapOptions) (source : Source) (v : Visit) : List Replacement :=
  (replacements o source v).toOption.getD []

/-- What a visit asks for, where its strings have values. -/
theorem asked_of_ok {rs : List Replacement} (h : replacements o source v = .ok rs) :
    asked o source v = rs := by
  rw [asked, h]
  rfl

/-- What a visit asks for lies at its spots, in their order. -/
theorem asked_span_sublist (v : Visit) :
    ((asked o source v).map (·.span)).Sublist (spots source v) := by
  cases h : replacements o source v with
  | error e =>
    rw [asked, h]
    exact List.nil_sublist _
  | ok rs =>
    rw [asked_of_ok h]
    exact map_span_sublist h

/-- No part that is asked for is empty. -/
theorem asked_span_pos {r : Replacement} (hr : r ∈ asked o source v) :
    r.span.start < r.span.stop := by
  cases h : replacements o source v with
  | error e =>
    rw [asked, h] at hr
    cases hr
  | ok rs =>
    rw [asked_of_ok h] at hr
    exact span_pos h hr

end

end Localization.Extraction
