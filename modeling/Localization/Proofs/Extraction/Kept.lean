import Mathlib.Data.List.Basic
import Mathlib.Data.List.Forall2
import Localization.Extraction.Wrap
import Localization.Proofs.Extraction.ReadBack
import Localization.Proofs.Extraction.Replacements
import Localization.Proofs.Extraction.Spots
import Localization.Proofs.Syntax.Visits

/-!
# Nodes that were kept

A node that a pass did not replace is asked the same questions when the file is read again, and
answers them in the same way: names are where nothing is replaced, so a call calls the same function
and an element has the same name; and a text that was left alone shows the same characters. So
nothing is asked for at such a node (`Reread.replacements_eq`), and the same key is found there
(`Reread.keyOf_eq`).
-/

namespace Localization.Extraction

open Syntax Syntax.Tree

namespace Rewrite

/-! ## A pass that was made -/

/-- The tree of a file as a pass found it, and what the pass made of it. -/
structure Made (w : Rewrite) (root : Tree) : Prop where
  placed : ∀ v ∈ root.visits, Placed w.source v
  grammatical : ∀ v ∈ root.visits, Grammatical v
  regular : ∀ v ∈ root.visits, Regular v.tree
  readable : ∀ v ∈ root.visits, v.inError = false
  calls : w.calls.map Prod.fst =
    (root.visits.flatMap (asked w.options w.source)).map (·.span)
  answered : ∀ v ∈ root.visits, ∃ rs, replacements w.options w.source v = .ok rs
  legible : ∀ v ∈ root.visits, Legible w.options.markers w.source v.tree

variable {w : Rewrite} {root : Tree} {v v' : Visit}

/-- A call stands where a visit asked for it. -/
theorem Made.exists_asked (hm : w.Made root) {c : Span × Text} (hc : c ∈ w.calls) :
    ∃ v ∈ root.visits, ∃ r ∈ asked w.options w.source v, r.span = c.1 := by
  have hspan : c.1 ∈ w.calls.map Prod.fst := List.mem_map_of_mem hc
  rw [hm.calls] at hspan
  obtain ⟨r, hr, heq⟩ := List.mem_map.1 hspan
  obtain ⟨v, hv, hr⟩ := List.mem_flatMap.1 hr
  exact ⟨v, hv, r, hr, heq⟩

/-- No call is put in for an empty part. -/
theorem Made.span_pos (hm : w.Made root) {c : Span × Text} (hc : c ∈ w.calls) :
    c.1.start < c.1.stop := by
  obtain ⟨v, -, r, hr, heq⟩ := hm.exists_asked hc
  exact heq ▸ asked_span_pos hr

/-- What is asked for is replaced by a call. -/
theorem Made.exists_call (hm : w.Made root) (hv : v ∈ root.visits) {r : Replacement}
    (hr : r ∈ asked w.options w.source v) : ∃ key, (r.span, key) ∈ w.calls := by
  have hspan : r.span ∈ w.calls.map Prod.fst := by
    rw [hm.calls]
    exact List.mem_map_of_mem (List.mem_flatMap_of_mem hv hr)
  obtain ⟨⟨s, key⟩, hmem, rfl⟩ := List.mem_map.1 hspan
  exact ⟨key, hmem⟩

/-- What is asked for is touched. -/
theorem Made.not_untouched (hm : w.Made root) (hv : v ∈ root.visits) {r : Replacement}
    (hr : r ∈ asked w.options w.source v) {s : Span} (hstart : s.start ≤ r.span.start)
    (hstop : r.span.stop ≤ s.stop) : ¬w.Untouched s := by
  intro huntouched
  obtain ⟨key, hmem⟩ := hm.exists_call hv hr
  have hpos := asked_span_pos hr
  rcases huntouched _ hmem with hapart | hapart
  · dsimp only at hapart
    omega
  · dsimp only at hapart
    omega

/-! ## What replacements touch -/

/-- Every replacement that touches a node is made inside it. -/
def Clear (w : Rewrite) (v : Visit) : Prop :=
  ∀ c ∈ w.calls, c.1.Apart v.tree.span ∨
    ∃ u ∈ visitsUnder v.ancestors v.tree, c.1 ∈ spots w.source u

/-- Every replacement is made inside the root. -/
theorem Made.clear_root (hm : w.Made root) : w.Clear ⟨root, []⟩ := by
  intro c hc
  obtain ⟨v, hv, r, hr, heq⟩ := hm.exists_asked hc
  exact .inr ⟨v, hv, heq ▸ (asked_span_sublist v).subset (List.mem_map_of_mem hr)⟩

/-- What lies apart from a span lies apart from all inside it. -/
theorem apart_of_inside {a s t : Span} (h : a.Apart s) (hstart : s.start ≤ t.start)
    (hstop : t.stop ≤ s.stop) : a.Apart t := by
  rcases h with hle | hle
  · exact .inl (hle.trans hstart)
  · exact .inr (hstop.trans hle)

/-- A child that is kept, under a node that is kept, is touched from inside only. -/
theorem Clear.child (hm : w.Made root) (hv : v ∈ root.visits) (hclear : w.Clear v)
    (hliteral : isLiteral v.tree = true → w.Untouched v.tree.span) {c : Tree}
    (hc : c ∈ v.tree.children) (hchild : isLiteral c = true → w.Untouched c.span) :
    w.Clear ⟨c, v.tree :: v.ancestors⟩ := by
  intro call hcall
  obtain ⟨hstart, hstop⟩ := (hm.placed v hv).inside c hc
  rcases hclear call hcall with hapart | ⟨u, hu, hs⟩
  · exact .inl (apart_of_inside hapart hstart hstop)
  rcases mem_visitsUnder.1 hu with rfl | ⟨d, hd, hu⟩
  · rcases spot_apart_child (hm.placed _ hv) (hm.grammatical _ hv) hs hc with hapart | hgoes
    · exact .inl hapart
    · rcases hgoes with hstring | ⟨-, hstring⟩ | htext
      · refine .inl (apart_of_inside (hliteral ?_ call hcall) hstart hstop)
        simp [isLiteral, hstring]
      · exact .inl (hchild (by simp [isLiteral, hstring]) call hcall)
      · exact .inl (hchild (by simp [isLiteral, htext]) call hcall)
  · have hbelow : ∀ u ∈ visitsUnder (v.tree :: v.ancestors) d, u ∈ root.visits := fun u hu =>
      mem_visitsUnder_trans (child_mem_visitsUnder hv hd) hu
    have hin := spots_inside_tree (fun u hu => hm.placed u (hbelow u hu))
      (fun u hu => hm.grammatical u (hbelow u hu)) hu hs
    rcases (hm.placed v hv).siblings hc hd with rfl | hcd | hdc
    · exact .inr ⟨u, hu, hs⟩
    · exact .inl (.inr (hcd.trans hin.1))
    · exact .inl (.inl (hin.2.trans hdc))

/-- Nothing touches a plain node. -/
theorem Clear.untouched (hclear : w.Clear v) (hplain : Plain v.tree) :
    w.Untouched v.tree.span := by
  intro c hc
  rcases hclear c hc with hapart | ⟨u, hu, hs⟩
  · exact hapart
  have hmem : u.tree ∈ v.tree.subtrees := by
    rw [← map_tree_visitsUnder v.ancestors]
    exact List.mem_map_of_mem hu
  obtain ⟨helement, hattribute, hstring⟩ := hplain _ hmem
  rcases (spots_cases hs).2 with ⟨hkind, -⟩ | ⟨hkind, -⟩ | ⟨hkind, -⟩
  · exact absurd hkind helement
  · exact absurd hkind hattribute
  · exact absurd hkind hstring

/-! ## Visits that come again -/

/-- Two nodes are of one kind, and call the function or not. -/
def Alike (w : Rewrite) (t t' : Tree) : Prop :=
  t'.kind = t.kind ∧ isCallOf w.new w.functionName t' = isCallOf w.source w.functionName t

/-- A visit of the new tree to a node that was kept. -/
structure Reread (w : Rewrite) (root : Tree) (v v' : Visit) : Prop where
  mem : v ∈ root.visits
  clear : w.Clear v
  again : w.Again v.tree v'.tree
  literal : isLiteral v.tree = true → w.Untouched v.tree.span
  ancestors : List.Forall₂ w.Alike v.ancestors v'.ancestors

/-- The children that are kept come again. -/
theorem reread_child (hm : w.Made root) (hv : v ∈ root.visits) (hclear : w.Clear v)
    (hliteral : isLiteral v.tree = true → w.Untouched v.tree.span) {ancestors : List Tree}
    (halike : List.Forall₂ w.Alike (v.tree :: v.ancestors) ancestors) {c c' : Tree}
    (hc : c ∈ v.tree.children) (hkept : w.Kept c c') :
    w.Reread root ⟨c, v.tree :: v.ancestors⟩ ⟨c', ancestors⟩ where
  mem := child_mem_visitsUnder hv hc
  clear := hclear.child hm hv hliteral hc hkept.2
  again := hkept.1
  literal := hkept.2
  ancestors := halike

/-- A plain child of a node that comes again keeps its text. -/
theorem Reread.child_text (hm : w.Made root) (h : w.Reread root v v') {c c' : Tree}
    (hc : c ∈ v.tree.children) (hkept : w.Kept c c') (hplain : Plain c) :
    c'.text w.new = c.text w.source :=
  hkept.1.text_eq hplain ((h.clear.child hm h.mem h.literal hc hkept.2).untouched hplain)

/-- The child that plays a part is kept with its part. -/
theorem child?_of_kept {cs cs' : List Tree} (h : List.Forall₂ w.Kept cs cs') (r : Role) :
    cs.find? (·.role = some r) = none ∧ cs'.find? (·.role = some r) = none ∨
    ∃ c ∈ cs, ∃ c', cs.find? (·.role = some r) = some c ∧
      cs'.find? (·.role = some r) = some c' ∧ c.role = some r ∧ w.Kept c c' := by
  induction h with
  | nil => exact .inl ⟨rfl, rfl⟩
  | @cons c c' cs cs' hc _ ih =>
    by_cases hrole : c.role = some r
    · refine .inr ⟨c, List.mem_cons_self, c', ?_, ?_, hrole, hc⟩
      · rw [List.find?_cons_of_pos (by simpa using hrole)]
      · rw [List.find?_cons_of_pos (by simpa [hc.1.role_eq] using hrole)]
    · rw [List.find?_cons_of_neg (by simpa using hrole),
        List.find?_cons_of_neg (by simpa [hc.1.role_eq] using hrole)]
      refine ih.imp_right ?_
      rintro ⟨d, hd, hrest⟩
      exact ⟨d, List.mem_cons_of_mem c hd, hrest⟩

/-- The first child that is no token is kept. -/
theorem namedChildren_of_kept {cs cs' : List Tree} (h : List.Forall₂ w.Kept cs cs') :
    (cs.filter (·.kind.isNamed)).head? = none ∧ (cs'.filter (·.kind.isNamed)).head? = none ∨
    ∃ c c', (cs.filter (·.kind.isNamed)).head? = some c ∧
      (cs'.filter (·.kind.isNamed)).head? = some c' ∧ w.Kept c c' := by
  induction h with
  | nil => exact .inl ⟨rfl, rfl⟩
  | @cons c c' cs cs' hc _ ih =>
    rw [List.filter_cons, List.filter_cons, hc.1.kind_eq]
    split
    · exact .inr ⟨c, c', rfl, rfl, hc⟩
    · exact ih

/-- Under a node that is neither element, attribute nor braces all children are kept. -/
theorem Again.children {t t' : Tree} (h : w.Again t t') (helement : t.kind ≠ .element)
    (hattribute : t.kind ≠ .markupAttribute) (hcontainer : t.kind ≠ .container) :
    List.Forall₂ w.Kept t.children t'.children := by
  cases h with
  | node _ _ hbelow => exact hbelow.forall₂ helement hcontainer
  | value => exact absurd rfl hattribute
  | element => exact absurd rfl helement

/-- A node that comes again calls the same function. -/
theorem Reread.isCallOf_eq (hm : w.Made root) (h : w.Reread root v v') (name : Text) :
    isCallOf w.new name v'.tree = isCallOf w.source name v.tree := by
  rw [isCallOf, isCallOf, h.again.kind_eq]
  by_cases hkind : v.tree.kind = .call
  · have hkept := h.again.children (by simp [hkind]) (by simp [hkind]) (by simp [hkind])
    have hcallee : callee? w.new v'.tree = callee? w.source v.tree := by
      rw [callee?, callee?, child?, child?]
      rcases child?_of_kept hkept .function with
        ⟨hnone, hnone'⟩ | ⟨c, hc, c', hsome, hsome', -, hboth⟩
      · rw [hnone, hnone']
        rfl
      · rw [hsome, hsome']
        simp only [Option.bind_eq_bind, Option.bind_some, hboth.1.kind_eq]
        by_cases hname : c.kind = .identifier
        · have hplain := (hm.regular _ (child_mem_visitsUnder h.mem hc)).identifier hname
          rw [if_pos hname, if_pos hname, h.child_text hm hc hboth hplain]
        · rw [if_neg hname, if_neg hname]
    rw [hcallee]
  · simp [hkind]

/-- A kept node and the nodes around it are like those they were, one by one. -/
theorem Reread.alike (hm : w.Made root) (h : w.Reread root v v') :
    List.Forall₂ w.Alike (v.tree :: v.ancestors) (v'.tree :: v'.ancestors) :=
  .cons ⟨h.again.kind_eq, h.isCallOf_eq hm _⟩ h.ancestors

/-- Among alike nodes a call of the function is found in both trees or in neither. -/
theorem any_isCallOf_of_alike {ts ts' : List Tree} (h : List.Forall₂ w.Alike ts ts') :
    ts'.any (isCallOf w.new w.functionName) = ts.any (isCallOf w.source w.functionName) := by
  induction h with
  | nil => rfl
  | cons halike _ ih => rw [List.any_cons, List.any_cons, ih, halike.2]

/-- It stands inside a call of the function if it did. -/
theorem Reread.insideCall_eq (h : w.Reread root v v') :
    insideCall w.options w.new v' = insideCall w.options w.source v :=
  any_isCallOf_of_alike h.ancestors

/-- An element that comes again has the same name. -/
theorem Reread.elementName?_eq (hm : w.Made root) (h : w.Reread root v v')
    (hkind : v.tree.kind = .element) :
    elementName? w.new v'.tree = elementName? w.source v.tree := by
  obtain ⟨t, ancestors⟩ := v
  obtain ⟨t', ancestors'⟩ := v'
  obtain ⟨hv, hclear, hagain, hliteral, halike⟩ := h
  cases hagain with
  | node hne => exact absurd hkind hne
  | value => cases hkind
  | @element r s s' first first' last last' cs cs' hfirst hopen hbelow hlast hclose =>
    have hmem : first ∈ (Syntax.Tree.node .element r s (first :: (cs ++ [last]))).children :=
      List.mem_cons_self
    have hkept : w.Kept first first' := ⟨hfirst, by simp [isLiteral, isMarkupText, hopen.1]⟩
    have htag := reread_child hm hv hclear hliteral (.cons ⟨rfl, rfl⟩ halike) hmem hkept
    have hfind : (Syntax.Tree.node .element r s (first :: (cs ++ [last]))).child? .openTag =
        some first := by
      rw [child?, children, List.find?_cons_of_pos (by simpa using hopen.2)]
    have hfind' : (Syntax.Tree.node .element r s' (first' :: (cs' ++ [last']))).child? .openTag =
        some first' := by
      rw [child?, children, List.find?_cons_of_pos (by simpa [hfirst.role_eq] using hopen.2)]
    simp only [elementName?, hfind, hfind', Option.bind_eq_bind, Option.bind_some]
    have hchildren := hfirst.children (by simp [hopen.1]) (by simp [hopen.1]) (by simp [hopen.1])
    rw [child?, child?]
    rcases child?_of_kept hchildren .name with
      ⟨hnone, hnone'⟩ | ⟨c, hc, c', hsome, hsome', hrole, hboth⟩
    · rw [hnone, hnone']
      rfl
    · have hplain := (hm.regular _ htag.mem).tagName hopen.1 c hc hrole
      rw [hsome, hsome']
      simp only [Option.bind_some]
      rw [htag.child_text hm hc hboth hplain]

/-! ## Nothing is asked for -/

/-- The content of an element is what stands between its tags. -/
theorem elementContent_eq {r : Option Role} {s : Span} {first last : Tree} {cs : List Tree}
    (hfirst : first.role = some .openTag) (hlast : last.role = some .closeTag)
    (hcs : ∀ c ∈ cs, isTag c = false) :
    elementContent (.node .element r s (first :: (cs ++ [last]))) = cs := by
  have hfilter : cs.filter (fun c => c.role ≠ some .openTag && c.role ≠ some .closeTag) = cs := by
    refine List.filter_eq_self.2 fun c hc => ?_
    simpa [isTag] using hcs c hc
  rw [elementContent, children, List.filter_cons_of_neg (by simp [hfirst]), List.filter_append,
    hfilter, List.filter_cons_of_neg (by simp [hlast]), List.filter_nil, List.append_nil]

/-- No tag stands among the content of an element, before or after. -/
theorem Beside.not_tag {k : Kind} {cs cs' : List Tree} (h : w.Beside w.Again k cs cs')
    (hk : k = .element) : (∀ c ∈ cs, isTag c = false) ∧ ∀ c ∈ cs', isTag c = false := by
  induction h with
  | nil => exact ⟨nofun, nofun⟩
  | @child _ c c' _ _ hchild _ hplain _ ih =>
    have htag := (hplain hk).2
    have htag' : isTag c' = false := by rwa [isTag, hchild.role_eq]
    exact ⟨List.forall_mem_cons.2 ⟨htag, (ih hk).1⟩, List.forall_mem_cons.2 ⟨htag', (ih hk).2⟩⟩
  | string => cases hk
  | keptRun htexts _ _ _ _ _ _ ih =>
    obtain ⟨hrun, hrun'⟩ := not_tag_of_keptTexts htexts
    exact ⟨List.forall_mem_append.2 ⟨hrun, (ih hk).1⟩, List.forall_mem_append.2 ⟨hrun', (ih hk).2⟩⟩
  | replacedRun htexts _ _ hfront hcontainer hback _ _ ih =>
    refine ⟨List.forall_mem_append.2 ⟨fun t ht => ?_, (ih hk).1⟩,
      List.forall_mem_append.2 ⟨not_tag_of_blank hfront, List.forall_mem_cons.2 ⟨?_,
        List.forall_mem_append.2 ⟨not_tag_of_blank hback, (ih hk).2⟩⟩⟩⟩
    · simp [isTag, (htexts t ht).2]
    · cases hcontainer
      rfl

/-- What stands between the tags of an element is read back as neighbours are. -/
theorem Again.content {t t' : Tree} (h : w.Again t t') (hkind : t.kind = .element) :
    w.Beside w.Again .element (elementContent t) (elementContent t') := by
  cases h with
  | node hne => exact absurd hkind hne
  | value => cases hkind
  | element hfirst hopen hbelow hlast hclose =>
    obtain ⟨hcs, hcs'⟩ := hbelow.not_tag rfl
    rwa [elementContent_eq hopen.2 hclose.2 hcs, elementContent_eq (hfirst.role_eq.trans hopen.2)
      (hlast.role_eq.trans hclose.2) hcs']

/-- A run that nothing touches is not asked for. -/
theorem Made.runReplacement?_eq_none (hm : w.Made root) (hv : v ∈ root.visits)
    (hasked : asked w.options w.source v =
      (textRuns v.tree).filterMap (runReplacement? w.options w.source)) {run : List Tree} {s : Span}
    (hrun : run ∈ textRuns v.tree) (hspan : runSpan? run = some s) (huntouched : w.Untouched s) :
    runReplacement? w.options w.source run = none := by
  rw [Option.eq_none_iff_forall_ne_some]
  intro r hr
  have hmem : r ∈ asked w.options w.source v := hasked ▸ List.mem_filterMap.2 ⟨run, hrun, hr⟩
  obtain ⟨t, ht, hif⟩ := Option.bind_eq_some_iff.1 hr
  obtain ⟨whole, hwhole, hstart, -, hstop⟩ := runSpan?_of_trimmedSpan? ht
  obtain rfl : whole = s := Option.some.inj (hwhole.symm.trans hspan)
  split at hif
  next => cases hif
  next =>
    cases hif
    exact hm.not_untouched hv hmem hstart hstop huntouched

/-- An element that was kept asks for nothing more. -/
theorem Reread.elementReplacements_eq_nil (hm : w.Made root) (h : w.Reread root v v')
    (hkind : v.tree.kind = .element) : elementReplacements w.options w.new v' = [] := by
  have hname := h.elementName?_eq hm hkind
  have hinside := h.insideCall_eq
  unfold elementReplacements
  split
  next => rfl
  next hgo =>
    rw [hname, hinside] at hgo
    simp only [Bool.or_eq_true, not_or, Bool.not_eq_true] at hgo
    have hasked : asked w.options w.source v =
        (textRuns v.tree).filterMap (runReplacement? w.options w.source) := by
      refine asked_of_ok ?_
      simp only [replacements, hkind, elementReplacements, hgo.1.1, hgo.2, hm.readable v h.mem,
        Bool.or_self, Bool.false_eq_true, if_false]
    rw [List.filterMap_eq_nil_iff]
    intro run' hrun'
    rcases (h.again.content hkind).runs rfl hrun' with
      hnone | ⟨run, hrun, s, s', hspan, hspan', huntouched, hsame⟩
    · rw [runReplacement?, hnone]
      rfl
    · refine runReplacement?_of_sameBytes hspan hspan' hsame ?_
      exact hm.runReplacement?_eq_none h.mem hasked hrun hspan huntouched

/-- A string that was kept keeps its text. -/
theorem Again.string_text {t t' : Tree} (h : w.Again t t')
    (hliteral : isLiteral t = true → w.Untouched t.span) (hkind : t.kind = .string) :
    t'.text w.new = t.text w.source := by
  have huntouched := hliteral (by simp [isLiteral, hkind])
  cases h with
  | node _ hbytes _ => exact (hbytes huntouched).text_eq
  | value => cases hkind
  | element => cases hkind

/-- A string's value depends on its text and on whether an attribute is around it. -/
theorem stringValue_congr {t t' : Tree} (htext : t'.text w.new = t.text w.source)
    {parent parent' : Option Tree}
    (hparent : parent'.any (·.kind = .markupAttribute) = parent.any (·.kind = .markupAttribute)) :
    stringValue w.new parent' t' = stringValue w.source parent t := by
  rw [stringValue, stringValue, htext, hparent]

/-- Of two lists that are related one by one, the last members are related. -/
theorem exists_getLast?_of_forall₂ {R : Tree → Tree → Prop} {cs cs' : List Tree}
    (h : List.Forall₂ R cs cs') {c' : Tree} (hlast : cs'.getLast? = some c') :
    ∃ c, cs.getLast? = some c ∧ R c c' := by
  have hreverse := List.forall₂_reverse_iff.2 h
  rw [← List.head?_reverse] at hlast ⊢
  generalize cs.reverse = ds at hreverse ⊢
  generalize cs'.reverse = ds' at hreverse hlast
  cases hreverse with
  | nil => cases hlast
  | @cons d d' ds ds' hd _ =>
    cases hlast
    exact ⟨d, rfl, hd⟩

/-- The parts of an attribute whose value was kept. -/
theorem Reread.attributeParts_eq (hm : w.Made root) (h : w.Reread root v v')
    (hkind : v.tree.kind = .markupAttribute)
    (hkept : List.Forall₂ w.Kept v.tree.children v'.tree.children) {name : Text} {value' : Tree}
    (hparts : attributeParts w.new v'.tree = some (name, some value')) :
    ∃ value, attributeParts w.source v.tree = some (name, some value) ∧ w.Kept value value' := by
  unfold attributeParts at hparts ⊢
  have hname := (hm.regular v h.mem).attributeName hkind
  have hmem : ∀ c ∈ v.tree.children.head?, c ∈ v.tree.children := fun c hc => List.mem_of_head? hc
  have htext : ∀ {c c' : Tree}, c ∈ v.tree.children → w.Kept c c' → Plain c →
      c'.text w.new = c.text w.source := h.child_text hm
  revert hparts
  generalize v.tree.children = cs at hkept hname hmem htext
  generalize v'.tree.children = cs' at hkept
  intro hparts
  cases hkept with
  | nil => cases hparts
  | @cons c c' cs cs' hc hcs =>
    simp only [Option.some.injEq, Prod.mk.injEq, Option.ite_none_right_eq_some] at hparts ⊢
    obtain ⟨hname', hlength, hlast⟩ := hparts
    obtain ⟨value, hvalue, hboth⟩ := exists_getLast?_of_forall₂ hcs hlast
    refine ⟨value, ⟨?_, ?_, hvalue⟩, hboth⟩
    · rw [← hname', htext (hmem c rfl) hc (hname c rfl)]
    · rwa [hcs.length_eq]

/-- An attribute keeps its children, or its value became braces. -/
theorem Again.attribute_children {t t' : Tree} (h : w.Again t t')
    (hkind : t.kind = .markupAttribute) :
    List.Forall₂ w.Kept t.children t'.children ∨
      ∃ c, t'.children.getLast? = some c ∧ c.kind = .container := by
  cases h with
  | @node k r s s' cs cs' _ _ hbelow =>
    obtain rfl : k = .markupAttribute := hkind
    exact .inl (hbelow.forall₂ nofun nofun)
  | value _ _ _ hcontainer _ =>
    cases hcontainer
    exact .inr ⟨_, List.getLast?_concat, rfl⟩
  | element => cases hkind

/-- An attribute that was kept asks for nothing more. -/
theorem Reread.attributeReplacements_eq (hm : w.Made root) (h : w.Reread root v v')
    (hkind : v.tree.kind = .markupAttribute) :
    attributeReplacements w.options w.new v' = .ok [] := by
  unfold attributeReplacements
  split
  next name value' hparts' =>
    split
    next => rfl
    next hgo =>
      simp only [ne_eq, decide_not, Bool.or_eq_true, Bool.not_eq_true', decide_eq_false_iff_not,
        not_or, not_not, Bool.not_eq_true] at hgo
      rcases h.again.attribute_children hkind with hkept | ⟨c, hlast, hc⟩
      · obtain ⟨value, hparts, hboth⟩ := h.attributeParts_eq hm hkind hkept hparts'
        have hstring : value.kind = .string := hboth.1.kind_eq.symm.trans hgo.1
        have huntouched := hboth.2 (by simp [isLiteral, hstring])
        have hvalue : stringValue w.new (some v'.tree) value' =
            stringValue w.source (some v.tree) value :=
          stringValue_congr (hboth.1.string_text hboth.2 hstring) (by simp [h.again.kind_eq])
        obtain ⟨rs, hrs⟩ := hm.answered v h.mem
        have hasked := asked_of_ok hrs
        simp only [replacements, hkind, attributeReplacements, hparts, hstring, hm.readable v h.mem,
          ne_eq, not_true, decide_false, Bool.or_self, Bool.false_eq_true, if_false] at hrs
        obtain ⟨text, htext, hrs⟩ := map_eq_ok.1 hrs
        rw [hvalue, htext]
        split at hrs
        next hexcluded => simp [Except.map, hexcluded]
        next =>
          rw [← hrs] at hasked
          have hmem := hasked ▸ List.mem_singleton_self _
          exact absurd huntouched (hm.not_untouched h.mem hmem (Nat.le_refl _) (Nat.le_refl _))
      · rw [getLast?_of_attributeParts hparts'] at hlast
        cases hlast
        rw [hgo.1] at hc
        cases hc
  next => rfl

/-- A string that was kept asks for nothing more. -/
theorem Reread.stringReplacements_eq (hm : w.Made root) (h : w.Reread root v v')
    (hkind : v.tree.kind = .string) : stringReplacements w.options w.new v' = .ok [] := by
  have hinside := h.insideCall_eq
  have huntouched := h.literal (by simp [isLiteral, hkind])
  unfold stringReplacements
  split
  next container' element' rest' hancestors' =>
    split
    next => rfl
    next hgo =>
      rw [hinside] at hgo
      simp only [ne_eq, decide_not, Bool.or_eq_true, Bool.not_eq_true', decide_eq_false_iff_not,
        not_or, not_not, Bool.not_eq_true] at hgo
      obtain ⟨container, element, rest, hancestors, hcontainer, helement⟩ :
          ∃ container element rest, v.ancestors = container :: element :: rest ∧
            container.kind = .container ∧ element.kind = .element := by
        have halike := h.ancestors
        rw [hancestors'] at halike
        cases hcases : v.ancestors with
        | nil =>
          rw [hcases] at halike
          cases halike
        | cons container others =>
          rw [hcases] at halike
          cases halike with
          | cons hcontainer hothers =>
            cases hothers with
            | cons helement _ =>
              exact ⟨_, _, _, rfl, hcontainer.1.symm.trans hgo.1.1.1,
                helement.1.symm.trans hgo.1.1.2⟩
      have hvalue : stringValue w.new (some container') v'.tree =
          stringValue w.source (some container) v.tree :=
        stringValue_congr (h.again.string_text h.literal hkind) (by simp [hgo.1.1.1, hcontainer])
      obtain ⟨rs, hrs⟩ := hm.answered v h.mem
      have hasked := asked_of_ok hrs
      simp only [replacements, hkind, stringReplacements, hancestors, hcontainer, helement, hgo.2,
        hm.readable v h.mem, ne_eq, not_true, decide_false, Bool.or_self, Bool.false_eq_true,
        if_false] at hrs
      obtain ⟨text, htext, hrs⟩ := map_eq_ok.1 hrs
      rw [hvalue, htext]
      split at hrs
      next hexcluded => simp [Except.map, hexcluded]
      next =>
        rw [← hrs] at hasked
        have hmem := hasked ▸ List.mem_singleton_self _
        exact absurd huntouched (hm.not_untouched h.mem hmem (Nat.le_refl _) (Nat.le_refl _))
  next => rfl

/-- At a node that comes again nothing is asked for. -/
theorem Reread.replacements_eq (hm : w.Made root) (h : w.Reread root v v') :
    replacements w.options w.new v' = .ok [] := by
  have hkind := h.again.kind_eq
  unfold replacements
  split
  next helement =>
    rw [h.elementReplacements_eq_nil hm (hkind.symm.trans helement)]
  next hattribute => exact h.attributeReplacements_eq hm (hkind.symm.trans hattribute)
  next hstring => exact h.stringReplacements_eq hm (hkind.symm.trans hstring)
  next => rfl

/-! ## The same key is found -/

/-- The first argument of a call that comes again. -/
theorem Reread.literalArgument?_cases (hm : w.Made root) (h : w.Reread root v v') (name : Text) :
    literalArgument? w.source name v.tree = none ∧ literalArgument? w.new name v'.tree = none ∨
    ∃ a a', literalArgument? w.source name v.tree = some a ∧
      literalArgument? w.new name v'.tree = some a' ∧
      stringValue w.new (v'.tree.child? .arguments) a' =
        stringValue w.source (v.tree.child? .arguments) a := by
  unfold literalArgument?
  rw [h.isCallOf_eq hm]
  cases hcall : isCallOf w.source name v.tree with
  | false => exact .inl ⟨rfl, rfl⟩
  | true =>
    have hkind : v.tree.kind = .call := by
      simp only [isCallOf, Bool.and_eq_true, decide_eq_true_eq] at hcall
      exact hcall.1
    have hkept := h.again.children (by simp [hkind]) (by simp [hkind]) (by simp [hkind])
    simp only [if_true, firstArgument?, child?]
    rcases child?_of_kept hkept .arguments with
      ⟨hnone, hnone'⟩ | ⟨c, hc, c', hsome, hsome', hrole, hboth⟩
    · rw [hnone, hnone']
      exact .inl ⟨rfl, rfl⟩
    · have hphrase := (hm.regular v h.mem).arguments hkind c hc hrole
      have hphrase' := hboth.1.kind_eq.trans hphrase
      have hbelow := hboth.1.children (by simp [hphrase]) (by simp [hphrase]) (by simp [hphrase])
      rw [hsome, hsome']
      simp only [Option.bind_eq_bind, Option.bind_some]
      rcases namedChildren_of_kept hbelow with ⟨hnone, hnone'⟩ | ⟨a, a', hsome, hsome', hkept⟩
      · rw [namedChildren, namedChildren, hnone, hnone']
        exact .inl ⟨rfl, rfl⟩
      · rw [namedChildren, namedChildren, hsome, hsome']
        dsimp only
        rw [hkept.1.kind_eq]
        by_cases hstring : a.kind = .string
        · rw [if_pos hstring, if_pos hstring]
          refine .inr ⟨a, a', rfl, rfl, stringValue_congr (hkept.1.string_text hkept.2 hstring) ?_⟩
          simp [hphrase, hphrase']
        · rw [if_neg hstring, if_neg hstring]
          exact .inl ⟨rfl, rfl⟩

/-- A call that comes again can be read. -/
theorem Reread.legible (hm : w.Made root) (h : w.Reread root v v') :
    Legible w.options.markers w.new v'.tree := by
  intro a' ha'
  rcases h.literalArgument?_cases hm w.options.markers.functionName with
    ⟨-, hnone⟩ | ⟨a, a₁, hsome, hsome', hvalue⟩
  · rw [ha'] at hnone
    cases hnone
  · obtain rfl : a' = a₁ := Option.some.inj (ha'.symm.trans hsome')
    rw [hvalue]
    exact hm.legible v h.mem a hsome

/-- A spot that was replaced was asked for by its own visit. -/
theorem Made.exists_asked_of_spot (hm : w.Made root) (hv : v ∈ root.visits) {s : Span} {key : Text}
    (hs : s ∈ spots w.source v) (hmem : (s, key) ∈ w.calls) :
    ∃ r ∈ asked w.options w.source v, r.span = s := by
  obtain ⟨u, hu, r, hr, hspan⟩ := hm.exists_asked hmem
  dsimp only at hspan
  by_cases heq : u = v
  · exact ⟨r, heq ▸ hr, hspan⟩
  · exfalso
    have hapart := (List.pairwise_flatMap.1 (spots_apart_tree hm.placed hm.grammatical)).2
    have hsymm : Std.Symm fun a b : Visit =>
        ∀ x ∈ spots w.source a, ∀ y ∈ spots w.source b, x.Apart y :=
      ⟨fun a b hab x hx y hy => (hab y hy x hx).symm⟩
    have hspot := (asked_span_sublist u).subset (List.mem_map_of_mem hr)
    rw [hspan] at hspot
    have hself := hapart.forall hu hv heq s hspot s hs
    have hpos := hm.span_pos hmem
    rcases hself with hself | hself
    · dsimp only at hpos
      omega
    · dsimp only at hpos
      omega

/-- The content of an element in which no text was replaced: all of it is text, and shows the same
bytes, or it is not, before and after. -/
theorem Beside.texts {cs cs' : List Tree} (h : w.Beside w.Again .element cs cs')
    (hno : ∀ run ∈ textRunsOf cs, ∀ s, trimmedSpan? w.source run = some s → ∀ key,
      (s, key) ∉ w.calls) :
    cs = [] ∧ cs' = [] ∨
    (cs.all isMarkupText = true ∧ cs'.all isMarkupText = true ∧ ∃ s s', runSpan? cs = some s ∧
      runSpan? cs' = some s' ∧ w.SameBytes s s') ∨
    cs.all isMarkupText = false ∧ cs'.all isMarkupText = false := by
  cases h with
  | nil => exact .inl ⟨rfl, rfl⟩
  | @child _ c c' _ _ hchild _ hplain _ =>
    have hc := (hplain rfl).1
    have hc' : isMarkupText c' = false := by rwa [isMarkupText, hchild.kind_eq]
    exact .inr (.inr ⟨by simp [hc], by simp [hc']⟩)
  | @keptRun run run' cs cs' s s' htexts hspan hspan' huntouched hbytes hnext hrest =>
    obtain ⟨htext, htext'⟩ := isMarkupText_of_keptTexts htexts
    cases hrest with
    | nil =>
      refine .inr (.inl ⟨?_, ?_, s, s', ?_, ?_, hbytes⟩)
      · simpa using htext
      · simpa using htext'
      · rwa [List.append_nil]
      · rwa [List.append_nil]
    | @child _ c c' _ _ hchild _ hplain _ =>
      have hc := (hplain rfl).1
      have hc' : isMarkupText c' = false := by rwa [isMarkupText, hchild.kind_eq]
      exact .inr (.inr ⟨by simp [hc], by simp [hc']⟩)
    | @keptRun run₁ _ _ _ _ _ htexts₁ hspan₁ =>
      cases htexts₁ with
      | nil => cases hspan₁
      | @cons t _ _ _ ht _ =>
        have hfalse := hnext t rfl
        rw [(isMarkupText_of_keptText ht).1] at hfalse
        cases hfalse
    | @replacedRun run₁ _ _ _ _ _ _ _ htexts₁ hspan₁ =>
      cases run₁ with
      | nil => cases hspan₁
      | cons t _ =>
        have hfalse := hnext t rfl
        rw [(htexts₁ t List.mem_cons_self).1] at hfalse
        cases hfalse
  | @replacedRun run _ _ _ _ _ s key htexts hspan hmem _ _ _ hnext _ =>
    obtain ⟨whole, hwhole, -⟩ := runSpan?_of_trimmedSpan? hspan
    refine absurd hmem (hno run ?_ s hspan key)
    rw [textRunsOf_append (ne_nil_of_runSpan? hwhole) (fun t ht => (htexts t ht).1) hnext]
    exact List.mem_cons_self

/-- An element that comes again marks the same key. -/
theorem Reread.fromElement_key_eq (hm : w.Made root) (h : w.Reread root v v')
    (hkind : v.tree.kind = .element) :
    (fromElement w.options.markers w.new [] v'.tree).map (·.key) =
      (fromElement w.options.markers w.source [] v.tree).map (·.key) := by
  unfold fromElement
  rw [h.elementName?_eq hm hkind]
  by_cases hname : elementName? w.source v.tree = some w.options.markers.componentName
  · have hasked : asked w.options w.source v = [] := by
      refine asked_of_ok ?_
      simp only [replacements, hkind, elementReplacements, hname, decide_true, Bool.true_or,
        if_true]
    -- The texts of the component are never replaced.
    have hno : ∀ run ∈ textRunsOf (elementContent v.tree), ∀ s,
        trimmedSpan? w.source run = some s → ∀ key, (s, key) ∉ w.calls := by
      intro run hrun s hs key hmem
      have hspot : s ∈ spots w.source v := by
        rw [spots, hm.readable v h.mem, hkind, if_neg Bool.false_ne_true]
        exact List.mem_filterMap.2 ⟨run, hrun, hs⟩
      obtain ⟨r, hr, -⟩ := hm.exists_asked_of_spot h.mem hspot hmem
      rw [hasked] at hr
      cases hr
    rcases (h.again.content hkind).texts hno with
      ⟨hnil, hnil'⟩ | ⟨hall, hall', s, s', hspan, hspan', hsame⟩ | ⟨hall, hall'⟩
    · rw [hnil, hnil']
      rfl
    · simp only [hname, hall, hall', decide_true, Bool.and_self, if_true, hspan, hspan',
        Option.bind_some, hsame.bytes]
      rw [apply_ite (Option.map _), apply_ite (Option.map _)]
      rfl
    · simp only [hall, hall', Bool.and_false, Bool.false_eq_true, if_false]
  · simp only [hname, decide_false, Bool.false_and, Bool.false_eq_true, if_false]

/-- A node that comes again marks the same key. -/
theorem Reread.keyOf_eq (hm : w.Made root) (h : w.Reread root v v') :
    keyOf w.options.markers w.new v'.tree = keyOf w.options.markers w.source v.tree := by
  unfold keyOf
  rw [h.again.kind_eq]
  split
  next =>
    rcases h.literalArgument?_cases hm w.options.markers.functionName with
      ⟨hnone, hnone'⟩ | ⟨a, a', hsome, hsome', hvalue⟩
    · rw [hnone, hnone']
      rfl
    · rw [hsome, hsome', Option.bind_some, Option.bind_some, hvalue]
  next hkind => exact h.fromElement_key_eq hm hkind
  next => rfl

end Rewrite

end Localization.Extraction
