import Mathlib.Algebra.Order.Group.Multiset
import Mathlib.Data.List.Basic
import Mathlib.Data.List.Forall2
import Mathlib.Data.Multiset.Basic
import Mathlib.Tactic.Abel
import Localization.Extraction.Wrap
import Localization.Proofs.Escape
import Localization.Proofs.Extraction.Kept
import Localization.Proofs.Extraction.ReadBack
import Localization.Proofs.Extraction.Replacements
import Localization.Proofs.Extraction.Spots
import Localization.Proofs.Syntax.Visits

/-!
# What a file marks when it is read again

Of each part of the new tree it is said whether its nodes ask for anything and which keys they mark
(`Fresh`). A call that was put in marks its key; blanks beside it, and the statement that binds the
function, mark nothing. For a part of the old tree those keys are due that are marked in it and
those of the calls that were put in at its spots (`due`). A node that comes again marks what is due
for it, by induction on the node (`fresh_of_reread`): one case for each way a node is read back,
given that its children mark what is due for them. So does the whole file (`ReadBack.fresh`).
-/

namespace Localization.Extraction

open Syntax Syntax.Tree

/-! ## Keys of a walk -/

/-- The keys that the nodes of a walk mark. -/
def keysIn (m : Markers) (source : Source) (vs : List Visit) : Multiset Text :=
  (vs.filterMap fun v => keyOf m source v.tree : List Text)

section
variable {m : Markers} {source : Source}

/-- The keys that two walks mark, one after the other, are those of both. -/
theorem keysIn_append (vs us : List Visit) :
    keysIn m source (vs ++ us) = keysIn m source vs + keysIn m source us := by
  rw [keysIn, List.filterMap_append, ← Multiset.coe_add]
  rfl

/-- The keys that a walk marks are its first node's and those of the rest. -/
theorem keysIn_cons (v : Visit) (vs : List Visit) : keysIn m source (v :: vs) =
    ((keyOf m source v.tree).toList : Multiset Text) + keysIn m source vs := by
  rw [← List.singleton_append, keysIn_append, keysIn, List.filterMap_cons]
  cases keyOf m source v.tree with
  | none => rfl
  | some key => rfl

/-- A leaf marks no key. -/
theorem keyOf_leaf (k : Kind) (r : Option Role) (s : Span) :
    keyOf m source (.node k r s []) = none := by
  unfold keyOf
  split
  · simp [literalArgument?, isCallOf, callee?, child?, children]
  · simp [fromElement, elementName?, child?, children]
  · rfl

/-- A node without children has no call to read. -/
theorem legible_leaf (k : Kind) (r : Option Role) (s : Span) :
    Legible m source (.node k r s []) := by
  intro a ha
  simp [literalArgument?, isCallOf, callee?, child?, children] at ha

/-- Only calls and elements mark a key. -/
theorem keyOf_of_kind {t : Tree} (hcall : t.kind ≠ .call) (helement : t.kind ≠ .element) :
    keyOf m source t = none := by
  unfold keyOf
  split
  · exact absurd ‹_› hcall
  · exact absurd ‹_› helement
  · rfl

/-- For a leaf nothing is asked, unless it is a string in braces. -/
theorem replacements_leaf {o : WrapOptions} {k : Kind} {r : Option Role} {s : Span} {p : Tree}
    {ancestors : List Tree} (h : k ≠ .string ∨ p.kind ≠ .container) :
    replacements o source ⟨.node k r s [], p :: ancestors⟩ = .ok [] := by
  unfold replacements
  split
  · simp [elementReplacements, textRuns, elementContent, children, textRunsOf]
  · rfl
  next hkind =>
    rcases h with h | h
    · exact absurd hkind h
    · unfold stringReplacements
      split
      next container element rest hancestors =>
        obtain ⟨rfl, rfl⟩ := List.cons.inj hancestors
        simp [h]
      next => rfl
  · rfl

/-- A string that does not stand in braces is not asked for. -/
theorem replacements_string {o : WrapOptions} {t p : Tree} {ancestors : List Tree}
    (hkind : t.kind = .string) (hparent : p.kind ≠ .container) :
    replacements o source ⟨t, p :: ancestors⟩ = .ok [] := by
  simp only [replacements, hkind, stringReplacements]
  split
  next container element rest hancestors =>
    obtain ⟨rfl, rfl⟩ := List.cons.inj hancestors
    simp [hparent]
  next => rfl

end

namespace Rewrite

/-! ## Parts of the new tree -/

/-- The function is not the one that loads modules. -/
def Ordinary (w : Rewrite) : Prop := w.functionName ≠ "require"

/-- The nodes on a part of a walk over the new tree ask for nothing. If the function is not the one
that loads modules, they can all be read and they mark the given keys. -/
structure Fresh (w : Rewrite) (keys : Multiset Text) (vs : List Visit) : Prop where
  idle : ∀ v ∈ vs, replacements w.options w.new v = .ok []
  legible : w.Ordinary → ∀ v ∈ vs, Legible w.options.markers w.new v.tree
  keys_eq : w.Ordinary → keysIn w.options.markers w.new vs = keys

variable {w : Rewrite} {keys keys' : Multiset Text}

namespace Fresh

/-- A walk over nothing is fresh. -/
theorem nil : w.Fresh 0 [] := ⟨nofun, nofun, fun _ => rfl⟩

/-- Two fresh walks, one after the other, are fresh. -/
theorem append {vs us : List Visit} (h : w.Fresh keys vs) (h' : w.Fresh keys' us) :
    w.Fresh (keys + keys') (vs ++ us) where
  idle := List.forall_mem_append.2 ⟨h.idle, h'.idle⟩
  legible ho := List.forall_mem_append.2 ⟨h.legible ho, h'.legible ho⟩
  keys_eq ho := by rw [keysIn_append, h.keys_eq ho, h'.keys_eq ho]

/-- Only in ordinary use do the keys of a fresh walk matter. -/
theorem congr {vs : List Visit} (h : w.Fresh keys vs) (heq : w.Ordinary → keys = keys') :
    w.Fresh keys' vs :=
  ⟨h.idle, h.legible, fun ho => (h.keys_eq ho).trans (heq ho)⟩

/-- A node, and all that is below it. -/
theorem node {t : Tree} {ancestors : List Tree}
    (hidle : replacements w.options w.new ⟨t, ancestors⟩ = .ok [])
    (hlegible : w.Ordinary → Legible w.options.markers w.new t)
    (h : w.Fresh keys (t.children.flatMap (visitsUnder (t :: ancestors)))) :
    w.Fresh (((keyOf w.options.markers w.new t).toList : Multiset Text) + keys)
      (visitsUnder ancestors t) := by
  rw [visitsUnder_eq]
  refine ⟨List.forall_mem_cons.2 ⟨hidle, h.idle⟩,
    fun ho => List.forall_mem_cons.2 ⟨hlegible ho, h.legible ho⟩, fun ho => ?_⟩
  rw [keysIn_cons, h.keys_eq ho]

/-- A node that marks no key, and all that is below it. -/
theorem node_of_none {t : Tree} {ancestors : List Tree}
    (hidle : replacements w.options w.new ⟨t, ancestors⟩ = .ok [])
    (hlegible : w.Ordinary → Legible w.options.markers w.new t)
    (hkey : w.Ordinary → keyOf w.options.markers w.new t = none)
    (h : w.Fresh keys (t.children.flatMap (visitsUnder (t :: ancestors)))) :
    w.Fresh keys (visitsUnder ancestors t) := by
  refine (node hidle hlegible h).congr fun ho => ?_
  rw [hkey ho]
  exact zero_add keys

/-- A node without children is fresh unless it is a string in a container. -/
theorem leaf {k : Kind} {r : Option Role} {s : Span} {p : Tree} {ancestors : List Tree}
    (h : k ≠ .string ∨ p.kind ≠ .container) :
    w.Fresh 0 (visitsUnder (p :: ancestors) (.node k r s [])) :=
  node_of_none (replacements_leaf h) (fun _ => legible_leaf k r s) (fun _ => keyOf_leaf k r s) nil

/-- Nodes that mark no keys, one after another. -/
theorem silent {ts : List Tree} {ancestors : List Tree}
    (h : ∀ t ∈ ts, w.Fresh 0 (visitsUnder ancestors t)) :
    w.Fresh 0 (ts.flatMap (visitsUnder ancestors)) := by
  induction ts with
  | nil => exact nil
  | cons t ts ih =>
    rw [List.forall_mem_cons] at h
    exact h.1.append (ih h.2)

/-- A token is fresh. -/
theorem token {s : Span} {p : Tree} {ancestors : List Tree} :
    w.Fresh 0 (visitsUnder (p :: ancestors) (.node .token none s [])) :=
  leaf (.inl (by decide))

/-- A node of a kind that nothing is asked of. -/
theorem plain {k : Kind} {r : Option Role} {s : Span} {cs ancestors : List Tree}
    (hkind : k ≠ .call ∧ k ≠ .element ∧ k ≠ .markupAttribute ∧ k ≠ .string)
    (h : w.Fresh keys (cs.flatMap (visitsUnder (.node k r s cs :: ancestors)))) :
    w.Fresh keys (visitsUnder ancestors (.node k r s cs)) := by
  refine node_of_none ?_ (fun _ => legible_of_kind hkind.1)
    (fun _ => keyOf_of_kind hkind.1 hkind.2.1) h
  unfold replacements
  split
  · exact absurd ‹_› hkind.2.1
  · exact absurd ‹_› hkind.2.2.1
  · exact absurd ‹_› hkind.2.2.2
  · rfl

/-- A string that does not stand in braces, with its pieces. -/
theorem string {s : Span} {pieces : List Tree} {p : Tree} {ancestors : List Tree}
    (hparent : p.kind ≠ .container) (hpieces : ∀ c ∈ pieces, c.children = []) :
    w.Fresh 0 (visitsUnder (p :: ancestors) (.node .string none s pieces)) := by
  have hcall : Kind.string ≠ .call := by decide
  have helement : Kind.string ≠ .element := by decide
  have hcontainer : Kind.string ≠ .container := by decide
  refine node_of_none (replacements_string (t := .node .string none s pieces) rfl hparent)
    (fun _ => legible_of_kind hcall) (fun _ => keyOf_of_kind hcall helement)
    (silent fun c hc => ?_)
  obtain ⟨k, r, s, cs⟩ := c
  obtain rfl : cs = [] := hpieces _ hc
  exact leaf (.inr hcontainer)

end Fresh

/-! ## What was put in -/

/-- The function that calls name is the one that markers are read by. -/
theorem functionName_eq : w.functionName = w.options.markers.functionName := rfl

section
variable {s f a l m r : Span} {pieces : List Tree}

/-- The function that a call calls. -/
theorem isCallOf_callTree (source : Source) (name : Text) :
    isCallOf source name (callTree s f a l m r pieces) =
      decide ((Syntax.Tree.node .identifier (some .function) f []).text source = name) := by
  simp [isCallOf, callTree, callee?, child?, children, role, kind]

/-- The call that is put in has its literal as argument when its function has the name. -/
theorem literalArgument?_callTree (source : Source) (name : Text) :
    literalArgument? source name (callTree s f a l m r pieces) =
      if (Syntax.Tree.node .identifier (some .function) f []).text source = name then
        some (.node .string none m pieces)
      else none := by
  rw [literalArgument?, isCallOf_callTree]
  simp [firstArgument?, callTree, child?, namedChildren, children, role, kind, Kind.isNamed]

/-- A call with a string marks the key that it can be read to mark, and nothing below it does. -/
theorem fresh_callTree
    (hlegible : w.Ordinary → Legible w.options.markers w.new (callTree s f a l m r pieces))
    (hpieces : ∀ c ∈ pieces, c.children = []) (ancestors : List Tree) :
    w.Fresh (keyOf w.options.markers w.new (callTree s f a l m r pieces)).toList
      (visitsUnder ancestors (callTree s f a l m r pieces)) := by
  rw [← add_zero (Multiset.ofList _)]
  refine .node rfl hlegible (.silent ?_)
  simp only [callTree, children, List.forall_mem_cons, List.not_mem_nil, false_imp_iff,
    implies_true, and_true]
  refine ⟨.leaf (.inl (by decide)), .plain (by decide) (.silent ?_)⟩
  simp only [List.forall_mem_cons, List.not_mem_nil, false_imp_iff, implies_true, and_true]
  exact ⟨.token, .string (by simp [kind]) hpieces, .token⟩

end

/-- The call that was put in marks its key. -/
theorem IsCall.fresh {key : Text} {c : Tree} (h : w.IsCall key c) (ancestors : List Tree) :
    w.Fresh {key} (visitsUnder ancestors c) := by
  cases h with
  | @call s f a l m r pieces hname hkey hpieces =>
    have hargument : literalArgument? w.new w.options.markers.functionName
        (callTree s f a l m r pieces) = some (.node .string none m pieces) := by
      rw [literalArgument?_callTree, ← functionName_eq, if_pos hname]
    have hbody : unquoted (Escape.literal key) = Escape.body key := by
      rw [Escape.literal_eq, unquoted, List.drop_one, List.tail_cons, List.dropLast_concat]
    have hvalue : stringValue w.new ((callTree s f a l m r pieces).child? .arguments)
        (.node .string none m pieces) = .ok key := by
      rw [stringValue, hkey, hbody]
      exact Escape.resolve_body key
    have hkeyOf : keyOf w.options.markers w.new (callTree s f a l m r pieces) = some key := by
      change (literalArgument? _ _ _).bind _ = _
      rw [hargument, Option.bind_some, hvalue]
      rfl
    have hlegible : w.Ordinary → Legible w.options.markers w.new (callTree s f a l m r pieces) := by
      intro _ c hc
      rw [hargument] at hc
      cases hc
      exact ⟨key, hvalue⟩
    have hfresh := fresh_callTree hlegible hpieces ancestors
    rwa [hkeyOf] at hfresh

/-- So does the call in braces. -/
theorem IsContainer.fresh {key : Text} {c : Tree} (h : w.IsContainer key c)
    (ancestors : List Tree) : w.Fresh {key} (visitsUnder ancestors c) := by
  cases h with
  | @container s l r c hcall =>
    refine .plain (by decide) ?_
    have hsum : ({key} : Multiset Text) = 0 + ({key} + (0 + 0)) := by
      rw [add_zero, add_zero, zero_add]
    rw [hsum]
    exact Fresh.token.append ((hcall.fresh _).append (Fresh.token.append .nil))

/-- Blanks mark nothing. -/
theorem Blank.fresh {ts : List Tree} (h : w.Blank ts) (p : Tree) (ancestors : List Tree) :
    w.Fresh 0 (ts.flatMap (visitsUnder (p :: ancestors))) := by
  refine .silent fun t ht => ?_
  obtain ⟨s, rfl⟩ := h.leaf t ht
  exact .leaf (.inl (by decide))

/-- Nor do texts that were kept. -/
theorem fresh_keptTexts {ts ts' : List Tree} (h : List.Forall₂ KeptText ts ts') (p : Tree)
    (ancestors : List Tree) : w.Fresh 0 (ts'.flatMap (visitsUnder (p :: ancestors))) := by
  induction h with
  | nil => exact .nil
  | cons ht _ ih =>
    obtain ⟨k, s, s', rfl, rfl, htext⟩ := ht
    have hleaf : w.Fresh 0 (visitsUnder (p :: ancestors) (.node k none s' [])) := by
      refine .leaf (.inl ?_)
      rintro rfl
      cases htext
    exact hleaf.append ih

/-! ## What is due -/

/-- The keys of the calls that were put in at some spans. -/
def callsAt (w : Rewrite) (spans : List Span) : Multiset Text :=
  (spans.filterMap fun s => w.calls.lookup s : List Text)

/-- The keys that are due for a part of the old tree: those that are marked in it, and those of the
calls that were put in at its spots. -/
def due (w : Rewrite) (vs : List Visit) : Multiset Text :=
  keysIn w.options.markers w.source vs + w.callsAt (vs.flatMap (spots w.source))

/-- The keys of the calls at two lists of spans are those at the one and those at the other. -/
theorem callsAt_append (a b : List Span) : w.callsAt (a ++ b) = w.callsAt a + w.callsAt b := by
  rw [callsAt, List.filterMap_append, ← Multiset.coe_add]
  rfl

/-- The keys due for two walks are those due for the one and those due for the other. -/
theorem due_append (vs us : List Visit) : w.due (vs ++ us) = w.due vs + w.due us := by
  rw [due, due, due, keysIn_append, List.flatMap_append, callsAt_append]
  abel

/-- The keys due for a walk are its first node's own, those of the calls at its spots, and those due
for the rest. -/
theorem due_cons (v : Visit) (vs : List Visit) : w.due (v :: vs) =
    ((keyOf w.options.markers w.source v.tree).toList : Multiset Text) +
      w.callsAt (spots w.source v) + w.due vs := by
  rw [due, due, keysIn_cons, List.flatMap_cons, callsAt_append]
  abel

/-- Nothing is due for nodes that mark nothing and have no spots. -/
theorem due_eq_zero {vs : List Visit}
    (h : ∀ v ∈ vs, keyOf w.options.markers w.source v.tree = none ∧ spots w.source v = []) :
    w.due vs = 0 := by
  induction vs with
  | nil => rfl
  | cons v vs ih =>
    rw [List.forall_mem_cons] at h
    rw [due_cons, h.1.1, h.1.2, ih h.2]
    rfl

variable {root : Tree} {v : Visit}

/-- No two calls are put in at one span. -/
theorem Made.nodup_calls (hm : w.Made root) : (w.calls.map Prod.fst).Nodup := by
  rw [hm.calls]
  refine List.pairwise_map.2 ((asked_apart hm.placed hm.grammatical).imp_of_mem ?_)
  intro r r' hr hr' hapart heq
  obtain ⟨v, -, hr⟩ := List.mem_flatMap.1 hr
  have hpos := asked_span_pos hr
  rw [← heq] at hapart
  rcases hapart with hapart | hapart
  · omega
  · omega

/-- The call at a span that was replaced. -/
theorem Made.callsAt_singleton (hm : w.Made root) {s : Span} {key : Text}
    (hmem : (s, key) ∈ w.calls) : w.callsAt [s] = {key} := by
  have hlookup : w.calls.lookup s = some key := by
    obtain ⟨front, back, hsplit⟩ := List.append_of_mem hmem
    refine List.lookup_eq_some_iff.2 ⟨front, back, hsplit, fun p hp => ?_⟩
    have hnodup := hm.nodup_calls
    rw [hsplit, List.map_append, List.nodup_append] at hnodup
    have hne := hnodup.2.2 p.1 (List.mem_map_of_mem hp) s (by simp)
    simpa using hne.symm
  have hlist : [s].filterMap (fun s => w.calls.lookup s) = [key] := by simp [hlookup]
  rw [callsAt, hlist]
  rfl

/-- No call was put in where nothing was touched. -/
theorem Made.callsAt_of_untouched (hm : w.Made root) {spans : List Span}
    (h : ∀ s ∈ spans, w.Untouched s) : w.callsAt spans = 0 := by
  have hnone : spans.filterMap (fun s => w.calls.lookup s) = [] := by
    refine List.filterMap_eq_nil_iff.2 fun s hs => List.lookup_eq_none_iff.2 fun c hc => ?_
    have hpos := hm.span_pos hc
    have hapart := h s hs c hc
    simp only [bne_iff_ne, ne_eq]
    rintro rfl
    rcases hapart with hapart | hapart
    · omega
    · omega
  rw [callsAt, hnone]
  rfl

/-- Below a literal nothing is marked and nothing is replaced. -/
theorem Made.due_literal (hm : w.Made root) (hv : v ∈ root.visits)
    (hliteral : isLiteral v.tree = true) :
    w.due (visitsUnder v.ancestors v.tree) = w.callsAt (spots w.source v) := by
  have hbelow : w.due (v.tree.children.flatMap (visitsUnder (v.tree :: v.ancestors))) = 0 := by
    refine due_eq_zero fun u hu => ?_
    obtain ⟨c, hc, hu⟩ := List.mem_flatMap.1 hu
    have hleaf := (hm.regular v hv).pieces hliteral c hc
    obtain rfl : u = ⟨c, v.tree :: v.ancestors⟩ := by
      rw [visitsUnder_eq, hleaf] at hu
      exact List.mem_singleton.1 hu
    have hmem := child_mem_visitsUnder hv hc
    refine ⟨?_, spots_eq_nil_of_literal (hm.grammatical _ hmem) List.mem_cons_self hliteral⟩
    obtain ⟨k, r, s, cs⟩ := c
    obtain rfl : cs = [] := hleaf
    exact keyOf_leaf k r s
  have hkey : keyOf w.options.markers w.source v.tree = none := by
    refine keyOf_of_kind (fun hkind => ?_) fun hkind => ?_
    · simp [isLiteral, isMarkupText, hkind] at hliteral
    · simp [isLiteral, isMarkupText, hkind] at hliteral
  rw [visitsUnder_eq, due_cons, hkey, hbelow, add_zero]
  exact zero_add _

/-- For texts nothing is due. -/
theorem Made.due_text (hm : w.Made root) (hv : v ∈ root.visits)
    (htext : isMarkupText v.tree = true) : w.due (visitsUnder v.ancestors v.tree) = 0 := by
  rw [hm.due_literal hv (by simp [isLiteral, htext])]
  have hspots : spots w.source v = [] := by
    rw [List.eq_nil_iff_forall_not_mem]
    intro s hs
    rcases (spots_cases hs).2 with ⟨hkind, -⟩ | ⟨hkind, -⟩ | ⟨hkind, -⟩
    · simp [isMarkupText, hkind] at htext
    · simp [isMarkupText, hkind] at htext
    · simp [isMarkupText, hkind] at htext
  rw [hspots]
  rfl

/-! ## Neighbours -/

/-- The spots of an element in a list of its content. -/
def ownSpots (w : Rewrite) (k : Kind) (cs : List Tree) : List Span :=
  if k = .element then (textRunsOf cs).filterMap (trimmedSpan? w.source) else []

/-- A child that is no markup text has no part in its element's runs. -/
theorem ownSpots_cons {k : Kind} {c : Tree} {cs : List Tree}
    (h : k = .element → isMarkupText c = false) : w.ownSpots k (c :: cs) = w.ownSpots k cs := by
  unfold ownSpots
  split
  next hk => rw [textRunsOf_cons_of_not (h hk)]
  next => rfl

/-- A whole run of markup text has one spot, its trimmed span. -/
theorem ownSpots_append {run cs : List Tree} (hne : run ≠ [])
    (htexts : ∀ t ∈ run, isMarkupText t = true) (hnext : ∀ t ∈ cs.head?, isMarkupText t = false) :
    w.ownSpots .element (run ++ cs) =
      (trimmedSpan? w.source run).toList ++ w.ownSpots .element cs := by
  rw [ownSpots, if_pos rfl, textRunsOf_append hne htexts hnext, List.filterMap_cons, ownSpots,
    if_pos rfl]
  cases trimmedSpan? w.source run with
  | none => rfl
  | some s => rfl

/-- For a run of texts nothing is due but what is due for their element. -/
theorem Made.due_run (hm : w.Made root) (hv : v ∈ root.visits) {run : List Tree}
    (hrun : ∀ t ∈ run, t ∈ v.tree.children) (htexts : ∀ t ∈ run, isMarkupText t = true) :
    w.due (run.flatMap (visitsUnder (v.tree :: v.ancestors))) = 0 := by
  induction run with
  | nil => rfl
  | cons t run ih =>
    rw [List.forall_mem_cons] at hrun htexts
    rw [List.flatMap_cons, due_append, ih hrun.2 htexts.2,
      hm.due_text (child_mem_visitsUnder hv hrun.1) htexts.1, add_zero]

/-- Neighbours that are read back mark what is due for them and for the element around them, if the
children that are kept do. -/
theorem Beside.fresh (hm : w.Made root) (hv : v ∈ root.visits) {k : Kind} {cs cs' : List Tree}
    (h : w.Beside w.Again k cs cs') (hk : k = v.tree.kind) (hcs : ∀ c ∈ cs, c ∈ v.tree.children)
    {p : Tree} {ancestors : List Tree}
    (ih : ∀ c ∈ v.tree.children, ∀ c', w.Kept c c' →
      w.Fresh (w.due (visitsUnder (v.tree :: v.ancestors) c)) (visitsUnder (p :: ancestors) c')) :
    w.Fresh (w.due (cs.flatMap (visitsUnder (v.tree :: v.ancestors))) + w.callsAt (w.ownSpots k cs))
      (cs'.flatMap (visitsUnder (p :: ancestors))) := by
  induction h with
  | nil =>
    have hown : w.callsAt (w.ownSpots v.tree.kind []) = 0 := by
      unfold ownSpots
      split
      · rfl
      · rfl
    rw [hk, hown]
    exact .nil
  | @child k c c' cs cs' hchild hliteral hplain hrest ihrest =>
    rw [List.forall_mem_cons] at hcs
    rw [List.flatMap_cons, List.flatMap_cons, due_append,
      ownSpots_cons fun helement => (hplain helement).1, add_assoc]
    exact (ih c hcs.1 c' ⟨hchild, hliteral⟩).append (ihrest hk hcs.2)
  | @string c c' cs cs' key hkind hmem hcall hrest ihrest =>
    rw [List.forall_mem_cons] at hcs
    have hc := child_mem_visitsUnder hv hcs.1
    have hspots : spots w.source ⟨c, v.tree :: v.ancestors⟩ = [c.span] := by
      simp [spots, hm.readable _ hc, hkind, Visit.parent?, ← hk]
    have hdue := hm.due_literal hc (by simp [isLiteral, hkind])
    dsimp only at hdue
    rw [hspots, hm.callsAt_singleton hmem] at hdue
    have hown : w.ownSpots .container (c :: cs) = w.ownSpots .container cs := rfl
    rw [List.flatMap_cons, List.flatMap_cons, due_append, hdue, hown, add_assoc]
    exact (hcall.fresh _).append (ihrest hk hcs.2)
  | @keptRun run run' cs cs' s s' htexts hspan hspan' huntouched hbytes hnext hrest ihrest =>
    obtain ⟨hrun, hcs⟩ := List.forall_mem_append.1 hcs
    have htext := (isMarkupText_of_keptTexts htexts).1
    have hown : w.callsAt (trimmedSpan? w.source run).toList = 0 := by
      refine hm.callsAt_of_untouched fun t ht => ?_
      obtain ⟨whole, hwhole, hstart, -, hstop⟩ :=
        runSpan?_of_trimmedSpan? (Option.mem_toList.1 ht)
      obtain rfl : whole = s := Option.some.inj (hwhole.symm.trans hspan)
      exact fun c hc => apart_of_inside (huntouched c hc) hstart hstop
    have hfresh := fresh_keptTexts (w := w) htexts p ancestors
    rw [List.flatMap_append, List.flatMap_append, due_append, hm.due_run hv hrun htext,
      ownSpots_append (ne_nil_of_runSpan? hspan) htext hnext, callsAt_append, hown, zero_add,
      zero_add]
    have hall := hfresh.append (ihrest hk hcs)
    rwa [zero_add] at hall
  | @replacedRun run front back cs cs' c s key htexts hspan hmem hfront hcontainer hback hnext hrest
      ihrest =>
    obtain ⟨hrun, hcs⟩ := List.forall_mem_append.1 hcs
    have htext := fun t ht => (htexts t ht).1
    obtain ⟨whole, hwhole, -⟩ := runSpan?_of_trimmedSpan? hspan
    rw [List.flatMap_append, List.flatMap_append, List.flatMap_cons, List.flatMap_append,
      due_append, hm.due_run hv hrun htext, ownSpots_append (ne_nil_of_runSpan? hwhole) htext hnext,
      callsAt_append, hspan, Option.toList_some, hm.callsAt_singleton hmem]
    have hall := (hfront.fresh p ancestors).append ((hcontainer.fresh (p :: ancestors)).append
      ((hback.fresh p ancestors).append (ihrest hk hcs)))
    refine hall.congr fun _ => ?_
    abel

/-! ## Nodes -/

/-- What is read back of the children of a node, given what is read back of each. -/
def Below (w : Rewrite) (v v' : Visit) : Prop :=
  ∀ c ∈ v.tree.children, ∀ c', w.Kept c c' →
    w.Fresh (w.due (visitsUnder (v.tree :: v.ancestors) c))
      (visitsUnder (v'.tree :: v'.ancestors) c')

variable {r : Option Role} {s s' : Span} {cs cs' ancestors ancestors' : List Tree}

/-- No call was put in at a node whose children are all kept. -/
theorem Made.callsAt_spots (hm : w.Made root) {k : Kind} (hkind : k ≠ .element)
    (hv : ⟨.node k r s cs, ancestors⟩ ∈ root.visits)
    (hliteral : isLiteral (.node k r s cs) = true → w.Untouched s)
    (hbelow : w.Beside w.Again k cs cs') :
    w.callsAt (spots w.source ⟨.node k r s cs, ancestors⟩) = 0 := by
  refine hm.callsAt_of_untouched fun span hspan => ?_
  rcases (spots_cases hspan).2 with
    ⟨helement, -⟩ | ⟨hattribute, value, hvalue, hstring, rfl⟩ | ⟨hstring, -, rfl⟩
  · exact absurd helement hkind
  · obtain rfl : k = .markupAttribute := hattribute
    have hkept : List.Forall₂ (flip w.Kept) cs' cs :=
      (hbelow.forall₂ (by decide) (by decide)).flip
    obtain ⟨value', -, hboth⟩ := exists_getLast?_of_forall₂ hkept hvalue
    exact hboth.2 (by simp [isLiteral, hstring])
  · exact hliteral (by simp [isLiteral, hstring])

/-- A node of another kind than an element is fresh in its new place when its children are. -/
theorem fresh_node (hm : w.Made root) {k : Kind} (hkind : k ≠ .element)
    (hv : ⟨.node k r s cs, ancestors⟩ ∈ root.visits)
    (hliteral : isLiteral (.node k r s cs) = true → w.Untouched s)
    (hbelow : w.Beside w.Again k cs cs')
    (ih : w.Below ⟨.node k r s cs, ancestors⟩ ⟨.node k r s' cs', ancestors'⟩) :
    w.Fresh (w.callsAt (spots w.source ⟨.node k r s cs, ancestors⟩) +
        w.due (cs.flatMap (visitsUnder (.node k r s cs :: ancestors))))
      (cs'.flatMap (visitsUnder (.node k r s' cs' :: ancestors'))) := by
  have hfresh := hbelow.fresh hm hv rfl (fun c hc => hc) ih
  have hown : w.ownSpots k cs = [] := if_neg hkind
  rw [hown] at hfresh
  refine hfresh.congr fun _ => ?_
  rw [hm.callsAt_spots hkind hv hliteral hbelow, zero_add]
  exact add_zero _

/-- The one spot of an attribute with a string value is that value. -/
theorem spots_attribute {source : Source} {v : Visit} {name : Text} {value : Tree}
    (hreadable : v.inError = false) (hkind : v.tree.kind = .markupAttribute)
    (hparts : attributeParts source v.tree = some (name, some value))
    (hstring : value.kind = .string) : spots source v = [value.span] := by
  simp [spots, hreadable, hkind, hparts, hstring]

/-- An attribute whose value became a container with a call is fresh, and marks that call's key. -/
theorem fresh_value (hm : w.Made root) {c c' : Tree} {key : Text}
    (hv : ⟨.node .markupAttribute r s (cs ++ [c]), ancestors⟩ ∈ root.visits)
    (hlength : 2 ≤ cs.length) (hkind : c.kind = .string) (hmem : (c.span, key) ∈ w.calls)
    (hcontainer : w.IsContainer key c') (hbelow : w.Beside w.Again .markupAttribute cs cs')
    (ih : w.Below ⟨.node .markupAttribute r s (cs ++ [c]), ancestors⟩
      ⟨.node .markupAttribute r s' (cs' ++ [c']), ancestors'⟩) :
    w.Fresh (w.callsAt (spots w.source ⟨.node .markupAttribute r s (cs ++ [c]), ancestors⟩) +
        w.due ((cs ++ [c]).flatMap
          (visitsUnder (.node .markupAttribute r s (cs ++ [c]) :: ancestors))))
      ((cs' ++ [c']).flatMap
        (visitsUnder (.node .markupAttribute r s' (cs' ++ [c']) :: ancestors'))) := by
  have hc : c ∈ (Syntax.Tree.node .markupAttribute r s (cs ++ [c])).children := List.mem_concat_self
  have hspots : spots w.source ⟨.node .markupAttribute r s (cs ++ [c]), ancestors⟩ = [c.span] := by
    cases cs with
    | nil => cases hlength
    | cons d ds =>
      have hparts : attributeParts w.source (.node .markupAttribute r s (d :: ds ++ [c])) =
          some (d.text w.source, some c) := by
        have hrest : 2 ≤ (ds ++ [c]).length := by simpa using hlength
        simp only [attributeParts, children, List.cons_append, if_pos hrest, List.getLast?_concat]
      exact spots_attribute (hm.readable _ hv) rfl hparts hkind
  have hdue : w.due (visitsUnder (.node .markupAttribute r s (cs ++ [c]) :: ancestors) c) = 0 := by
    have hmem' := child_mem_visitsUnder hv hc
    have hgoes : GoesWith (.node .markupAttribute r s (cs ++ [c])) c := .inr (.inl ⟨rfl, hkind⟩)
    refine (hm.due_literal hmem' (by simp [isLiteral, hkind])).trans ?_
    rw [spots_eq_nil_of_goesWith hgoes (self_mem_visitsUnder _ c) (hm.grammatical _ hmem')]
    rfl
  have hfront := hbelow.fresh hm hv rfl (fun d hd => List.mem_append_left _ hd) ih
  have hback := hcontainer.fresh (.node .markupAttribute r s' (cs' ++ [c']) :: ancestors')
  rw [hspots, hm.callsAt_singleton hmem, List.flatMap_append, List.flatMap_append, due_append,
    List.flatMap_singleton, List.flatMap_singleton, hdue]
  refine (hfront.append hback).congr fun _ => ?_
  have hown : w.callsAt (w.ownSpots .markupAttribute cs) = 0 := rfl
  rw [hown]
  dsimp only
  abel

/-- An element between its tags is fresh in its new place when its content is. -/
theorem fresh_element (hm : w.Made root) {first first' last last' : Tree}
    (hv : ⟨.node .element r s (first :: (cs ++ [last])), ancestors⟩ ∈ root.visits)
    (hfirst : w.Again first first') (hopen : first.kind = .openTag ∧ first.role = some .openTag)
    (hbelow : w.Beside w.Again .element cs cs') (hlast : w.Again last last')
    (hclose : last.kind = .closeTag ∧ last.role = some .closeTag)
    (ih : w.Below ⟨.node .element r s (first :: (cs ++ [last])), ancestors⟩
      ⟨.node .element r s' (first' :: (cs' ++ [last'])), ancestors'⟩) :
    w.Fresh (w.callsAt (spots w.source ⟨.node .element r s (first :: (cs ++ [last])), ancestors⟩) +
        w.due ((first :: (cs ++ [last])).flatMap
          (visitsUnder (.node .element r s (first :: (cs ++ [last])) :: ancestors))))
      ((first' :: (cs' ++ [last'])).flatMap
        (visitsUnder (.node .element r s' (first' :: (cs' ++ [last'])) :: ancestors'))) := by
  have hchildren : ∀ c ∈ first :: (cs ++ [last]),
      c ∈ (Syntax.Tree.node .element r s (first :: (cs ++ [last]))).children := fun c hc => hc
  have hspots : spots w.source ⟨.node .element r s (first :: (cs ++ [last])), ancestors⟩ =
      w.ownSpots .element cs := by
    rw [spots, hm.readable _ hv, if_neg Bool.false_ne_true]
    simp only [kind, textRuns]
    rw [elementContent_eq hopen.2 hclose.2 (hbelow.not_tag rfl).1]
    rfl
  have hstart := ih first (hchildren _ List.mem_cons_self) first'
    ⟨hfirst, by simp [isLiteral, isMarkupText, hopen.1]⟩
  have hstop := ih last (hchildren _ (by simp)) last'
    ⟨hlast, by simp [isLiteral, isMarkupText, hclose.1]⟩
  have hcontent := hbelow.fresh hm hv rfl (fun c hc => hchildren c (by simp [hc])) ih
  rw [hspots, List.flatMap_cons, List.flatMap_cons, List.flatMap_append, List.flatMap_append,
    due_append, due_append, List.flatMap_singleton, List.flatMap_singleton]
  refine (hstart.append (hcontent.append hstop)).congr fun _ => ?_
  dsimp only
  abel

/-- A node that comes again marks what is due for it, and all below it does. -/
theorem fresh_of_reread (hm : w.Made root) (t : Tree) {ancestors : List Tree} {v' : Visit}
    (h : w.Reread root ⟨t, ancestors⟩ v') :
    w.Fresh (w.due (visitsUnder ancestors t)) (visitsUnder v'.ancestors v'.tree) := by
  induction t using induct generalizing ancestors v' with
  | step t ih =>
    have hbelow : w.Below ⟨t, ancestors⟩ v' := fun c hc c' hkept =>
      ih c hc (reread_child hm h.mem h.clear h.literal (h.alike hm) hc hkept)
    obtain ⟨t', ancestors'⟩ := v'
    have hchildren : w.Fresh (w.callsAt (spots w.source ⟨t, ancestors⟩) +
        w.due (t.children.flatMap (visitsUnder (t :: ancestors))))
        (t'.children.flatMap (visitsUnder (t' :: ancestors'))) := by
      cases h.again with
      | node hkind _ hbeside => exact fresh_node hm hkind h.mem h.literal hbeside hbelow
      | value hlength hkind hmem hcontainer hbeside =>
        exact fresh_value hm h.mem hlength hkind hmem hcontainer hbeside hbelow
      | element hfirst hopen hbeside hlast hclose =>
        exact fresh_element hm h.mem hfirst hopen hbeside hlast hclose hbelow
    have hnode := Fresh.node (h.replacements_eq hm) (fun _ => h.legible hm) hchildren
    rw [h.keyOf_eq hm] at hnode
    rw [visitsUnder_eq, due_cons, add_assoc]
    exact hnode

/-! ## A whole file -/

/-- A statement that was put in marks nothing. -/
theorem IsBinding.fresh {statement : Tree} (h : w.IsBinding statement) (p : Tree)
    (ancestors : List Tree) : w.Fresh 0 (visitsUnder (p :: ancestors) statement) := by
  cases h with
  | importing hname hpieces =>
    refine .plain (by decide) (.silent ?_)
    simp only [List.forall_mem_cons, List.not_mem_nil, false_imp_iff, implies_true, and_true]
    refine ⟨.token, .plain (by decide) (.silent ?_), .token, .string (by simp [kind]) hpieces,
      .token⟩
    simp only [List.forall_mem_cons, List.not_mem_nil, false_imp_iff, implies_true, and_true]
    refine .plain (by decide) (.silent ?_)
    simp only [List.forall_mem_cons, List.not_mem_nil, false_imp_iff, implies_true, and_true]
    refine ⟨.token, .plain (by decide) (.silent ?_), .token⟩
    simp only [List.forall_mem_cons, List.not_mem_nil, false_imp_iff, implies_true, and_true]
    exact .leaf (.inl (by decide))
  | @requiring s a b c d e f g h i j k l m n pieces hname hrequire hpieces =>
    -- The call is one of the function only if the function is the one that loads modules.
    have hnone : w.Ordinary → literalArgument? w.new w.options.markers.functionName
        (callTree h i j k l m pieces) = none := by
      intro hordinary
      rw [literalArgument?_callTree, if_neg]
      rw [hrequire]
      exact fun heq => hordinary heq.symm
    have hcall : ∀ ancestors, w.Fresh 0 (visitsUnder ancestors (callTree h i j k l m pieces)) := by
      intro ancestors
      refine (fresh_callTree (fun ho t ht => ?_) hpieces ancestors).congr fun ho => ?_
      · rw [hnone ho] at ht
        cases ht
      · have hkey : keyOf w.options.markers w.new (callTree h i j k l m pieces) = none := by
          change (literalArgument? _ _ _).bind _ = _
          rw [hnone ho]
          rfl
        rw [hkey]
        rfl
    refine .plain (by decide) (.silent ?_)
    simp only [List.forall_mem_cons, List.not_mem_nil, false_imp_iff, implies_true, and_true]
    refine ⟨.token, .plain (by decide) (.silent ?_), .token⟩
    simp only [List.forall_mem_cons, List.not_mem_nil, false_imp_iff, implies_true, and_true]
    refine ⟨.plain (by decide) (.silent ?_), .token, hcall _⟩
    simp only [List.forall_mem_cons, List.not_mem_nil, false_imp_iff, implies_true, and_true]
    exact ⟨.token, .leaf (.inl (by decide)), .token⟩

/-- For a program all is due that is due for its statements. -/
theorem due_program : w.due (Syntax.Tree.node .program r s cs).visits =
    w.due (cs.flatMap (visitsUnder [.node .program r s cs])) := by
  have hkey : keyOf w.options.markers w.source (.node .program r s cs) = none := rfl
  have hspots : spots w.source ⟨.node .program r s cs, []⟩ = [] := rfl
  rw [visits, visitsUnder_eq, due_cons, hkey, hspots]
  exact zero_add _

/-- The statements of a program that are kept mark what is due for them. -/
theorem Made.below_program (hm : w.Made (.node .program r s cs)) :
    w.Below ⟨.node .program r s cs, []⟩ ⟨.node .program r s' cs', []⟩ := by
  intro c hc c' hkept
  have halike : List.Forall₂ w.Alike [.node .program r s cs] [.node .program r s' cs'] :=
    .cons ⟨rfl, rfl⟩ .nil
  exact fresh_of_reread hm c (reread_child hm (self_mem_visitsUnder [] _) hm.clear_root
    (by simp [isLiteral, isMarkupText, kind]) halike hc hkept)

/-- A file that is read back asks for nothing, and marks what it marked before and the keys of the
calls that were put in. -/
theorem ReadBack.fresh {added : Bool} {root' : Tree} (hm : w.Made root)
    (h : w.ReadBack added root root') : w.Fresh (w.due root.visits) root'.visits := by
  have hself := self_mem_visitsUnder [] root
  cases h with
  | same hbelow =>
    rw [due_program, ← add_zero (w.due _)]
    exact .plain (by decide) (hbelow.fresh hm hself rfl (fun c hc => hc) hm.below_program)
  | @added r s s' front front' back back' statement hfront hbinding hback =>
    have hbelow : w.Below ⟨.node .program r s (front ++ back), []⟩
        ⟨.node .program r s' (front' ++ statement :: back'), []⟩ := hm.below_program
    have hstart := hfront.fresh hm hself rfl (fun c hc => List.mem_append_left _ hc) hbelow
    have hstop := hback.fresh hm hself rfl (fun c hc => List.mem_append_right _ hc) hbelow
    rw [due_program, List.flatMap_append, due_append]
    refine .plain (by decide) ?_
    rw [List.flatMap_append, List.flatMap_cons]
    refine (hstart.append ((hbinding.fresh _ []).append hstop)).congr fun _ => ?_
    have hown : ∀ cs, w.callsAt (w.ownSpots .program cs) = 0 := fun _ => rfl
    rw [hown, hown, add_zero, add_zero, zero_add]

end Rewrite

end Localization.Extraction
