import Mathlib.Data.List.Basic
import Localization.Syntax.Tree

/-!
# Walks over a tree

The walk over a tree meets the tree itself and then walks over its children, one after another, with
the tree as their nearest ancestor (`visitsUnder_eq`). What holds of a tree when it holds of its
children holds of every tree (`induct`); this is the induction behind every fact about walks.
-/

namespace Localization.Syntax.Tree

/-- Induction over a tree by its children. -/
@[elab_as_elim]
theorem induct {motive : Tree → Prop} (step : ∀ t, (∀ c ∈ t.children, motive c) → motive t) :
    ∀ t, motive t
  | .node k r s cs => step _ fun c _hc => induct step c
termination_by t => sizeOf t
decreasing_by
  have hsmaller : sizeOf c < sizeOf cs := List.sizeOf_lt_of_mem _hc
  simp only [node.sizeOf_spec]
  omega

/-- The visits to several nodes are the visits under each, in order. -/
theorem visitsBeside_eq (ancestors : List Tree) (ts : List Tree) :
    visitsBeside ancestors ts = ts.flatMap (visitsUnder ancestors) := by
  induction ts with
  | nil => rfl
  | cons t ts ih => rw [visitsBeside, ih, List.flatMap_cons]

/-- The visits under a node are the node's own and those under its children. -/
theorem visitsUnder_eq (ancestors : List Tree) (t : Tree) :
    visitsUnder ancestors t =
      ⟨t, ancestors⟩ :: t.children.flatMap (visitsUnder (t :: ancestors)) := by
  cases t with
  | node k r s cs => rw [visitsUnder, visitsBeside_eq]; rfl

/-- A walk meets the tree itself, or something on the walk below one of its children. -/
theorem mem_visitsUnder {ancestors : List Tree} {t : Tree} {v : Visit} :
    v ∈ visitsUnder ancestors t ↔
      v = ⟨t, ancestors⟩ ∨ ∃ c ∈ t.children, v ∈ visitsUnder (t :: ancestors) c := by
  rw [visitsUnder_eq, List.mem_cons, List.mem_flatMap]

/-- The visits under a node begin with its own. -/
theorem self_mem_visitsUnder (ancestors : List Tree) (t : Tree) :
    ⟨t, ancestors⟩ ∈ visitsUnder ancestors t :=
  mem_visitsUnder.2 (.inl rfl)

/-- What stands around a tree stands around all that is met below it. -/
theorem ancestors_subset {ancestors : List Tree} {t : Tree} {v : Visit}
    (hv : v ∈ visitsUnder ancestors t) : ancestors ⊆ v.ancestors := by
  induction t using induct generalizing ancestors with
  | step t ih =>
    rcases mem_visitsUnder.1 hv with rfl | ⟨c, hc, hv⟩
    · exact fun a ha => ha
    · exact fun a ha => ih c hc hv (List.mem_cons_of_mem t ha)

/-- The children of a tree that is met are met too. -/
theorem child_mem_visitsUnder {ancestors : List Tree} {t c : Tree} {v : Visit}
    (hv : v ∈ visitsUnder ancestors t) (hc : c ∈ v.tree.children) :
    ⟨c, v.tree :: v.ancestors⟩ ∈ visitsUnder ancestors t := by
  induction t using induct generalizing ancestors with
  | step t ih =>
    rcases mem_visitsUnder.1 hv with rfl | ⟨d, hd, hv⟩
    · exact mem_visitsUnder.2 (.inr ⟨c, hc, self_mem_visitsUnder ..⟩)
    · exact mem_visitsUnder.2 (.inr ⟨d, hd, ih d hd hv⟩)

/-- What is met below a tree that is met is met too. -/
theorem mem_visitsUnder_trans {ancestors : List Tree} {t : Tree} {u v : Visit}
    (hv : v ∈ visitsUnder ancestors t) (hu : u ∈ visitsUnder v.ancestors v.tree) :
    u ∈ visitsUnder ancestors t := by
  induction t using induct generalizing ancestors with
  | step t ih =>
    rcases mem_visitsUnder.1 hv with rfl | ⟨c, hc, hv⟩
    · exact hu
    · exact mem_visitsUnder.2 (.inr ⟨c, hc, ih c hc hv⟩)

/-- Every tree that is met but the first one is a child of a tree that is met. -/
theorem eq_self_or_child {ancestors : List Tree} {t : Tree} {v : Visit}
    (hv : v ∈ visitsUnder ancestors t) :
    v = ⟨t, ancestors⟩ ∨
      ∃ u ∈ visitsUnder ancestors t,
        v.tree ∈ u.tree.children ∧ v.ancestors = u.tree :: u.ancestors := by
  induction t using induct generalizing ancestors with
  | step t ih =>
    rcases mem_visitsUnder.1 hv with rfl | ⟨c, hc, hv⟩
    · exact .inl rfl
    · right
      rcases ih c hc hv with rfl | ⟨u, hu, hchild, hancestors⟩
      · exact ⟨⟨t, ancestors⟩, self_mem_visitsUnder .., hc, rfl⟩
      · exact ⟨u, mem_visitsUnder.2 (.inr ⟨c, hc, hu⟩), hchild, hancestors⟩

/-- Which trees are met does not depend on what stands around. -/
theorem map_tree_visitsUnder (ancestors : List Tree) (t : Tree) :
    (visitsUnder ancestors t).map (·.tree) = t.subtrees := by
  induction t using induct generalizing ancestors with
  | step t ih =>
    rw [subtrees, visits, visitsUnder_eq, visitsUnder_eq, List.map_cons, List.map_cons,
      List.map_flatMap, List.map_flatMap]
    congr 1
    refine List.flatMap_congr fun c hc => ?_
    rw [ih c hc, ih c hc]

/-- A tree is one of its own subtrees. -/
theorem self_mem_subtrees (t : Tree) : t ∈ t.subtrees :=
  List.mem_map_of_mem (self_mem_visitsUnder [] t)

/-- What is met inside a child of a tree is met inside the tree. -/
theorem mem_subtrees_of_mem_child {t c d : Tree} (hc : c ∈ t.children) (hd : d ∈ c.subtrees) :
    d ∈ t.subtrees := by
  rw [← map_tree_visitsUnder [t]] at hd
  obtain ⟨v, hv, rfl⟩ := List.mem_map.1 hd
  exact List.mem_map_of_mem (mem_visitsUnder.2 (.inr ⟨c, hc, hv⟩))

/-- Inside a tree there is the tree itself and what is inside its children. -/
theorem mem_subtrees {t d : Tree} : d ∈ t.subtrees ↔ d = t ∨ ∃ c ∈ t.children, d ∈ c.subtrees := by
  refine ⟨fun hd => ?_, ?_⟩
  · obtain ⟨v, hv, rfl⟩ := List.mem_map.1 hd
    rcases mem_visitsUnder.1 hv with rfl | ⟨c, hc, hv⟩
    · exact .inl rfl
    · refine .inr ⟨c, hc, ?_⟩
      rw [← map_tree_visitsUnder [t]]
      exact List.mem_map_of_mem hv
  · rintro (rfl | ⟨c, hc, hd⟩)
    · exact self_mem_subtrees d
    · exact mem_subtrees_of_mem_child hc hd

/-- What stands around a tree that is met is met too, or stands around the whole walk. -/
theorem mem_ancestors {ancestors : List Tree} {t a : Tree} {v : Visit}
    (hv : v ∈ visitsUnder ancestors t) (ha : a ∈ v.ancestors) : a ∈ ancestors ∨ a ∈ t.subtrees := by
  induction t using induct generalizing ancestors with
  | step t ih =>
    rcases mem_visitsUnder.1 hv with rfl | ⟨c, hc, hv⟩
    · exact .inl ha
    · rcases ih c hc hv with hmem | hmem
      · rcases List.mem_cons.1 hmem with rfl | hmem
        · exact .inr (self_mem_subtrees a)
        · exact .inl hmem
      · exact .inr (mem_subtrees_of_mem_child hc hmem)

end Localization.Syntax.Tree
