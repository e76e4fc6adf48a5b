import Mathlib.Data.List.Basic
import Mathlib.Data.List.Infix
import Localization.Catalog.Basic

/-!
# Reading and writing at paths

A write at a path is read back there and leaves every path apart from it as it was, whatever stands
on the way: an object that is entered keeps its other fields, and anything else that has to give way
to an object had nothing to be read below it. The one pair of paths for which a write may disturb a
read is a path and a path through it.

The leaves of a catalog never stand in each other's way. This needs the names of every object to be
told apart (`Distinct`), as they are in every mapping: the catalog is kept as a list of fields, and
a list could hold a name twice, once with a text and once with an object.
-/

namespace Localization

/-! ## Paths apart -/

namespace KeyPath

/-- Neither of two paths leads through the other. -/
def Apart (p q : KeyPath) : Prop := ¬ p <+: q ∧ ¬ q <+: p

instance (p q : KeyPath) : Decidable (Apart p q) := inferInstanceAs (Decidable (_ ∧ _))

/-- Whether two paths part does not depend on which one comes first. -/
theorem Apart.symm {p q : KeyPath} (h : Apart p q) : Apart q p := ⟨h.2, h.1⟩

@[simp] theorem not_apart_nil_left (q : KeyPath) : ¬ Apart [] q := fun h => h.1 List.nil_prefix

@[simp] theorem not_apart_nil_right (p : KeyPath) : ¬ Apart p [] := fun h => h.2 List.nil_prefix

/-- Two paths are apart as soon as they part at their first names, and else if what follows is. -/
theorem apart_cons_cons {a b : Text} {p q : KeyPath} :
    Apart (a :: p) (b :: q) ↔ a ≠ b ∨ Apart p q := by
  simp only [Apart, List.cons_prefix_cons, eq_comm (a := b)]
  tauto

/-- Induction over two paths that are apart: they part at their first names, or they begin with one
name and part behind it, where both go on. -/
@[elab_as_elim]
theorem Apart.induct {motive : ∀ p q : KeyPath, Apart p q → Prop}
    (fork : ∀ a b p q h, a ≠ b → motive (a :: p) (b :: q) h)
    (step : ∀ a p q h hpq, p ≠ [] → q ≠ [] → motive p q hpq → motive (a :: p) (a :: q) h)
    (p q : KeyPath) (h : Apart p q) : motive p q h := by
  induction p generalizing q with
  | nil => exact absurd h (not_apart_nil_left q)
  | cons a p ih =>
    obtain ⟨b, q, rfl⟩ : ∃ b t, q = b :: t :=
      List.exists_cons_of_ne_nil fun hq => not_apart_nil_right _ (hq ▸ h)
    by_cases hab : a = b
    · subst hab
      have hpq : Apart p q := (apart_cons_cons.1 h).resolve_left (· rfl)
      have hp : p ≠ [] := fun hnil => not_apart_nil_left q (hnil ▸ hpq)
      have hq : q ≠ [] := fun hnil => not_apart_nil_right p (hnil ▸ hpq)
      exact step a p q h hpq hp hq (ih q hpq)
    · exact fork a b p q h hab

/-- Paths that follow one path and then part are apart, whatever comes after. -/
theorem apart_of_fork {u p q : KeyPath} {a b : Text} (hab : a ≠ b) (hp : u ++ [a] <+: p)
    (hq : u ++ [b] <+: q) : Apart p q := by
  obtain ⟨p', rfl⟩ := hp
  obtain ⟨q', rfl⟩ := hq
  induction u with
  | nil => exact apart_cons_cons.2 (.inl hab)
  | cons c u ih => exact apart_cons_cons.2 (.inr ih)

end KeyPath

namespace Catalog

open KeyPath

/-! ## Reading after writing -/

/-- A path into an object goes through the field of its first name. -/
theorem valueAt_obj_cons (fields : List (Text × Json)) (name : Text) (path : KeyPath) :
    valueAt (.obj fields) (name :: path) =
      (Entries.get? fields name).bind fun j => valueAt j path := by
  simp only [valueAt]
  cases Entries.get? fields name <;> rfl

/-- A path into a catalog goes through the field of its first name. -/
theorem at?_cons (d : Catalog) (name : Text) (path : KeyPath) :
    d.at? (name :: path) = (Entries.get? d name).bind fun j => valueAt j path :=
  valueAt_obj_cons d name path

/-- What a write keeps below a value is all that can be read there: a value that gives way to an
object has nothing below it. -/
theorem at?_below (o : Option Json) {path : KeyPath} (h : path ≠ []) :
    (below o).at? path = o.bind fun j => valueAt j path := by
  obtain ⟨name, rest, rfl⟩ := List.exists_cons_of_ne_nil h
  cases o with
  | none => rfl
  | some j => cases j <;> rfl

/-- What a write through a name leaves at the name: its value at the end of the path, and on the way
an object with what could be entered there before. -/
def putAt (old : Option Json) : KeyPath → Json → Json
  | [], value => value
  | path, value => .obj (put (below old) path value)

/-- A write at a path is a write under its first name of what the rest of it gives there. -/
theorem put_cons (d : Catalog) (name : Text) (path : KeyPath) (value : Json) :
    d.put (name :: path) value = Entries.set d name (putAt (Entries.get? d name) path value) := by
  cases path <;> rfl

/-- A write further down makes an object of what was there. -/
theorem putAt_of_ne_nil (old : Option Json) {path : KeyPath} (value : Json) (h : path ≠ []) :
    putAt old path value = .obj (put (below old) path value) := by
  obtain ⟨next, rest, rfl⟩ := List.exists_cons_of_ne_nil h
  rfl

/-- What holds of the value at the end of the path, and of an object on the way, holds of what a
write leaves. -/
theorem putAt_cases {motive : Json → Prop} {old : Option Json} {path : KeyPath} {value : Json}
    (last : motive value) (onWay : motive (.obj (put (below old) path value))) :
    motive (putAt old path value) := by
  cases path with
  | nil => exact last
  | cons name path => exact onWay

/-- A value that was written is read back. -/
theorem at?_put_self (d : Catalog) {path : KeyPath} (value : Json) (h : path ≠ []) :
    (d.put path value).at? path = some value := by
  induction path generalizing d with
  | nil => exact absurd rfl h
  | cons name rest ih =>
    rw [put_cons, at?_cons, Entries.get?_set_self, Option.bind_some]
    by_cases hr : rest = []
    · rw [hr]
      rfl
    · rw [putAt_of_ne_nil _ _ hr]
      exact ih _ hr

/-- A write leaves every path apart from it as it was. -/
theorem at?_put_of_apart (d : Catalog) {path other : KeyPath} (value : Json)
    (h : Apart path other) : (d.put path value).at? other = d.at? other := by
  induction path, other, h using Apart.induct generalizing d with
  | fork a b p q _ hab => rw [put_cons, at?_cons, at?_cons, Entries.get?_set_of_ne d _ hab]
  | step a p q _ _ hp hq ih =>
    rw [put_cons, at?_cons, at?_cons, Entries.get?_set_self, Option.bind_some,
      putAt_of_ne_nil _ _ hp]
    exact (ih _).trans (at?_below _ hq)

/-! ## Leaves -/

mutual

/-- The names of every object at and below a value are told apart, as far as leaves are looked for
there. -/
def DistinctAt : Json → Prop
  | .obj fields => DistinctFields fields
  | _ => True

/-- The names of fields, and those of every object below them, are told apart. -/
def DistinctFields : List (Text × Json) → Prop
  | [] => True
  | (k, v) :: rest => k ∉ rest.map Prod.fst ∧ DistinctAt v ∧ DistinctFields rest

end

/-- The names of a catalog are told apart at every depth. -/
def Distinct (d : Catalog) : Prop := DistinctFields d

mutual

/-- The leaves below a value stand on its path. -/
theorem prefix_of_mem_leavesAt : ∀ (above : List Text) (j : Json),
    ∀ l ∈ leavesAt above j, above.reverse <+: l.1
  | above, .str t, l, h => by
    rw [leavesAt, List.mem_singleton] at h
    subst h
    exact List.prefix_refl _
  | above, .obj fields, l, h => by
    obtain ⟨k, -, hk⟩ := prefix_of_mem_leavesOf above fields l h
    exact (List.prefix_append _ _).trans hk
  | _, .null, _, h | _, .bool _, _, h | _, .int _, _, h | _, .float _, _, h | _, .arr _, _, h => by
    simp [leavesAt] at h

/-- The leaves below the fields of an object stand on the path of one of the fields. -/
theorem prefix_of_mem_leavesOf : ∀ (above : List Text) (fields : List (Text × Json)),
    ∀ l ∈ leavesOf above fields, ∃ k ∈ fields.map Prod.fst, above.reverse ++ [k] <+: l.1
  | _, [], l, h => by
    rw [leavesOf] at h
    cases h
  | above, (k, v) :: rest, l, h => by
    rw [leavesOf, List.mem_append] at h
    rcases h with h | h
    · have hp := prefix_of_mem_leavesAt (k :: above) v l h
      rw [List.reverse_cons] at hp
      exact ⟨k, by simp, hp⟩
    · obtain ⟨k', hk', hp⟩ := prefix_of_mem_leavesOf above rest l h
      exact ⟨k', by simp [hk'], hp⟩

end

mutual

/-- The leaves below a value are apart. -/
theorem leavesAt_apart : ∀ (above : List Text) (j : Json), DistinctAt j →
    (leavesAt above j).Pairwise fun a b => Apart a.1 b.1
  | _, .str _, _ => by
    rw [leavesAt]
    exact List.pairwise_singleton _ _
  | above, .obj fields, h => leavesOf_apart above fields h
  | _, .null, _ | _, .bool _, _ | _, .int _, _ | _, .float _, _ | _, .arr _, _ => by
    simp [leavesAt]

/-- The leaves below the fields of an object are apart: two in one field by induction, two in
different fields because the names of the fields differ. -/
theorem leavesOf_apart : ∀ (above : List Text) (fields : List (Text × Json)),
    DistinctFields fields → (leavesOf above fields).Pairwise fun a b => Apart a.1 b.1
  | _, [], _ => by
    rw [leavesOf]
    exact .nil
  | above, (k, v) :: rest, ⟨hk, hv, hrest⟩ => by
    rw [leavesOf, List.pairwise_append]
    refine ⟨leavesAt_apart (k :: above) v hv, leavesOf_apart above rest hrest, ?_⟩
    intro a ha b hb
    have hpa := prefix_of_mem_leavesAt (k :: above) v a ha
    rw [List.reverse_cons] at hpa
    obtain ⟨k', hk', hpb⟩ := prefix_of_mem_leavesOf above rest b hb
    have hne : k ≠ k' := by
      rintro rfl
      exact hk hk'
    exact apart_of_fork hne hpa hpb

end

/-- No leaf of a catalog stands in another's way. -/
theorem leaves_apart {d : Catalog} (h : d.Distinct) :
    d.leaves.Pairwise fun a b => Apart a.1 b.1 :=
  leavesOf_apart [] d h

/-- The path of a leaf names a place to write to. -/
theorem path_ne_nil_of_mem_leaves {d : Catalog} {l : KeyPath × Text} (h : l ∈ d.leaves) :
    l.1 ≠ [] := by
  obtain ⟨k, -, hp⟩ := prefix_of_mem_leavesOf [] d l h
  intro hnil
  rw [hnil] at hp
  simp at hp

end Catalog

end Localization
