import Mathlib.Data.List.Pairwise
import Localization.Proofs.Catalog.Order

/-!
# The laws of access by path

Reading and writing at paths obey the laws of a lens, one for each path (`lawful_access`): what was
written is read, the second of two writes to one path counts, and a write disturbs no path apart
from it. So two writes apart can be made in either order. The catalogs that come of it may still
differ in the order of their names, where both writes bring new names into one object, and in
nothing else: they have one ordered form. The leaves of a catalog are such paths, apart from each
other and each with the text that is read there.
-/

namespace Localization.Catalog

open KeyPath

/-! ## Two writes to one path -/

/-- The second of two writes to one path counts. -/
theorem put_put (d : Catalog) (path : KeyPath) (value value' : Json) :
    (d.put path value).put path value' = d.put path value' := by
  induction path generalizing d with
  | nil => rfl
  | cons name path ih =>
    have hinner : putAt (some (putAt (Entries.get? d name) path value)) path value' =
        putAt (Entries.get? d name) path value' := by
      by_cases hpath : path = []
      · rw [hpath]
        rfl
      · rw [putAt_of_ne_nil _ _ hpath, putAt_of_ne_nil _ _ hpath, putAt_of_ne_nil _ _ hpath]
        exact congrArg Json.obj (ih _)
    rw [put_cons, put_cons, put_cons, Entries.get?_set_self, Entries.set_set, hinner]

/-! ## Two writes apart -/

section
variable {d : Catalog} (hd : (Entries.keys d).Nodup)
include hd

/-- What a name is set to counts up to the order of names in it. -/
theorem ordered_set_congr (name : Text) {v w : Json} (h : ordered v = ordered w) :
    ordered (.obj (Entries.set d name v)) = ordered (.obj (Entries.set d name w)) := by
  refine (ordered_obj_eq_iff (Entries.nodup_keys_set hd name v)
    (Entries.nodup_keys_set hd name w)).2 fun key => ?_
  rw [Entries.get?_set, Entries.get?_set]
  split
  · exact congrArg some h
  · rfl

/-- Two names are set in either order. -/
theorem ordered_set_comm {name other : Text} (hne : name ≠ other) (v w : Json) :
    ordered (.obj (Entries.set (Entries.set d name v) other w)) =
      ordered (.obj (Entries.set (Entries.set d other w) name v)) := by
  refine (ordered_obj_eq_iff (Entries.nodup_keys_set (Entries.nodup_keys_set hd name v) other w)
    (Entries.nodup_keys_set (Entries.nodup_keys_set hd other w) name v)).2 fun key => ?_
  simp only [Entries.get?_set]
  by_cases hkey : name = key
  · have hother : other ≠ key := fun h => hne (hkey.trans h.symm)
    simp only [if_pos hkey, if_neg hother]
  · simp only [if_neg hkey]

end

/-- Two writes apart are made in either order: they set two names of one object, or one name in both
orders, and then they are apart below it. -/
theorem ordered_put_comm {d : Catalog} (hd : d.Distinct) {path other : KeyPath}
    (h : Apart path other) (v w : Json) :
    ordered (.obj ((d.put path v).put other w)) = ordered (.obj ((d.put other w).put path v)) := by
  induction path, other, h using Apart.induct generalizing d with
  | fork a b p q _ hab =>
    rw [put_cons, put_cons, put_cons, put_cons, Entries.get?_set_of_ne d _ hab,
      Entries.get?_set_of_ne d _ (Ne.symm hab)]
    exact ordered_set_comm (distinctFields_iff.1 hd).1 hab _ _
  | step a p q _ _ hp hq ih =>
    simp only [put_cons, Entries.get?_set_self, Entries.set_set, putAt_of_ne_nil _ _ hp,
      putAt_of_ne_nil _ _ hq]
    exact ordered_set_congr (distinctFields_iff.1 hd).1 a (ih (distinct_below hd a))

/-! ## Leaves -/

/-- A leaf is known by its path: no other leaf stands at or below it. -/
theorem eq_of_prefix_of_mem_leaves {d : Catalog} (hd : d.Distinct) {l m : KeyPath × Text}
    (hl : l ∈ d.leaves) (hm : m ∈ d.leaves) (h : l.1 <+: m.1) : l = m := by
  by_contra hne
  have hsymm : Std.Symm fun a b : KeyPath × Text => Apart a.1 b.1 := ⟨fun _ _ => Apart.symm⟩
  exact ((leaves_apart hd).forall hl hm hne).1 h

/-- The paths of the leaves are told apart. -/
theorem nodup_leaf_paths {d : Catalog} (hd : d.Distinct) : (d.leaves.map Prod.fst).Nodup := by
  refine List.pairwise_map.2 ((leaves_apart hd).imp ?_)
  intro l m h heq
  exact h.1 (heq ▸ List.prefix_refl l.1)

/-- **Access by path is lawful.** Let the names of a catalog be told apart at every depth, whatever
else it holds. A text that is written at a path is read there, and the names are still told apart. A
write leaves every path apart from it as it was, and two writes apart give one catalog, up to the
order of names, whichever is made first. Of two writes to one path only the second counts. And the
leaves have paths of their own, none of which leads to another leaf; they are the paths at which a
text is read. -/
theorem lawful_access {d : Catalog} (hd : d.Distinct) :
    (∀ path v, path ≠ [] → (d.put path (.str v)).at? path = some (.str v)) ∧
    (∀ path v, (d.put path (.str v)).Distinct) ∧
    (∀ path other v w, Apart path other →
      (d.put path (.str v)).at? other = d.at? other ∧
      ordered (.obj ((d.put path (.str v)).put other (.str w))) =
        ordered (.obj ((d.put other (.str w)).put path (.str v)))) ∧
    (∀ path v w, (d.put path (.str v)).put path (.str w) = d.put path (.str w)) ∧
    (d.leaves.map Prod.fst).Nodup ∧
    (∀ l ∈ d.leaves, ∀ m ∈ d.leaves, l.1 <+: m.1 → l = m) ∧
    ∀ path t, (path, t) ∈ d.leaves ↔ d.at? path = some (.str t) := by
  refine ⟨fun path v => at?_put_self d (.str v), distinct_put hd, fun path other v w h => ?_,
    fun path v w => put_put d path (.str v) (.str w), nodup_leaf_paths hd, ?_, ?_⟩
  · exact ⟨at?_put_of_apart d (.str v) h, ordered_put_comm hd h (.str v) (.str w)⟩
  · exact fun l hl m hm => eq_of_prefix_of_mem_leaves hd hl hm
  · exact fun path t => mem_leaves_iff hd

/-- A catalog with values that are neither texts nor objects, and with a text where objects may be
wanted. -/
def halfFilled : Catalog :=
  [("home", "Start"), ("count", .int 3),
    ("menu", .obj [("", .null), ("open", "Open"), ("more", .arr ["Close"])])]

/-- A place below the text. -/
def titlePath : KeyPath := ["home", "title"]

/-- A place deeper below the text. -/
def helpPath : KeyPath := ["home", "menu", "help"]

/-- The text gives way to an object that both writes bring names into. Their order shows in the
order of the leaves, and nowhere else. -/
theorem lawful_access_halfFilled :
    halfFilled.Distinct ∧ Apart titlePath helpPath ∧
    (halfFilled.put titlePath "Start").at? titlePath = some "Start" ∧
    (halfFilled.put titlePath "Start").at? helpPath = halfFilled.at? helpPath ∧
    ((halfFilled.put titlePath "Start").put helpPath "Help").leafKeys ≠
      ((halfFilled.put helpPath "Help").put titlePath "Start").leafKeys ∧
    ordered (.obj ((halfFilled.put titlePath "Start").put helpPath "Help")) =
      ordered (.obj ((halfFilled.put helpPath "Help").put titlePath "Start")) ∧
    ([Text.ofString "menu", "open"], Text.ofString "Open") ∈ halfFilled.leaves := by
  have hd : halfFilled.Distinct :=
    ⟨by decide, trivial, by decide, trivial, by decide, ⟨by decide, trivial, by decide, trivial,
      by decide, trivial, trivial⟩, trivial⟩
  have hapart : Apart titlePath helpPath := by decide
  obtain ⟨hread, -, hwrites, -, -, -, hleaves⟩ := lawful_access hd
  obtain ⟨hother, hcomm⟩ := hwrites titlePath helpPath "Start" "Help" hapart
  exact ⟨hd, hapart, hread titlePath "Start" (by decide), hother, by decide, hcomm,
    (hleaves _ _).2 rfl⟩

end Localization.Catalog
