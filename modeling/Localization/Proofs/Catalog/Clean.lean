import Localization.Catalog.Clean
import Localization.Proofs.Catalog.Paths
import Localization.Proofs.Entries

/-!
# Clean catalogs and their names

What cleaning gives is clean and has its names told apart if the document had, and cleaning for
storage leaves a clean catalog as it is. Both properties are kept by writing texts at paths. In a
catalog whose names are told apart, the leaves are the paths that hold texts (`mem_leaves_iff`).
-/

namespace Localization.Catalog

/-! ## Fields -/

/-- Fields are told apart at every depth if their names are, and so are those inside each value. -/
theorem distinctFields_iff {fields : List (Text × Json)} :
    DistinctFields fields ↔ (Entries.keys fields).Nodup ∧ ∀ f ∈ fields, DistinctAt f.2 := by
  induction fields with
  | nil => simp [DistinctFields, Entries.keys]
  | cons f fields ih =>
    obtain ⟨k, v⟩ := f
    have hkeys : (Entries.keys ((k, v) :: fields)).Nodup ↔
        k ∉ fields.map Prod.fst ∧ (Entries.keys fields).Nodup := List.nodup_cons
    rw [DistinctFields, ih, hkeys, List.forall_mem_cons]
    tauto

/-- Fields are clean if each of their values is. -/
theorem areClean_iff {fields : List (Text × Json)} :
    areClean fields = true ↔ ∀ f ∈ fields, isCleanValue f.2 = true := by
  induction fields with
  | nil => simp [areClean]
  | cons f fields ih =>
    obtain ⟨k, v⟩ := f
    rw [areClean, Bool.and_eq_true, ih, List.forall_mem_cons]

/-- What a catalog holds under a name has its own names told apart. -/
theorem distinctAt_of_get? {d : Catalog} (h : d.Distinct) {name : Text} {j : Json}
    (hget : Entries.get? d name = some j) : DistinctAt j :=
  (distinctFields_iff.1 h).2 _ (Entries.mem_of_get? hget)

/-- What a clean catalog holds under a name is clean. -/
theorem isCleanValue_of_get? {d : Catalog} (h : areClean d = true) {name : Text} {j : Json}
    (hget : Entries.get? d name = some j) : isCleanValue j = true :=
  areClean_iff.1 h _ (Entries.mem_of_get? hget)

/-! ## Writing -/

/-- Writing a value under a name keeps names apart. -/
theorem distinct_set {d : Catalog} (h : d.Distinct) (name : Text) {j : Json} (hj : DistinctAt j) :
    Distinct (Entries.set d name j) := by
  obtain ⟨hkeys, hvalues⟩ := distinctFields_iff.1 h
  refine distinctFields_iff.2 ⟨Entries.nodup_keys_set hkeys name j, fun f hf => ?_⟩
  rcases Entries.mem_of_mem_set hf with rfl | hf
  · exact hj
  · exact hvalues f hf

/-- Writing a clean value keeps a catalog clean. -/
theorem areClean_set {d : Catalog} (h : areClean d = true) (name : Text) {j : Json}
    (hj : isCleanValue j = true) : areClean (Entries.set d name j) = true := by
  refine areClean_iff.2 fun f hf => ?_
  rcases Entries.mem_of_mem_set hf with rfl | hf
  · exact hj
  · exact areClean_iff.1 h f hf

/-- The catalog below a name has its names told apart; where there is no object it is empty. -/
theorem distinct_below {d : Catalog} (h : d.Distinct) (name : Text) :
    Distinct (below (Entries.get? d name)) := by
  unfold below
  split
  next fields hget => exact distinctAt_of_get? (j := .obj fields) h hget
  next => trivial

/-- The catalog below a name of a clean one is clean; where there is no object it is empty. -/
theorem areClean_below {d : Catalog} (h : areClean d = true) (name : Text) :
    areClean (below (Entries.get? d name)) = true := by
  unfold below
  split
  next fields hget => exact isCleanValue_of_get? (j := .obj fields) h hget
  next => rfl

/-- Writing a text keeps names told apart. -/
theorem distinct_put {d : Catalog} (h : d.Distinct) (path : KeyPath) (t : Text) :
    Distinct (d.put path (.str t)) := by
  induction path generalizing d with
  | nil => exact h
  | cons name path ih =>
    rw [put_cons]
    exact distinct_set h name
      (putAt_cases (motive := DistinctAt) trivial (ih (distinct_below h name)))

/-- Writing a text keeps a catalog clean. -/
theorem areClean_put {d : Catalog} (h : areClean d = true) (path : KeyPath) (t : Text) :
    areClean (d.put path (.str t)) = true := by
  induction path generalizing d with
  | nil => exact h
  | cons name path ih =>
    rw [put_cons]
    exact areClean_set h name
      (putAt_cases (motive := fun j => isCleanValue j = true) rfl (ih (areClean_below h name)))

/-! ## Leaves -/

mutual

/-- A leaf below a value is a path at which the value holds a text. -/
theorem mem_leavesAt_iff : ∀ (above : List Text) (j : Json), DistinctAt j →
    ∀ (p : KeyPath) (t : Text), (p, t) ∈ leavesAt above j ↔
      ∃ q, p = above.reverse ++ q ∧ valueAt j q = some (.str t)
  | above, .str s, _, p, t => by
    rw [leavesAt, List.mem_singleton]
    constructor
    · intro h
      cases h
      exact ⟨[], (List.append_nil _).symm, rfl⟩
    · rintro ⟨q, rfl, hq⟩
      cases q with
      | nil =>
        cases hq
        rw [List.append_nil]
      | cons name q => cases hq
  | above, .obj fields, h, p, t => by
    rw [leavesAt, mem_leavesOf_iff above fields h]
    constructor
    · rintro ⟨name, q, rfl, hq⟩
      exact ⟨name :: q, rfl, hq⟩
    · rintro ⟨q, rfl, hq⟩
      cases q with
      | nil => cases hq
      | cons name q => exact ⟨name, q, rfl, hq⟩
  | above, .null, _, p, t | above, .bool _, _, p, t | above, .int _, _, p, t
  | above, .float _, _, p, t | above, .arr _, _, p, t => by
    refine ⟨fun h => ?_, ?_⟩
    · simp [leavesAt] at h
    · rintro ⟨q, -, hq⟩
      cases q with
      | nil => cases hq
      | cons name q => cases hq

/-- A leaf below fields is a path at which they hold a text. -/
theorem mem_leavesOf_iff : ∀ (above : List Text) (fields : List (Text × Json)),
    DistinctFields fields → ∀ (p : KeyPath) (t : Text), (p, t) ∈ leavesOf above fields ↔
      ∃ name q, p = above.reverse ++ name :: q ∧
        valueAt (.obj fields) (name :: q) = some (.str t)
  | above, [], _, p, t => by
    rw [leavesOf]
    refine ⟨fun h => absurd h List.not_mem_nil, ?_⟩
    rintro ⟨name, q, -, hq⟩
    cases hq
  | above, (k, v) :: rest, ⟨hk, hv, hrest⟩, p, t => by
    rw [leavesOf, List.mem_append, mem_leavesAt_iff (k :: above) v hv,
      mem_leavesOf_iff above rest hrest, List.reverse_cons]
    constructor
    · rintro (⟨q, rfl, hq⟩ | ⟨name, q, rfl, hq⟩)
      · refine ⟨k, q, by simp, ?_⟩
        rw [valueAt_obj_cons, Entries.get?, if_pos rfl]
        exact hq
      · refine ⟨name, q, rfl, ?_⟩
        have hne : k ≠ name := by
          rintro rfl
          rw [valueAt_obj_cons, Entries.get?_eq_none hk] at hq
          cases hq
        rw [valueAt_obj_cons] at hq ⊢
        rwa [Entries.get?, if_neg hne]
    · rintro ⟨name, q, rfl, hq⟩
      rw [valueAt_obj_cons, Entries.get?] at hq
      split at hq
      next heq =>
        subst heq
        exact .inl ⟨q, by simp, hq⟩
      next => exact .inr ⟨name, q, rfl, by rwa [valueAt_obj_cons]⟩

end

/-- The leaves of a catalog are the paths at which it holds texts. -/
theorem mem_leaves_iff {d : Catalog} (h : d.Distinct) {p : KeyPath} {t : Text} :
    (p, t) ∈ d.leaves ↔ d.at? p = some (.str t) := by
  rw [leaves, mem_leavesOf_iff [] d h]
  constructor
  · rintro ⟨name, q, rfl, hq⟩
    exact hq
  · intro hp
    cases p with
    | nil => cases hp
    | cons name q => exact ⟨name, q, rfl, hp⟩

/-! ## Cleaning -/

mutual

/-- The clean part of a value is clean. -/
theorem isCleanValue_cleanValue (drop : Bool) : ∀ {j w : Json}, cleanValue drop j = some w →
    isCleanValue w = true
  | .str t, w, h => by
    cases h
    rfl
  | .obj fields, w, h => by
    rw [cleanValue] at h
    cases h
    exact areClean_cleanFields drop fields
  | .null, w, h | .bool _, w, h | .int _, w, h | .float _, w, h | .arr _, w, h => by
    simp [cleanValue] at h

/-- The clean part of fields is clean. -/
theorem areClean_cleanFields (drop : Bool) : ∀ fields : List (Text × Json),
    areClean (cleanFields drop fields) = true
  | [] => by
    rw [cleanFields]
    rfl
  | (k, v) :: rest => by
    rw [cleanFields]
    split
    next w hw =>
      split
      · exact areClean_cleanFields drop rest
      · rw [areClean, isCleanValue_cleanValue drop hw, areClean_cleanFields drop rest]
        rfl
    next => exact areClean_cleanFields drop rest

end

/-- What cleaning gives is clean. -/
theorem areClean_clean (drop : Bool) (j : Json) : areClean (clean drop j) = true := by
  unfold clean
  split
  · exact areClean_cleanFields drop _
  · rfl

/-- Cleaning brings no names in. -/
theorem keys_cleanFields_sublist (drop : Bool) (fields : List (Text × Json)) :
    (Entries.keys (cleanFields drop fields)).Sublist (Entries.keys fields) := by
  induction fields with
  | nil => rw [cleanFields]
  | cons f rest ih =>
    obtain ⟨k, v⟩ := f
    rw [cleanFields]
    split
    · split
      · exact ih.cons k
      · exact ih.cons_cons k
    · exact ih.cons k

mutual

/-- Cleaning keeps the names below a value told apart. -/
theorem distinctAt_cleanValue (drop : Bool) : ∀ {j w : Json}, DistinctAt j →
    cleanValue drop j = some w → DistinctAt w
  | .str t, w, _, h => by
    cases h
    trivial
  | .obj fields, w, hj, h => by
    rw [cleanValue] at h
    cases h
    exact distinctFields_cleanFields drop fields hj
  | .null, w, _, h | .bool _, w, _, h | .int _, w, _, h | .float _, w, _, h | .arr _, w, _, h => by
    simp [cleanValue] at h

/-- Cleaning keeps the names of fields told apart. -/
theorem distinctFields_cleanFields (drop : Bool) : ∀ fields : List (Text × Json),
    DistinctFields fields → DistinctFields (cleanFields drop fields)
  | [], _ => by
    rw [cleanFields]
    trivial
  | (k, v) :: rest, ⟨hk, hv, hrest⟩ => by
    have hrest' := distinctFields_cleanFields drop rest hrest
    rw [cleanFields]
    split
    next w hw =>
      split
      · exact hrest'
      · refine ⟨fun hmem => hk ?_, distinctAt_cleanValue drop hv hw, hrest'⟩
        exact (keys_cleanFields_sublist drop rest).subset hmem
    next => exact hrest'

end

/-- Cleaning keeps names told apart. -/
theorem distinct_clean (drop : Bool) {j : Json} (h : DistinctAt j) : (clean drop j).Distinct := by
  unfold clean
  split
  · exact distinctFields_cleanFields drop _ h
  · trivial

mutual

/-- Cleaning for storage leaves a clean value as it is. -/
theorem cleanValue_of_isCleanValue : ∀ {j : Json}, isCleanValue j = true →
    cleanValue false j = some j
  | .str t, _ => by rw [cleanValue]
  | .obj fields, h => by rw [cleanValue, cleanFields_of_areClean h]
  | .null, h | .bool _, h | .int _, h | .float _, h | .arr _, h => by cases h

/-- Cleaning for storage leaves clean fields as they are. -/
theorem cleanFields_of_areClean : ∀ {fields : List (Text × Json)}, areClean fields = true →
    cleanFields false fields = fields
  | [], _ => by rw [cleanFields]
  | (k, v) :: rest, h => by
    rw [areClean, Bool.and_eq_true] at h
    rw [cleanFields, cleanValue_of_isCleanValue h.1, cleanFields_of_areClean h.2]
    rfl

end

end Localization.Catalog
