import Localization.Proofs.Catalog.Preserving
import Localization.Proofs.Text.Order

/-!
# The order of names

A catalog keeps its names in an order, but as a mapping it does not depend on it. Two catalogs that
are alike name by name at every depth (`Alike`) have one ordered form, the catalog with its names in
increasing order at every depth; and mappings with one ordered form are alike (`ordered_eq_iff`).
-/

namespace Localization

namespace Catalog

/-- Two values that differ at most in the order of names: the same text, or objects with the same
names and, name by name, values that differ at most in this. -/
inductive Alike : Json → Json → Prop
  | text (t : Text) : Alike (.str t) (.str t)
  | object {a b : Catalog} (names : ∀ name, Entries.has a name = Entries.has b name)
      (values : ∀ name v w, Entries.get? a name = some v → Entries.get? b name = some w →
        Alike v w) :
      Alike (.obj a) (.obj b)

mutual

/-- A document with the fields of every object in increasing order of their names. -/
def ordered : Json → Json
  | .obj fields => .obj (Entries.sorted (orderedFields fields))
  | .arr items => .arr (orderedItems items)
  | j => j

/-- The items of an array, each in order. -/
def orderedItems : List Json → List Json
  | [] => []
  | j :: rest => ordered j :: orderedItems rest

/-- The fields of an object in their places, each value in order. -/
def orderedFields : List (Text × Json) → List (Text × Json)
  | [] => []
  | (k, j) :: rest => (k, ordered j) :: orderedFields rest

end

/-- Ordering fields orders each of their values and leaves the fields where they are. -/
theorem orderedFields_eq (fields : List (Text × Json)) :
    orderedFields fields = fields.map fun f => (f.1, ordered f.2) := by
  induction fields with
  | nil => rw [orderedFields, List.map_nil]
  | cons f fields ih => rw [orderedFields, ih, List.map_cons]

/-- Ordered fields have the names of the fields, once each. -/
theorem nodup_keys_orderedFields {fields : List (Text × Json)} (h : (Entries.keys fields).Nodup) :
    (Entries.keys (orderedFields fields)).Nodup := by
  have hkeys : Entries.keys (orderedFields fields) = Entries.keys fields := by
    rw [orderedFields_eq, Entries.keys, List.map_map]
    rfl
  rwa [hkeys]

/-- Under a name, ordered fields hold the ordered value. -/
theorem get?_orderedFields (fields : List (Text × Json)) (name : Text) :
    Entries.get? (orderedFields fields) name = (Entries.get? fields name).map ordered := by
  rw [orderedFields_eq, Entries.get?_map]

/-- A text is in order as it is. -/
theorem ordered_str (t : Text) : ordered (.str t) = .str t := by
  rw [ordered] <;> nofun

/-- Ordering keeps a mapping one. -/
theorem mapping_ordered {j : Json} (h : Mapping j) : Mapping (ordered j) := by
  induction j using induct_fields with
  | obj fields ih =>
    obtain ⟨hkeys, hvalues⟩ := mapping_obj_iff.1 h
    rw [ordered]
    refine mapping_obj_iff.2 ⟨Entries.nodup_keys_sorted (nodup_keys_orderedFields hkeys), ?_⟩
    intro f hf
    have hmem := (Entries.perm_sorted (orderedFields fields)).symm.subset hf
    rw [orderedFields_eq] at hmem
    obtain ⟨g, hg, rfl⟩ := List.mem_map.1 hmem
    exact ih g hg (hvalues g hg)
  | other j hj =>
    cases j with
    | str t => rwa [ordered_str]
    | obj fields => cases hj
    | null | bool _ | int _ | float _ | arr _ => cases h.2

/-- Two objects have one ordered form exactly if, name by name, their values have. -/
theorem ordered_obj_eq_iff {a b : Catalog} (ha : (Entries.keys a).Nodup)
    (hb : (Entries.keys b).Nodup) :
    ordered (.obj a) = ordered (.obj b) ↔
      ∀ name, (Entries.get? a name).map ordered = (Entries.get? b name).map ordered := by
  rw [ordered, ordered, Json.obj.injEq, Entries.sorted_eq_sorted_iff (nodup_keys_orderedFields ha)
    (nodup_keys_orderedFields hb)]
  simp only [get?_orderedFields]

/-- Values that differ at most in the order of names have one ordered form. -/
theorem Alike.ordered_eq {a b : Json} (h : Alike a b) (ha : DistinctAt a) (hb : DistinctAt b) :
    ordered a = ordered b := by
  induction h with
  | text t => rfl
  | @object a b names values ih =>
    refine (ordered_obj_eq_iff (distinctFields_iff.1 ha).1 (distinctFields_iff.1 hb).1).2 ?_
    intro name
    have hname := names name
    unfold Entries.has at hname
    cases hv : Entries.get? a name with
    | none =>
      rw [hv] at hname
      rw [Option.isNone_iff_eq_none.1 (Option.isSome_eq_false_iff.1 hname.symm)]
    | some v =>
      rw [hv] at hname
      obtain ⟨w, hw⟩ := Option.isSome_iff_exists.1 hname.symm
      rw [hw, Option.map_some, Option.map_some,
        ih name v w hv hw (distinctAt_of_get? ha hv) (distinctAt_of_get? hb hw)]

/-- The ordered form tells what kind of value it is the form of. -/
theorem isObject_ordered (j : Json) : (ordered j).isObject = j.isObject := by
  cases j <;> simp [ordered, Json.isObject]

/-- What is clean and no object is a text. -/
theorem exists_str_of_isCleanValue {j : Json} (h : isCleanValue j = true)
    (hobject : j.isObject = false) : ∃ t, j = .str t := by
  cases j with
  | str t => exact ⟨t, rfl⟩
  | obj fields => cases hobject
  | null | bool _ | int _ | float _ | arr _ => cases h

/-- Mappings with one ordered form differ at most in the order of names. -/
theorem alike_of_ordered_eq {a b : Json} (ha : Mapping a) (hb : Mapping b)
    (h : ordered a = ordered b) : Alike a b := by
  induction a using induct_fields generalizing b with
  | obj fields ih =>
    have hkind : b.isObject = true := by rw [← isObject_ordered b, ← h, isObject_ordered]; rfl
    obtain ⟨fields', rfl⟩ := eq_obj_of_isObject hkind
    obtain ⟨hkeys, hvalues⟩ := mapping_obj_iff.1 ha
    obtain ⟨hkeys', hvalues'⟩ := mapping_obj_iff.1 hb
    have hget := (ordered_obj_eq_iff hkeys hkeys').1 h
    refine .object (fun name => ?_) fun name v w hv hw => ?_
    · have hname := congrArg Option.isSome (hget name)
      rwa [Option.isSome_map, Option.isSome_map] at hname
    · have hvalue := hget name
      rw [hv, hw, Option.map_some, Option.map_some, Option.some.injEq] at hvalue
      have hmem := Entries.mem_of_get? hv
      exact ih _ hmem (hvalues _ hmem) (hvalues' _ (Entries.mem_of_get? hw)) hvalue
  | other a hobject =>
    have hkind : b.isObject = false := by
      rw [← isObject_ordered b, ← h, isObject_ordered, hobject]
    obtain ⟨s, rfl⟩ := exists_str_of_isCleanValue ha.2 hobject
    obtain ⟨t, rfl⟩ := exists_str_of_isCleanValue hb.2 hkind
    rw [ordered_str, ordered_str] at h
    cases h
    exact .text s

/-- Two mappings are the same in order exactly if they are alike. -/
theorem ordered_eq_iff {a b : Json} (ha : Mapping a) (hb : Mapping b) :
    ordered a = ordered b ↔ Alike a b :=
  ⟨alike_of_ordered_eq ha hb, fun h => h.ordered_eq ha.1 hb.1⟩

end Catalog

end Localization
