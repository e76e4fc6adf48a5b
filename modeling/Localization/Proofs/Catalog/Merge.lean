import Localization.Catalog.Merge
import Localization.Proofs.Catalog.Clean

/-!
# Merging catalogs and the names it lets through

Merging leaves forbidden names out on both sides of every merge, level by level. What the new
catalog brings has none of them at any depth, since it was cleaned. What the old one had is a
different matter: where the new catalog has no object at a path, the old value at that path is taken
over as it is, with all that is below it. So a forbidden name below a path of the old catalog is
dropped exactly if the new catalog has an object at that path (`at?_merge_forbidden`), and the
catalogs whose merge holds a forbidden name are known (`holdsForbidden_merge_iff`).
-/

namespace Localization.Catalog

/-- An object at some depth of a catalog has a forbidden name. -/
def HoldsForbidden (d : Catalog) : Prop :=
  ∃ (path : KeyPath) (name : Text), isForbidden name = true ∧ d.at? (path ++ [name]) ≠ none

/-- Whether a catalog has an object at a path. -/
def HasObject (d : Catalog) (path : KeyPath) : Prop := ∃ fields, d.at? path = some (.obj fields)

/-! ## Reading after merging -/

/-- What is permitted of a catalog is what it holds under names that are not forbidden. -/
theorem get?_permitted (d : Catalog) (name : Text) :
    Entries.get? (permitted d) name = if isForbidden name then none else Entries.get? d name := by
  rw [permitted, Entries.get?_filter d (fun k => !isForbidden k)]
  cases isForbidden name <;> rfl

/-- What a name holds after others came in: nothing comes in for a forbidden name, what was there is
merged with what comes in for it, and what was not there is taken over. -/
theorem get?_mergeInto (d : Catalog) {incoming : List (Text × Json)}
    (hn : (Entries.keys incoming).Nodup) (name : Text) :
    Entries.get? (mergeInto d incoming) name =
      if isForbidden name then Entries.get? d name
      else
        match Entries.get? d name, Entries.get? incoming name with
        | some old, some new => some (mergeValue old new)
        | some old, none => some old
        | none, new => new := by
  induction incoming generalizing d with
  | nil =>
    rw [mergeInto]
    cases Entries.get? d name <;> simp [Entries.get?]
  | cons f rest ih =>
    obtain ⟨k, v⟩ := f
    obtain ⟨hk, hn⟩ := List.nodup_cons.1 hn
    have hrest : Entries.get? rest k = none := Entries.get?_eq_none hk
    rw [mergeInto]
    split
    next hforbidden =>
      -- The entry is passed over; all it says is that it has another name than the one read.
      rw [ih d hn]
      by_cases hname : k = name
      · rw [← hname, if_pos hforbidden, if_pos hforbidden]
      · rw [Entries.get?, if_neg hname]
    next hforbidden =>
      by_cases hname : k = name
      · subst hname
        rw [if_neg hforbidden, Entries.get?, if_pos rfl]
        cases hget : Entries.get? d k with
        | none =>
          dsimp only
          rw [ih _ hn, if_neg hforbidden, Entries.get?_set_self, hrest]
        | some old =>
          dsimp only
          rw [ih _ hn, if_neg hforbidden, Entries.get?_set_self, hrest]
      · have hset : ∀ w : Json, Entries.get? (mergeInto (Entries.set d k w) rest) name =
            Entries.get? (mergeInto d rest) name := fun w => by
          rw [ih _ hn, ih _ hn, Entries.get?_set_of_ne d w hname]
        rw [Entries.get?, if_neg hname, ← ih d hn]
        cases Entries.get? d k with
        | none => exact hset v
        | some old => exact hset (mergeValue old v)

/-- What a name holds in a merged catalog. -/
theorem get?_merge (existing : Catalog) {incoming : Catalog} (hn : (Entries.keys incoming).Nodup)
    (name : Text) :
    Entries.get? (merge existing incoming) name =
      if isForbidden name then none
      else
        match Entries.get? existing name, Entries.get? incoming name with
        | some old, some new => some (mergeValue old new)
        | some old, none => some old
        | none, new => new := by
  rw [merge, get?_mergeInto _ hn, get?_permitted]
  cases isForbidden name <;> rfl

/-! ## Cleaning -/

/-- What a name holds after forbidden names were dropped has a name that is not forbidden, and is
the clean part of a value. -/
theorem of_get?_cleanFields {fields : List (Text × Json)} {name : Text} {w : Json}
    (h : Entries.get? (cleanFields true fields) name = some w) :
    isForbidden name = false ∧ ∃ v, cleanValue true v = some w := by
  induction fields with
  | nil =>
    rw [cleanFields] at h
    cases h
  | cons f rest ih =>
    obtain ⟨k, v⟩ := f
    rw [cleanFields] at h
    split at h
    next w' hw =>
      split at h
      · exact ih h
      next hforbidden =>
        rw [Entries.get?] at h
        split at h
        next hk =>
          cases h
          subst hk
          exact ⟨by simpa using hforbidden, v, hw⟩
        · exact ih h
    · exact ih h

/-- The clean part of a value has a forbidden name at no depth. -/
theorem valueAt_cleanValue {j w : Json} (h : cleanValue true j = some w) (path : KeyPath)
    {name : Text} (hname : isForbidden name = true) : valueAt w (path ++ [name]) = none := by
  induction path generalizing j w with
  | nil =>
    cases j with
    | obj fields =>
      rw [cleanValue] at h
      cases h
      rw [List.nil_append, valueAt_obj_cons]
      cases hget : Entries.get? (cleanFields true fields) name with
      | none => rfl
      | some below =>
        rw [(of_get?_cleanFields hget).1] at hname
        cases hname
    | str t =>
      cases h
      rfl
    | null | bool _ | int _ | float _ | arr _ => simp [cleanValue] at h
  | cons first path ih =>
    cases j with
    | obj fields =>
      rw [cleanValue] at h
      cases h
      rw [List.cons_append, valueAt_obj_cons]
      cases hget : Entries.get? (cleanFields true fields) first with
      | none => rfl
      | some below =>
        obtain ⟨-, v, hv⟩ := of_get?_cleanFields hget
        exact ih hv
    | str t =>
      cases h
      rfl
    | null | bool _ | int _ | float _ | arr _ => simp [cleanValue] at h

/-- What comes in from outside has a forbidden name at no depth. -/
theorem not_holdsForbidden_clean (j : Json) : ¬ (clean true j).HoldsForbidden := by
  rintro ⟨path, name, hname, hat⟩
  refine hat ?_
  cases j with
  | obj fields => exact valueAt_cleanValue (j := .obj fields) (by rw [cleanValue]; rfl) path hname
  | null | bool _ | int _ | float _ | str _ | arr _ =>
    cases path with
    | nil => rfl
    | cons first path => rfl

/-- On the way to a forbidden name there is a first one. -/
theorem exists_first_forbidden {j : Json} {path : KeyPath} {name : Text}
    (hname : isForbidden name = true) (h : valueAt j (path ++ [name]) ≠ none) :
    ∃ (above : KeyPath) (first : Text), (∀ m ∈ above, isForbidden m = false) ∧
      isForbidden first = true ∧ valueAt j (above ++ [first]) ≠ none := by
  induction path generalizing j with
  | nil => exact ⟨[], name, nofun, hname, h⟩
  | cons m path ih =>
    cases j with
    | obj fields =>
      rw [List.cons_append, valueAt_obj_cons] at h
      cases hget : Entries.get? fields m with
      | none =>
        rw [hget] at h
        exact absurd rfl h
      | some below =>
        by_cases hm : isForbidden m = true
        · refine ⟨[], m, nofun, hm, ?_⟩
          rw [List.nil_append, valueAt_obj_cons, hget]
          exact Option.some_ne_none below
        · rw [hget] at h
          obtain ⟨above, first, habove, hfirst, hat⟩ := ih h
          refine ⟨m :: above, first, List.forall_mem_cons.2 ⟨by simpa using hm, habove⟩, hfirst, ?_⟩
          rw [List.cons_append, valueAt_obj_cons, hget]
          exact hat
    | null | bool _ | int _ | float _ | str _ | arr _ => exact absurd rfl h

/-! ## Forbidden names -/

/-- A forbidden name that the old catalog has is dropped exactly where the new one has an object. By
induction on the way to it: the objects of both catalogs are entered together, until the new one has
none. -/
theorem at?_merge_forbidden {existing incoming : Catalog} (hd : incoming.Distinct)
    (hfree : ¬ incoming.HoldsForbidden) {path : KeyPath} (hpath : ∀ m ∈ path, isForbidden m = false)
    {name : Text} (hname : isForbidden name = true) :
    (merge existing incoming).at? (path ++ [name]) ≠ none ↔
      existing.at? (path ++ [name]) ≠ none ∧ ¬ incoming.HasObject path := by
  induction path generalizing existing incoming with
  | nil =>
    rw [List.nil_append, at?_cons, get?_merge _ (distinctFields_iff.1 hd).1, if_pos hname]
    exact ⟨fun h => absurd rfl h, fun h => absurd ⟨incoming, rfl⟩ h.2⟩
  | cons m path ih =>
    obtain ⟨hm, hpath⟩ := List.forall_mem_cons.1 hpath
    have hcopied : ∀ {new : Option Json}, Entries.get? incoming m = new →
        (∀ fields, new ≠ some (.obj fields)) → ¬ incoming.HasObject (m :: path) := by
      rintro new hnew hobject ⟨fields, hat⟩
      rw [at?_cons, hnew] at hat
      match new with
      | none => cases hat
      | some (.obj below) => exact hobject below rfl
      | some .null | some (.bool _) | some (.int _) | some (.float _) | some (.str _)
      | some (.arr _) => cases path <;> cases hat
    rw [List.cons_append, at?_cons, at?_cons, get?_merge _ (distinctFields_iff.1 hd).1,
      if_neg (by simp [hm])]
    cases hold : Entries.get? existing m with
    | none =>
      -- What only the new catalog has is free of forbidden names.
      refine ⟨fun h => absurd ⟨m :: path, name, hname, ?_⟩ hfree, fun h => absurd rfl h.1⟩
      rw [List.cons_append, at?_cons]
      exact h
    | some old =>
      cases hnew : Entries.get? incoming m with
      | none => exact (and_iff_left (hcopied hnew nofun)).symm
      | some new =>
        dsimp only
        cases new with
        | obj fields =>
          cases old with
          | obj below =>
            have hbelow : incoming.HasObject (m :: path) ↔ HasObject fields path := by
              rw [HasObject, at?_cons, hnew]
              rfl
            have hfields : ¬ HoldsForbidden fields := by
              rintro ⟨way, forbidden, hforbidden, hat⟩
              refine hfree ⟨m :: way, forbidden, hforbidden, ?_⟩
              rw [List.cons_append, at?_cons, hnew]
              exact hat
            rw [hbelow]
            exact ih (distinctAt_of_get? hd hnew) hfields hpath
          | null | bool _ | int _ | float _ | str _ | arr _ =>
            cases path <;> exact ⟨fun h => absurd rfl h, fun h => absurd rfl h.1⟩
        | null | bool _ | int _ | float _ | str _ | arr _ =>
          exact (and_iff_left (hcopied hnew nofun)).symm

/-- The merge of two catalogs holds a forbidden name exactly if the old one does at a place where
the new one has no object beside it. -/
theorem holdsForbidden_merge_iff {existing incoming : Catalog} (hd : incoming.Distinct)
    (hfree : ¬ incoming.HoldsForbidden) :
    (merge existing incoming).HoldsForbidden ↔
      ∃ (path : KeyPath) (name : Text), (∀ m ∈ path, isForbidden m = false) ∧
        isForbidden name = true ∧ existing.at? (path ++ [name]) ≠ none ∧
        ¬ incoming.HasObject path := by
  constructor
  · rintro ⟨way, forbidden, hforbidden, hat⟩
    obtain ⟨path, name, hpath, hname, hat⟩ := exists_first_forbidden hforbidden hat
    exact ⟨path, name, hpath, hname, (at?_merge_forbidden hd hfree hpath hname).1 hat⟩
  · rintro ⟨path, name, hpath, hname, hat⟩
    exact ⟨path, name, hname, (at?_merge_forbidden hd hfree hpath hname).2 hat⟩

end Localization.Catalog
