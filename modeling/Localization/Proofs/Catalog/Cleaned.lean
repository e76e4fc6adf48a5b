import Localization.Proofs.Catalog.Preserving

/-!
# What cleaning keeps

Cleaning keeps every text and every object that is reached through objects alone and, where
forbidden names are dropped, through none of them; it keeps nothing else and moves nothing
(`clean_keeps`). Its leaves are found by going through a document and its clean part together. The
objects, those that lose all their entries among them, are found by reading along a path, which
needs the names of every object to be told apart: a value that is dropped would else bring a later
one of its name to light.
-/

namespace Localization.Catalog

variable {drop : Bool}

/-! ## Paths that are kept -/

/-- Whether a path leads through no name that is dropped. -/
def keeps (drop : Bool) (path : KeyPath) : Bool := path.all fun name => !(drop && isForbidden name)

/-- A path is kept if its first name and the rest of it are. -/
theorem keeps_cons (drop : Bool) (name : Text) (path : KeyPath) :
    keeps drop (name :: path) = (!(drop && isForbidden name) && keeps drop path) := List.all_cons

/-- Whether a path is kept does not depend on the direction it is read in. -/
theorem keeps_reverse (drop : Bool) (path : KeyPath) :
    keeps drop path.reverse = keeps drop path := List.all_reverse

/-- A path through one that is not kept is not kept. -/
theorem keeps_of_prefix {path path' : KeyPath} (h : path <+: path')
    (hkeeps : keeps drop path' = true) : keeps drop path = true := by
  refine List.all_eq_true.2 fun name hname => ?_
  exact List.all_eq_true.1 hkeeps name (h.subset hname)

/-! ## Leaves -/

/-- A value without a clean part has no leaves. -/
theorem leavesAt_of_dropped {j : Json} (h : cleanValue drop j = none) (above : List Text) :
    leavesAt above j = [] := by
  cases j with
  | str t => cases h
  | obj fields =>
    rw [cleanValue] at h
    cases h
  | null | bool _ | int _ | float _ | arr _ => simp [leavesAt]

/-- No leaf below a path that is not kept is kept. -/
theorem filter_leavesAt_eq_nil {above : List Text} (h : keeps drop above = false) (j : Json) :
    (leavesAt above j).filter (fun l => keeps drop l.1) = [] := by
  refine List.filter_eq_nil_iff.2 fun l hl hkeeps => ?_
  have habove := keeps_of_prefix (prefix_of_mem_leavesAt above j l hl) hkeeps
  rw [keeps_reverse, h] at habove
  cases habove

mutual

/-- The leaves of the clean part of a value are its leaves with a path that is kept. -/
theorem leavesAt_cleanValue : ∀ {above : List Text} {j w : Json}, keeps drop above = true →
    cleanValue drop j = some w →
    leavesAt above w = (leavesAt above j).filter fun l => keeps drop l.1
  | above, .str t, w, habove, h => by
    cases h
    have hpath : ∀ l ∈ [(above.reverse, t)], keeps drop l.1 = true :=
      List.forall_mem_singleton.2 ((keeps_reverse drop above).trans habove)
    rw [leavesAt, List.filter_eq_self.2 hpath]
  | above, .obj fields, w, habove, h => by
    rw [cleanValue] at h
    cases h
    exact leavesOf_cleanFields habove fields
  | _, .null, w, _, h | _, .bool _, w, _, h | _, .int _, w, _, h | _, .float _, w, _, h
  | _, .arr _, w, _, h => by
    simp [cleanValue] at h

/-- The leaves of the clean part of fields are their leaves with a path that is kept. -/
theorem leavesOf_cleanFields : ∀ {above : List Text}, keeps drop above = true →
    ∀ fields : List (Text × Json), leavesOf above (cleanFields drop fields) =
      (leavesOf above fields).filter fun l => keeps drop l.1
  | above, _, [] => by
    rw [cleanFields, leavesOf]
    rfl
  | above, habove, (k, v) :: rest => by
    have hrest := leavesOf_cleanFields habove rest
    rw [cleanFields, leavesOf, List.filter_append, ← hrest]
    split
    next w hw =>
      split
      next hdropped =>
        have hbelow : keeps drop (k :: above) = false := by rw [keeps_cons, hdropped]; rfl
        rw [filter_leavesAt_eq_nil hbelow v, List.nil_append]
      next hkept =>
        have hbelow : keeps drop (k :: above) = true := by
          rw [keeps_cons, habove, Bool.eq_false_iff.2 hkept]
          rfl
        rw [leavesOf, leavesAt_cleanValue hbelow hw]
    next hnone => rw [leavesAt_of_dropped hnone, List.filter_nil, List.nil_append]

end

/-! ## Values -/

/-- What a name holds after cleaning. -/
theorem get?_cleanFields {fields : List (Text × Json)} (hn : (Entries.keys fields).Nodup)
    (name : Text) : Entries.get? (cleanFields drop fields) name =
      if drop && isForbidden name then none
      else (Entries.get? fields name).bind (cleanValue drop) := by
  induction fields with
  | nil =>
    rw [cleanFields]
    split <;> rfl
  | cons f rest ih =>
    obtain ⟨k, v⟩ := f
    obtain ⟨hk, hn⟩ := List.nodup_cons.1 hn
    have hrest := ih hn
    by_cases hname : k = name
    · subst hname
      rw [Entries.get?_eq_none hk, Option.bind_none, ite_self] at hrest
      rw [cleanFields, Entries.get?, if_pos rfl, Option.bind_some]
      split
      next w hw =>
        split
        · exact hrest
        · rw [Entries.get?, if_pos rfl, hw]
      next hnone => rw [hrest, hnone, ite_self]
    · rw [Entries.get?, if_neg hname, ← hrest, cleanFields]
      split
      · split
        · rfl
        · rw [Entries.get?, if_neg hname]
      · rfl

/-- Nothing that is kept is read in a value without a clean part. -/
theorem valueAt_of_dropped {j : Json} (h : cleanValue drop j = none) (path : KeyPath) :
    (valueAt j path).bind (cleanValue drop) = none := by
  cases path with
  | nil => exact h
  | cons name path =>
    have hobject : j.isObject = false := by
      cases j with
      | obj fields =>
        rw [cleanValue] at h
        cases h
      | null | bool _ | int _ | float _ | str _ | arr _ => rfl
    rw [valueAt_cons_of_not_isObject hobject, Option.bind_none]

/-- What the clean part of a value holds at a path is the clean part of what the value holds there,
if the path is kept. -/
theorem valueAt_of_cleaned {j w : Json} (hj : DistinctAt j) (h : cleanValue drop j = some w)
    (path : KeyPath) : valueAt w path =
      if keeps drop path then (valueAt j path).bind (cleanValue drop) else none := by
  induction path generalizing j w with
  | nil => exact h.symm
  | cons name path ih =>
    cases j with
    | obj fields =>
      rw [cleanValue] at h
      cases h
      rw [valueAt_obj_cons, valueAt_obj_cons, get?_cleanFields (distinctFields_iff.1 hj).1,
        keeps_cons]
      cases hdropped : drop && isForbidden name with
      | true => rfl
      | false =>
        simp only [Bool.false_eq_true, if_false, Bool.not_false, Bool.true_and]
        cases hget : Entries.get? fields name with
        | none => simp
        | some v =>
          rw [Option.bind_some, Option.bind_some]
          cases hv : cleanValue drop v with
          | none => rw [Option.bind_none, valueAt_of_dropped hv, ite_self]
          | some w => exact ih (distinctAt_of_get? hj hget) hv
    | str t =>
      cases h
      exact (ite_self _).symm
    | null | bool _ | int _ | float _ | arr _ => simp [cleanValue] at h

/-- The clean part of a value is an object exactly if the value is one. -/
theorem exists_cleanValue_obj_iff {j : Json} :
    (∃ fields, cleanValue drop j = some (.obj fields)) ↔ ∃ fields, j = .obj fields := by
  cases j with
  | obj fields => exact iff_of_true ⟨_, by rw [cleanValue]⟩ ⟨_, rfl⟩
  | null | bool _ | int _ | float _ | str _ | arr _ =>
    exact iff_of_false (by simp [cleanValue]) nofun

/-- The objects of the clean part of fields are their objects with a path that is kept. -/
theorem hasObject_cleanFields_iff {fields : Catalog} (h : fields.Distinct) (path : KeyPath) :
    HasObject (cleanFields drop fields) path ↔ keeps drop path = true ∧ HasObject fields path := by
  have hclean : cleanValue drop (.obj fields) = some (.obj (cleanFields drop fields)) := by
    rw [cleanValue]
  have hat := valueAt_of_cleaned (j := .obj fields) h hclean path
  unfold HasObject at?
  rw [hat]
  cases keeps drop path with
  | false => exact iff_of_false nofun fun hobject => nomatch hobject.1
  | true =>
    rw [if_pos rfl, and_iff_right rfl]
    cases valueAt (.obj fields) path with
    | none => exact Iff.rfl
    | some j =>
      simp only [Option.bind_some, Option.some.injEq]
      exact exists_cleanValue_obj_iff

/-! ## Cleaning again -/

mutual

/-- The clean part of a value is its own clean part. -/
theorem cleanValue_cleanValue : ∀ {j w : Json}, cleanValue drop j = some w →
    cleanValue drop w = some w
  | .str t, w, h => by
    cases h
    rw [cleanValue]
  | .obj fields, w, h => by
    rw [cleanValue] at h
    cases h
    rw [cleanValue, cleanFields_cleanFields fields]
  | .null, w, h | .bool _, w, h | .int _, w, h | .float _, w, h | .arr _, w, h => by
    simp [cleanValue] at h

/-- Cleaning fields that were cleaned changes nothing. -/
theorem cleanFields_cleanFields : ∀ fields : List (Text × Json),
    cleanFields drop (cleanFields drop fields) = cleanFields drop fields
  | [] => by rw [cleanFields, cleanFields]
  | (k, v) :: rest => by
    have hrest := cleanFields_cleanFields rest
    rw [cleanFields]
    split
    next w hw =>
      split
      · exact hrest
      next hkept =>
        rw [cleanFields, cleanValue_cleanValue hw]
        dsimp only
        rw [if_neg hkept, hrest]
    next => exact hrest

end

/-- **Cleaning gives a clean catalog and drops nothing else.** Take any document; if it is no object
it has no entries. Its clean part is a clean catalog, its leaves are those of the document, in their
order, whose path leads through no name that is dropped, and cleaning it again changes nothing.
Cleaning for storage changes nothing in a clean catalog either. If the names of every object are
told apart, the clean part has an object exactly where the document has one at such a path. -/
theorem clean_keeps (drop : Bool) (x : Json) :
    isClean (.obj (clean drop x)) = true ∧
    (clean drop x).leaves = (below (some x)).leaves.filter (fun l => keeps drop l.1) ∧
    clean drop (.obj (clean drop x)) = clean drop x ∧
    (isClean x = true → .obj (clean false x) = x) ∧
    (DistinctAt x → ∀ path, HasObject (clean drop x) path ↔
      keeps drop path = true ∧ HasObject (below (some x)) path) := by
  refine ⟨areClean_clean drop x, ?_⟩
  cases hobject : x.isObject with
  | true =>
    obtain ⟨fields, rfl⟩ := eq_obj_of_isObject hobject
    refine ⟨leavesOf_cleanFields rfl fields, cleanFields_cleanFields fields, fun hclean => ?_,
      fun hdistinct path => hasObject_cleanFields_iff hdistinct path⟩
    rw [clean, cleanFields_of_areClean hclean]
  | false =>
    have hempty : cleanFields drop [] = [] := by rw [cleanFields]
    have hnone : clean drop x = [] ∧ below (some x) = [] ∧ isClean x = false := by
      cases x with
      | obj fields => cases hobject
      | null | bool _ | int _ | float _ | str _ | arr _ => exact ⟨rfl, rfl, rfl⟩
    obtain ⟨hclean, hbelow, hunclean⟩ := hnone
    rw [hclean, hbelow, hunclean]
    refine ⟨rfl, hempty, nofun, fun _ path => ?_⟩
    have hdistinct : Distinct [] := trivial
    rw [← hasObject_cleanFields_iff hdistinct path, hempty]

/-- A document with values of every kind and a forbidden name. -/
def mixedDocument : Catalog :=
  [("title", "Start"), ("size", .int 1), ("none", .null),
    ("menu", .obj [("items", .arr [.obj [("open", "Open")]]), ("close", "Close")]),
    ("sizes", .obj [("wide", .bool true)]), ("constructor", .obj [("name", "Name")])]

/-- The texts in the list and below the forbidden name go, and the object that loses all it has
stays. -/
theorem clean_keeps_mixed :
    DistinctAt (.obj mixedDocument) ∧ isClean (.obj (clean true (.obj mixedDocument))) = true ∧
    (clean true (.obj mixedDocument)).leaves =
      [((["title"] : KeyPath), ("Start" : Text)), (["menu", "close"], "Close")] ∧
    HasObject (clean true (.obj mixedDocument)) ["sizes"] ∧
    ¬ HasObject (clean true (.obj mixedDocument)) ["constructor"] ∧
    isClean (.obj storedMenu) = true ∧
    Json.obj (clean false (.obj storedMenu)) = .obj storedMenu := by
  have hdistinct : DistinctAt (.obj mixedDocument) := by
    refine distinctFields_iff.2 ⟨by decide, ?_⟩
    simp [mixedDocument, DistinctAt, DistinctFields, (by decide : Text.ofString "items" ≠ "close")]
  obtain ⟨hclean, hleaves, -, -, hobjects⟩ := clean_keeps true (.obj mixedDocument)
  obtain ⟨-, -, -, hsame, -⟩ := clean_keeps false (.obj storedMenu)
  refine ⟨hdistinct, hclean, hleaves, (hobjects hdistinct _).2 ⟨rfl, _, rfl⟩, fun hobject => ?_,
    rfl, hsame rfl⟩
  cases ((hobjects hdistinct _).1 hobject).1

end Localization.Catalog
