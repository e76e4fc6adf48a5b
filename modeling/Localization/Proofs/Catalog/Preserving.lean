import Localization.Proofs.Catalog.Merge

/-!
# What merging keeps and adds

Merging enters the objects that two catalogs have at one path together, so what the result holds at
a path is known from what the two hold there and above it (`at?_merge`): a value of the old catalog
stays, and is merged if both have an object; a value of the new one is taken over where the old one
holds nothing, unless a text of the old one stands on the way. Leaves, names and their order follow.
A second merge finds every name there with a value that the new one adds nothing to
(`merge_merge`). This needs the new catalog to have no forbidden names: what it brings is taken over
as it is the first time, and merged with itself the second time.
-/

namespace Localization.Catalog

/-! ## Values on the way -/

/-- Something that is no object stands on the way to a path. -/
def Blocks (d : Catalog) (path : KeyPath) : Prop :=
  ∃ above, above <+: path ∧ above ≠ path ∧ ∃ j, d.at? above = some j ∧ j.isObject = false

/-- An object has fields. -/
theorem eq_obj_of_isObject {j : Json} (h : j.isObject = true) : ∃ fields, j = .obj fields := by
  cases j with
  | obj fields => exact ⟨fields, rfl⟩
  | null | bool _ | int _ | float _ | str _ | arr _ => cases h

/-- Nothing is read below a value that is no object. -/
theorem valueAt_cons_of_not_isObject {j : Json} (h : j.isObject = false) (name : Text)
    (path : KeyPath) : valueAt j (name :: path) = none := by
  cases j with
  | obj fields => cases h
  | null | bool _ | int _ | float _ | str _ | arr _ => rfl

/-- What is read along a path is read along its second part below its first. -/
theorem valueAt_append (j : Json) (path below : KeyPath) :
    valueAt j (path ++ below) = (valueAt j path).bind fun inner => valueAt inner below := by
  induction path generalizing j with
  | nil => rfl
  | cons name path ih =>
    cases hobject : j.isObject with
    | false =>
      rw [List.cons_append, valueAt_cons_of_not_isObject hobject,
        valueAt_cons_of_not_isObject hobject]
      rfl
    | true =>
      obtain ⟨fields, rfl⟩ := eq_obj_of_isObject hobject
      rw [List.cons_append, valueAt_obj_cons, valueAt_obj_cons]
      cases Entries.get? fields name with
      | none => rfl
      | some inner => exact ih inner

/-- What stands in an object blocks the paths below it, and so does what blocks them in there. -/
theorem blocks_cons_iff {d : Catalog} {name : Text} {path : KeyPath} :
    d.Blocks (name :: path) ↔ ∃ j, Entries.get? d name = some j ∧
      (j.isObject = false ∧ path ≠ [] ∨ ∃ fields, j = .obj fields ∧ Blocks fields path) := by
  constructor
  · rintro ⟨above, hprefix, hne, j, hat, hj⟩
    cases above with
    | nil =>
      cases hat
      cases hj
    | cons first above =>
      obtain ⟨rfl, hbelow⟩ := List.cons_prefix_cons.1 hprefix
      have habove : above ≠ path := fun heq => hne (congrArg _ heq)
      rw [at?_cons] at hat
      obtain ⟨inner, hinner, hat⟩ := Option.bind_eq_some_iff.1 hat
      refine ⟨inner, hinner, ?_⟩
      cases hobject : inner.isObject with
      | true =>
        obtain ⟨fields, rfl⟩ := eq_obj_of_isObject hobject
        exact .inr ⟨fields, rfl, above, hbelow, habove, j, hat, hj⟩
      | false =>
        refine .inl ⟨rfl, fun hpath => habove ?_⟩
        rw [hpath] at hbelow ⊢
        exact List.prefix_nil.1 hbelow
  · rintro ⟨j, hget, ⟨hj, hpath⟩ | ⟨fields, rfl, above, hprefix, hne, inner, hat, hinner⟩⟩
    · refine ⟨[name], List.cons_prefix_cons.2 ⟨rfl, List.nil_prefix⟩, ?_, j, ?_, hj⟩
      · exact fun heq => hpath (List.cons.inj heq).2.symm
      · rw [at?_cons, hget]
        rfl
    · refine ⟨name :: above, List.cons_prefix_cons.2 ⟨rfl, hprefix⟩, ?_, inner, ?_, hinner⟩
      · exact fun heq => hne (List.cons.inj heq).2
      · rw [at?_cons, hget]
        exact hat

/-! ## Reading after merging -/

/-- What becomes of a value when something comes in for it, or nothing does. -/
def joined (old : Json) : Option Json → Json
  | some new => mergeValue old new
  | none => old

/-- What is no object stays as it is in a merge. -/
theorem mergeValue_of_not_isObject {old : Json} (h : old.isObject = false) (new : Json) :
    mergeValue old new = old := by
  cases new with
  | obj fields =>
    cases old with
    | obj existing => cases h
    | null | bool _ | int _ | float _ | str _ | arr _ => simp only [mergeValue]
  | null | bool _ | int _ | float _ | str _ | arr _ => simp only [mergeValue]

/-- What is no object stays as it is, whatever comes in. -/
theorem joined_of_not_isObject {old : Json} (h : old.isObject = false) (new : Option Json) :
    joined old new = old := by
  cases new with
  | none => rfl
  | some new => exact mergeValue_of_not_isObject h new

/-- What comes in and is no object changes nothing that is there. -/
theorem mergeValue_of_new_not_isObject (old : Json) {new : Json} (h : new.isObject = false) :
    mergeValue old new = old := by
  cases new with
  | obj fields => cases h
  | null | bool _ | int _ | float _ | str _ | arr _ => simp only [mergeValue]

/-- A merge makes no object of anything, and nothing else of an object. -/
theorem isObject_joined (old : Json) (new : Option Json) :
    (joined old new).isObject = old.isObject := by
  cases hobject : old.isObject with
  | false => rwa [joined_of_not_isObject hobject]
  | true =>
    obtain ⟨existing, rfl⟩ := eq_obj_of_isObject hobject
    match new with
    | none => rfl
    | some (.obj incoming) => rw [joined, mergeValue]; rfl
    | some .null | some (.bool _) | some (.int _) | some (.float _) | some (.str _)
    | some (.arr _) => rw [joined, mergeValue_of_new_not_isObject _ rfl]; rfl

/-- What a merged catalog holds at a path without forbidden names, in three cases: the old one holds
something there, something of the old one is in the way, or neither. -/
inductive Outcome (existing incoming : Catalog) (path : KeyPath) : Option Json → Prop
  | kept {old : Json} (hold : existing.at? path = some old) :
      Outcome existing incoming path (some (joined old (incoming.at? path)))
  | blocked (hold : existing.at? path = none) (hblocks : existing.Blocks path) :
      Outcome existing incoming path none
  | added (hold : existing.at? path = none) (hfree : ¬ existing.Blocks path) :
      Outcome existing incoming path (incoming.at? path)

/-- At a path that was there, the outcome is what was there joined with what comes in. -/
theorem Outcome.eq_of_some {existing incoming : Catalog} {path : KeyPath} {found : Option Json}
    (h : Outcome existing incoming path found) {old : Json} (hat : existing.at? path = some old) :
    found = some (joined old (incoming.at? path)) := by
  cases h with
  | kept hold => rw [Option.some.inj (hold.symm.trans hat)]
  | blocked hold | added hold =>
    rw [hat] at hold
    cases hold

/-- What merging two objects with one name gives is what merging the catalogs gives below it. -/
theorem Outcome.under {existing incoming below below' : Catalog} {name : Text} {path : KeyPath}
    {found : Option Json} (hold : Entries.get? existing name = some (.obj below))
    (hnew : Entries.get? incoming name = some (.obj below')) (h : Outcome below below' path found) :
    Outcome existing incoming (name :: path) found := by
  have hat : existing.at? (name :: path) = below.at? path := by rw [at?_cons, hold]; rfl
  have hat' : incoming.at? (name :: path) = below'.at? path := by rw [at?_cons, hnew]; rfl
  have hblocks : existing.Blocks (name :: path) ↔ below.Blocks path := by
    rw [blocks_cons_iff, hold]
    constructor
    · rintro ⟨j, hj, ⟨hobject, -⟩ | ⟨fields, hfields, hblocks⟩⟩
      · cases hj
        cases hobject
      · cases hj
        cases hfields
        exact hblocks
    · intro h
      exact ⟨_, rfl, .inr ⟨below, rfl, h⟩⟩
  cases h with
  | kept hbelow => exact hat' ▸ .kept (hat.trans hbelow)
  | blocked hbelow hblock => exact .blocked (hat.trans hbelow) (hblocks.2 hblock)
  | added hbelow hfree => exact hat' ▸ .added (hat.trans hbelow) (mt hblocks.1 hfree)

/-- Where nothing comes in at a path, a merged catalog holds what the old one held. -/
theorem Outcome.of_not_incoming {existing incoming : Catalog} {path : KeyPath}
    (h : incoming.at? path = none) : Outcome existing incoming path (existing.at? path) := by
  cases hat : existing.at? path with
  | some old =>
    have hkept : Outcome existing incoming path _ := .kept hat
    rwa [h] at hkept
  | none =>
    by_cases hblocks : existing.Blocks path
    · exact .blocked hat hblocks
    · have hadded : Outcome existing incoming path _ := .added hat hblocks
      rwa [h] at hadded

/-- Below an object of the old catalog, merging goes on with an object of the new one, or leaves the
old one as it is. -/
theorem Outcome.of_object {existing incoming below : Catalog} {name next : Text} {path : KeyPath}
    (hold : Entries.get? existing name = some (.obj below))
    (hmerged : ∀ below', Entries.get? incoming name = some (.obj below') →
      Outcome below below' (next :: path) ((merge below below').at? (next :: path))) :
    Outcome existing incoming (name :: next :: path)
      (valueAt (joined (.obj below) (Entries.get? incoming name)) (next :: path)) := by
  have hat : existing.at? (name :: next :: path) = valueAt (.obj below) (next :: path) := by
    rw [at?_cons, hold]
    rfl
  cases hnew : Entries.get? incoming name with
  | none =>
    have hnone : incoming.at? (name :: next :: path) = none := by
      rw [at?_cons, hnew]
      rfl
    exact hat ▸ .of_not_incoming hnone
  | some new =>
    cases hobject : new.isObject with
    | true =>
      obtain ⟨below', rfl⟩ := eq_obj_of_isObject hobject
      exact .under hold hnew (hmerged below' hnew)
    | false =>
      have hnone : incoming.at? (name :: next :: path) = none := by
        rw [at?_cons, hnew]
        exact valueAt_cons_of_not_isObject hobject next path
      rw [joined, mergeValue_of_new_not_isObject _ hobject]
      exact hat ▸ .of_not_incoming hnone

/-- Below a permitted name, a merge holds what was there joined with what comes in, and what comes
in where nothing was. -/
theorem at?_merge_cons (existing : Catalog) {incoming : Catalog} (hd : incoming.Distinct)
    {name : Text} (hname : isForbidden name = false) (path : KeyPath) :
    (merge existing incoming).at? (name :: path) =
      match Entries.get? existing name with
      | some old => valueAt (joined old (Entries.get? incoming name)) path
      | none => incoming.at? (name :: path) := by
  rw [at?_cons, get?_merge existing (distinctFields_iff.1 hd).1, hname, if_neg Bool.false_ne_true]
  cases Entries.get? existing name with
  | none => rw [at?_cons]
  | some old => cases Entries.get? incoming name <;> rfl

/-- **What a merged catalog holds at a path.** By induction on the path: the objects of both
catalogs are entered together, until one of them has none. -/
theorem at?_merge {existing incoming : Catalog} (hd : incoming.Distinct) {path : KeyPath}
    (hpath : ∀ m ∈ path, isForbidden m = false) :
    Outcome existing incoming path ((merge existing incoming).at? path) := by
  induction path generalizing existing incoming with
  | nil =>
    have hold : existing.at? [] = some (.obj existing) := rfl
    exact .kept hold
  | cons name path ih =>
    obtain ⟨hname, hpath⟩ := List.forall_mem_cons.1 hpath
    rw [at?_merge_cons existing hd hname]
    cases hold : Entries.get? existing name with
    | none =>
      refine .added (by rw [at?_cons, hold]; rfl) fun hblocks => ?_
      obtain ⟨j, hj, -⟩ := blocks_cons_iff.1 hblocks
      rw [hold] at hj
      cases hj
    | some old =>
      have hat : existing.at? (name :: path) = valueAt old path := by rw [at?_cons, hold]; rfl
      dsimp only
      cases path with
      | nil =>
        have hnew : incoming.at? [name] = Entries.get? incoming name := by
          rw [at?_cons]
          cases Entries.get? incoming name <;> rfl
        rw [← hnew]
        exact .kept hat
      | cons next path =>
        cases hobject : old.isObject with
        | false =>
          have hnone := valueAt_cons_of_not_isObject hobject next path
          rw [joined_of_not_isObject hobject, hnone]
          refine .blocked (hat.trans hnone) (blocks_cons_iff.2 ⟨old, hold, ?_⟩)
          exact .inl ⟨hobject, List.cons_ne_nil next path⟩
        | true =>
          obtain ⟨below, rfl⟩ := eq_obj_of_isObject hobject
          exact .of_object hold fun below' hnew => ih (distinctAt_of_get? hd hnew) hpath

/-! ## Names -/

/-- Induction over a value by the fields of its objects. -/
@[elab_as_elim]
theorem induct_fields {motive : Json → Prop}
    (obj : ∀ fields, (∀ f ∈ fields, motive f.2) → motive (.obj fields))
    (other : ∀ j, j.isObject = false → motive j) : ∀ j, motive j
  | .obj fields => obj fields fun f _hf => induct_fields obj other f.2
  | .null => other _ rfl
  | .bool _ => other _ rfl
  | .int _ => other _ rfl
  | .float _ => other _ rfl
  | .str _ => other _ rfl
  | .arr _ => other _ rfl
termination_by j => sizeOf j
decreasing_by
  have hfield : sizeOf f < sizeOf fields := List.sizeOf_lt_of_mem _hf
  obtain ⟨name, value⟩ := f
  simp only [Prod.mk.sizeOf_spec, Json.obj.sizeOf_spec] at hfield ⊢
  omega

/-- A text, or a mapping of texts at every depth. -/
def Mapping (j : Json) : Prop := DistinctAt j ∧ isCleanValue j = true

/-- An object is a mapping if its names are told apart and its values are mappings. -/
theorem mapping_obj_iff {d : Catalog} :
    Mapping (.obj d) ↔ (Entries.keys d).Nodup ∧ ∀ f ∈ d, Mapping f.2 := by
  have hclean : isCleanValue (.obj d) = true ↔ ∀ f ∈ d, isCleanValue f.2 = true := areClean_iff
  have hnames : DistinctAt (.obj d) ↔ (Entries.keys d).Nodup ∧ ∀ f ∈ d, DistinctAt f.2 :=
    distinctFields_iff
  rw [Mapping, hclean, hnames]
  exact ⟨fun h => ⟨h.1.1, fun f hf => ⟨h.1.2 f hf, h.2 f hf⟩⟩,
    fun h => ⟨⟨h.1, fun f hf => (h.2 f hf).1⟩, fun f hf => (h.2 f hf).2⟩⟩

/-- What a mapping holds at a path is a text or a mapping. -/
theorem mapping_of_valueAt {j v : Json} (h : Mapping j) {path : KeyPath}
    (hat : valueAt j path = some v) : Mapping v := by
  induction path generalizing j with
  | nil =>
    cases hat
    exact h
  | cons name path ih =>
    cases hobject : j.isObject with
    | false =>
      rw [valueAt_cons_of_not_isObject hobject] at hat
      cases hat
    | true =>
      obtain ⟨fields, rfl⟩ := eq_obj_of_isObject hobject
      rw [valueAt_obj_cons] at hat
      obtain ⟨inner, hinner, hat⟩ := Option.bind_eq_some_iff.1 hat
      exact ih ((mapping_obj_iff.1 h).2 _ (Entries.mem_of_get? hinner)) hat

/-- A mapping is told by what it holds at its paths: texts and objects. -/
theorem mapping_iff {j : Json} (hd : DistinctAt j) :
    Mapping j ↔ ∀ path v, valueAt j path = some v → v.isText = true ∨ v.isObject = true := by
  constructor
  · intro h path v hat
    have hv := (mapping_of_valueAt h hat).2
    cases v with
    | str t => exact .inl rfl
    | obj fields => exact .inr rfl
    | null | bool _ | int _ | float _ | arr _ => cases hv
  · induction j using induct_fields with
    | obj fields ih =>
      intro h
      obtain ⟨hkeys, hvalues⟩ := distinctFields_iff.1 hd
      refine mapping_obj_iff.2 ⟨hkeys, fun f hf => ih f hf (hvalues f hf) fun path v hat => ?_⟩
      refine h (f.1 :: path) v ?_
      rw [valueAt_obj_cons, Entries.get?_of_mem hkeys hf]
      exact hat
    | other j hj =>
      intro h
      rcases h [] j rfl with htext | hobject
      · exact ⟨hd, by cases j <;> first | rfl | cases htext⟩
      · rw [hj] at hobject
        cases hobject

/-- A property of values that objects hand down to their fields, and keep when fields with wanted
names are set and when forbidden ones are left out. -/
structure Inherited (q : Text → Prop) (P : Json → Prop) : Prop where
  field : ∀ {d : Catalog}, P (.obj d) → ∀ f ∈ d, q f.1 ∧ P f.2
  set : ∀ {d : Catalog} {name : Text} {j : Json}, P (.obj d) → q name → P j →
    P (.obj (Entries.set d name j))
  permitted : ∀ {d : Catalog}, P (.obj d) → P (.obj (permitted d))

namespace Inherited

variable {q : Text → Prop} {P : Json → Prop} (h : Inherited q P)
include h

/-- If every single value that comes in keeps such a property, all of them do. -/
theorem mergeInto_of {incoming : List (Text × Json)} (hnew : ∀ f ∈ incoming, q f.1 ∧ P f.2)
    (hmerge : ∀ f ∈ incoming, ∀ old, P old → P (Catalog.mergeValue old f.2)) {d : Catalog}
    (hd : P (.obj d)) : P (.obj (Catalog.mergeInto d incoming)) := by
  induction incoming generalizing d with
  | nil => rwa [Catalog.mergeInto]
  | cons f rest ih =>
    obtain ⟨k, v⟩ := f
    obtain ⟨⟨hk, hv⟩, hrest⟩ := List.forall_mem_cons.1 hnew
    obtain ⟨hmergeV, hmergeRest⟩ := List.forall_mem_cons.1 hmerge
    rw [Catalog.mergeInto]
    split
    · exact ih hrest hmergeRest hd
    · split
      next => exact ih hrest hmergeRest (h.set hd hk hv)
      next old hget =>
        have hold := (h.field hd _ (Entries.mem_of_get? hget)).2
        exact ih hrest hmergeRest (h.set hd hk (hmergeV old hold))

/-- What is inherited from both values is inherited by their merge. -/
theorem mergeValue {old new : Json} (hold : P old) (hnew : P new) :
    P (Catalog.mergeValue old new) := by
  induction new using induct_fields generalizing old with
  | other new hobject => rwa [mergeValue_of_new_not_isObject old hobject]
  | obj incoming ih =>
    cases hobject : old.isObject with
    | false => rwa [mergeValue_of_not_isObject hobject]
    | true =>
      obtain ⟨existing, rfl⟩ := eq_obj_of_isObject hobject
      have hfields := h.field hnew
      rw [Catalog.mergeValue]
      exact h.mergeInto_of hfields (fun f hf old hold => ih f hf hold (hfields f hf).2)
        (h.permitted hold)

/-- Such a property is kept by all that comes in with it. -/
theorem mergeInto {incoming : List (Text × Json)} (hnew : ∀ f ∈ incoming, q f.1 ∧ P f.2)
    {d : Catalog} (hd : P (.obj d)) : P (.obj (Catalog.mergeInto d incoming)) :=
  h.mergeInto_of hnew (fun f hf _ hold => h.mergeValue hold (hnew f hf).2) hd

end Inherited

/-- Being a mapping is handed down, whatever the names. -/
theorem inherited_mapping : Inherited (fun _ => True) Mapping where
  field h f hf := ⟨trivial, (mapping_obj_iff.1 h).2 f hf⟩
  set h _ hj := ⟨distinct_set h.1 _ hj.1, areClean_set h.2 _ hj.2⟩
  permitted h := by
    obtain ⟨hkeys, hvalues⟩ := mapping_obj_iff.1 h
    exact mapping_obj_iff.2 ⟨(List.filter_sublist.map _).nodup hkeys,
      fun f hf => hvalues f (List.mem_of_mem_filter hf)⟩

/-- Merging mappings gives a mapping. -/
theorem mapping_merge {existing incoming : Catalog} (hold : Mapping (.obj existing))
    (hnew : Mapping (.obj incoming)) : Mapping (.obj (merge existing incoming)) :=
  inherited_mapping.mergeInto (inherited_mapping.field hnew) (inherited_mapping.permitted hold)

/-- The names that come in are put behind those that are there, if they are new and permitted. -/
theorem keys_mergeInto (d : Catalog) {incoming : List (Text × Json)}
    (hn : (Entries.keys incoming).Nodup) :
    Entries.keys (mergeInto d incoming) = Entries.keys d ++ (Entries.keys incoming).filter
      fun k => !isForbidden k && decide (k ∉ Entries.keys d) := by
  induction incoming generalizing d with
  | nil =>
    rw [mergeInto]
    exact (List.append_nil _).symm
  | cons f rest ih =>
    obtain ⟨k, v⟩ := f
    obtain ⟨hk, hn⟩ := List.nodup_cons.1 hn
    have hkeys : Entries.keys ((k, v) :: rest) = k :: Entries.keys rest := rfl
    rw [mergeInto, hkeys]
    split
    next hforbidden => rw [ih d hn, List.filter_cons_of_neg (by simp [hforbidden])]
    next hpermitted =>
      split
      next hget =>
        have hnew : k ∉ Entries.keys d := fun hmem => Entries.get?_ne_none hmem hget
        have hsame : (Entries.keys rest).filter
            (fun m => !isForbidden m && decide (m ∉ Entries.keys d ++ [k])) =
            (Entries.keys rest).filter fun m => !isForbidden m && decide (m ∉ Entries.keys d) := by
          refine List.filter_congr fun m hm => ?_
          have hne : m ≠ k := fun heq => hk (heq ▸ hm)
          simp [hne]
        rw [ih _ hn, Entries.keys_set_of_not_mem d v hnew, hsame,
          List.filter_cons_of_pos (by simp [hpermitted, hnew]), List.append_assoc]
        rfl
      next old hget =>
        have hold : k ∈ Entries.keys d := Entries.mem_keys_of_mem (Entries.mem_of_get? hget)
        rw [ih _ hn, Entries.keys_set_of_mem d _ hold,
          List.filter_cons_of_neg (by simp [hold])]

/-- A merge lets no forbidden name through at the top. -/
theorem permitted_merge (existing : Catalog) {incoming : Catalog}
    (hn : (Entries.keys incoming).Nodup) :
    permitted (merge existing incoming) = merge existing incoming := by
  refine List.filter_eq_self.2 fun f hf => ?_
  have hmem := Entries.mem_keys_of_mem hf
  rw [merge, keys_mergeInto _ hn, List.mem_append] at hmem
  rcases hmem with hmem | hmem
  · obtain ⟨g, hg, heq⟩ := List.mem_map.1 hmem
    exact heq ▸ (List.mem_filter.1 hg).2
  · exact (Bool.and_eq_true_iff.1 (List.mem_filter.1 hmem).2).1

/-! ## Merging again -/

/-- Coming in a second time, a value changes nothing: neither where it was taken over nor where it
was merged. -/
def Absorbed (new : Json) : Prop :=
  mergeValue new new = new ∧ ∀ old, mergeValue (mergeValue old new) new = mergeValue old new

/-- Where every name is there and adds nothing to its value, nothing changes. -/
theorem mergeInto_eq_self {d : Catalog} {incoming : List (Text × Json)}
    (h : ∀ f ∈ incoming, isForbidden f.1 = false →
      ∃ old, Entries.get? d f.1 = some old ∧ mergeValue old f.2 = old) :
    mergeInto d incoming = d := by
  induction incoming with
  | nil => rw [mergeInto]
  | cons f rest ih =>
    obtain ⟨k, v⟩ := f
    obtain ⟨hk, hrest⟩ := List.forall_mem_cons.1 h
    rw [mergeInto]
    split
    · exact ih hrest
    next hpermitted =>
      obtain ⟨old, hget, hsame⟩ := hk (Bool.eq_false_iff.2 hpermitted)
      simp only [hget, hsame, Entries.set_of_get? hget]
      exact ih hrest

/-- Merging a second time what is absorbed changes nothing. -/
theorem merge_merge_of_absorbed (existing : Catalog) {incoming : Catalog}
    (hn : (Entries.keys incoming).Nodup) (h : ∀ f ∈ incoming, Absorbed f.2) :
    merge (merge existing incoming) incoming = merge existing incoming := by
  rw [merge, permitted_merge existing hn]
  refine mergeInto_eq_self fun f hf hpermitted => ?_
  obtain ⟨hself, hagain⟩ := h f hf
  have hget := get?_merge existing hn f.1
  rw [hpermitted, if_neg Bool.false_ne_true, Entries.get?_of_mem hn hf] at hget
  cases hold : Entries.get? existing f.1 with
  | none => exact ⟨f.2, by rw [hget, hold], hself⟩
  | some old => exact ⟨mergeValue old f.2, by rw [hget, hold], hagain old⟩

/-- The names of a catalog are permitted if it holds no forbidden one. -/
theorem not_isForbidden_of_get? {d : Catalog} (h : ¬ d.HoldsForbidden) {name : Text} {j : Json}
    (hget : Entries.get? d name = some j) : isForbidden name = false := by
  by_contra hname
  refine h ⟨[], name, Bool.not_eq_false _ ▸ hname, ?_⟩
  rw [List.nil_append, at?_cons, hget]
  exact Option.some_ne_none j

/-- An object inside a catalog without forbidden names has none either. -/
theorem not_holdsForbidden_of_get? {d fields : Catalog} (h : ¬ d.HoldsForbidden) {name : Text}
    (hget : Entries.get? d name = some (.obj fields)) : ¬ fields.HoldsForbidden := by
  rintro ⟨path, forbidden, hforbidden, hat⟩
  refine h ⟨name :: path, forbidden, hforbidden, ?_⟩
  rw [List.cons_append, at?_cons, hget]
  exact hat

/-- All of a catalog without forbidden names is permitted. -/
theorem permitted_of_not_holdsForbidden {d : Catalog} (hn : (Entries.keys d).Nodup)
    (hfree : ¬ d.HoldsForbidden) : permitted d = d := by
  refine List.filter_eq_self.2 fun f hf => ?_
  rw [not_isForbidden_of_get? hfree (Entries.get?_of_mem hn hf)]
  rfl

/-- Merged with itself, a catalog without forbidden names stays as it is. -/
theorem merge_self_of_absorbed {d : Catalog} (hn : (Entries.keys d).Nodup)
    (hfree : ¬ d.HoldsForbidden) (h : ∀ f ∈ d, Absorbed f.2) : merge d d = d := by
  rw [merge, permitted_of_not_holdsForbidden hn hfree]
  exact mergeInto_eq_self fun f hf _ => ⟨f.2, Entries.get?_of_mem hn hf, (h f hf).1⟩

/-- A value without forbidden names is absorbed. -/
theorem absorbed_of_permitted {new : Json} (hnames : DistinctAt new)
    (hfree : ∀ fields, new = .obj fields → ¬ HoldsForbidden fields) : Absorbed new := by
  induction new using induct_fields with
  | other new hobject =>
    exact ⟨mergeValue_of_new_not_isObject _ hobject,
      fun old => mergeValue_of_new_not_isObject _ hobject⟩
  | obj fields ih =>
    obtain ⟨hkeys, hvalues⟩ := distinctFields_iff.1 hnames
    have hfree := hfree fields rfl
    have hbelow : ∀ f ∈ fields, Absorbed f.2 := by
      intro f hf
      refine ih f hf (hvalues f hf) fun below hbelow => ?_
      exact not_holdsForbidden_of_get? hfree (hbelow ▸ Entries.get?_of_mem hkeys hf)
    refine ⟨?_, fun old => ?_⟩
    · rw [mergeValue]
      exact congrArg Json.obj (merge_self_of_absorbed hkeys hfree hbelow)
    · cases hobject : old.isObject with
      | false => simp only [mergeValue_of_not_isObject hobject]
      | true =>
        obtain ⟨existing, rfl⟩ := eq_obj_of_isObject hobject
        simp only [mergeValue]
        exact congrArg Json.obj (merge_merge_of_absorbed existing hkeys hbelow)

/-- Merging a catalog again changes nothing. -/
theorem merge_merge (existing : Catalog) {incoming : Catalog} (hd : incoming.Distinct)
    (hfree : ¬ incoming.HoldsForbidden) :
    merge (merge existing incoming) incoming = merge existing incoming := by
  obtain ⟨hkeys, hvalues⟩ := distinctFields_iff.1 hd
  refine merge_merge_of_absorbed existing hkeys fun f hf => ?_
  refine absorbed_of_permitted (hvalues f hf) fun fields hfields => ?_
  exact not_holdsForbidden_of_get? hfree (hfields ▸ Entries.get?_of_mem hkeys hf)

/-! ## Catalogs without forbidden names -/

/-- A mapping of texts at every depth, without forbidden names. -/
structure Tidy (d : Catalog) : Prop where
  mapping : Mapping (.obj d)
  permitted : ¬ d.HoldsForbidden

namespace Tidy

variable {d existing incoming : Catalog} {path : KeyPath}

/-- Nothing is at or below a forbidden name. -/
theorem at?_eq_none (h : d.Tidy) {name : Text} (hmem : name ∈ path)
    (hname : isForbidden name = true) : d.at? path = none := by
  obtain ⟨front, back, rfl⟩ := List.append_of_mem hmem
  have hfront : d.at? (front ++ [name]) = none := by
    by_contra hat
    exact h.permitted ⟨front, name, hname, hat⟩
  rw [← List.singleton_append, ← List.append_assoc, at?, valueAt_append, ← at?, hfront]
  rfl

/-- A merge of tidy catalogs is tidy. -/
theorem merge (hold : existing.Tidy) (hnew : incoming.Tidy) : (existing.merge incoming).Tidy where
  mapping := mapping_merge hold.mapping hnew.mapping
  permitted hholds := by
    obtain ⟨path, name, -, hname, hat, -⟩ :=
      (holdsForbidden_merge_iff hnew.mapping.1 hnew.permitted).1 hholds
    exact hold.permitted ⟨path, name, hname, hat⟩

/-- What a merged catalog holds at a path, whatever its names. -/
theorem at?_merge (hold : existing.Tidy) (hnew : incoming.Tidy) (path : KeyPath) :
    Outcome existing incoming path ((existing.merge incoming).at? path) := by
  by_cases hpath : ∀ m ∈ path, isForbidden m = false
  · exact Catalog.at?_merge hnew.mapping.1 hpath
  · push Not at hpath
    obtain ⟨m, hm, hforbidden⟩ := hpath
    have hname : isForbidden m = true := by simpa using hforbidden
    rw [(hold.merge hnew).at?_eq_none hm hname, ← hold.at?_eq_none hm hname]
    exact .of_not_incoming (hnew.at?_eq_none hm hname)

/-- In a mapping of texts, what stands in the way is a text. -/
theorem blocks_iff (h : d.Tidy) : d.Blocks path ↔
    ∃ above, above <+: path ∧ above ≠ path ∧ ∃ t, d.at? above = some (.str t) := by
  refine exists_congr fun above => and_congr_right fun _ => and_congr_right fun _ => ?_
  constructor
  · rintro ⟨j, hat, hj⟩
    obtain ⟨-, hclean⟩ := mapping_of_valueAt h.mapping hat
    cases j with
    | str t => exact ⟨t, hat⟩
    | obj fields => cases hj
    | null | bool _ | int _ | float _ | arr _ => cases hclean
  · rintro ⟨t, hat⟩
    exact ⟨.str t, hat, rfl⟩

/-- The leaves of a merged catalog: those of the old one, and those of the new one that find their
place free. -/
theorem mem_leaves_merge_iff (hold : existing.Tidy) (hnew : incoming.Tidy) {t : Text} :
    (path, t) ∈ (existing.merge incoming).leaves ↔
      (path, t) ∈ existing.leaves ∨
        (path, t) ∈ incoming.leaves ∧ existing.at? path = none ∧
          ∀ above, above <+: path → above ≠ path → ∀ s, existing.at? above ≠ some (.str s) := by
  have hfree : (∀ above, above <+: path → above ≠ path → ∀ s, existing.at? above ≠ some (.str s)) ↔
      ¬ existing.Blocks path := by
    rw [hold.blocks_iff]
    push Not
    rfl
  rw [mem_leaves_iff (hold.merge hnew).mapping.1, mem_leaves_iff hold.mapping.1,
    mem_leaves_iff hnew.mapping.1, hfree]
  have houtcome := hold.at?_merge hnew path
  generalize (existing.merge incoming).at? path = found at houtcome ⊢
  cases houtcome with
  | blocked hat hblocks => simp [hat, hblocks]
  | added hat hblocks => simp [hat, hblocks]
  | @kept old hat =>
    -- What the old catalog holds stays a text or an object, and as a text it stays the same.
    simp only [hat, Option.some.injEq, reduceCtorEq, false_and, and_false, or_false]
    cases hobject : old.isObject with
    | false => rw [joined_of_not_isObject hobject]
    | true =>
      have hjoined := (isObject_joined old (incoming.at? path)).trans hobject
      refine ⟨fun heq => ?_, fun heq => ?_⟩
      · rw [heq] at hjoined
        cases hjoined
      · rw [heq] at hobject
        cases hobject

/-- What is below a path is without forbidden names, too. -/
theorem below (h : d.Tidy) (path : KeyPath) : (below (d.at? path)).Tidy := by
  have hnone : Tidy [] :=
    ⟨⟨trivial, rfl⟩, fun ⟨above, name, _, hat⟩ => hat (by cases above <;> rfl)⟩
  cases hat : d.at? path with
  | none => exact hnone
  | some j =>
    cases hobject : j.isObject with
    | false =>
      cases j with
      | obj fields => cases hobject
      | null | bool _ | int _ | float _ | str _ | arr _ => exact hnone
    | true =>
      obtain ⟨fields, rfl⟩ := eq_obj_of_isObject hobject
      refine ⟨mapping_of_valueAt h.mapping hat, ?_⟩
      rintro ⟨above, name, hname, hbelow⟩
      refine h.permitted ⟨path ++ above, name, hname, ?_⟩
      rw [List.append_assoc, Catalog.at?, valueAt_append, ← Catalog.at?, hat]
      exact hbelow

/-- The names of a merged catalog: those of the old one, then the new ones. -/
theorem keys_merge (hold : existing.Tidy) (hnew : incoming.Tidy) :
    Entries.keys (existing.merge incoming) = Entries.keys existing ++
      (Entries.keys incoming).filter (· ∉ Entries.keys existing) := by
  have hpermitted : Catalog.permitted existing = existing :=
    permitted_of_not_holdsForbidden (distinctFields_iff.1 hold.mapping.1).1 hold.permitted
  obtain ⟨hkeys, -⟩ := mapping_obj_iff.1 hnew.mapping
  rw [Catalog.merge, keys_mergeInto _ hkeys, hpermitted]
  refine congrArg _ (List.filter_congr fun k hk => ?_)
  obtain ⟨j, hj⟩ := Option.ne_none_iff_exists'.1 (Entries.get?_ne_none hk)
  rw [not_isForbidden_of_get? hnew.permitted hj]
  rfl

/-- The names of an object after something came in for it, or nothing did. -/
theorem keys_joined (hold : existing.Tidy) {new : Option Json} (hnew : (Catalog.below new).Tidy)
    {fields : Catalog} (h : joined (.obj existing) new = .obj fields) :
    Entries.keys fields = Entries.keys existing ++
      (Entries.keys (Catalog.below new)).filter (· ∉ Entries.keys existing) := by
  match new with
  | none =>
    cases h
    exact (List.append_nil _).symm
  | some (.obj incoming) =>
    rw [joined, mergeValue] at h
    cases h
    exact hold.keys_merge hnew
  | some .null | some (.bool _) | some (.int _) | some (.float _) | some (.str _)
  | some (.arr _) =>
    rw [joined, mergeValue_of_new_not_isObject _ rfl] at h
    cases h
    exact (List.append_nil _).symm

/-- The names at a place of a merged catalog: those of the old one, then the new ones. -/
theorem keys_at?_merge (hold : existing.Tidy) (hnew : incoming.Tidy) {fields : Catalog}
    (h : (existing.merge incoming).at? path = some (.obj fields)) :
    Entries.keys fields = Entries.keys (Catalog.below (existing.at? path)) ++
      (Entries.keys (Catalog.below (incoming.at? path))).filter
        (· ∉ Entries.keys (Catalog.below (existing.at? path))) := by
  have houtcome := hold.at?_merge hnew path
  rw [h] at houtcome
  generalize hfound : some (Json.obj fields) = found at houtcome
  cases houtcome with
  | blocked => cases hfound
  | added hnone hfree =>
    rw [hnone, ← hfound]
    simp [Catalog.below, Entries.keys]
  | @kept old hkept =>
    have hjoined := (Option.some.inj hfound).symm
    cases hobject : old.isObject with
    | false =>
      rw [joined_of_not_isObject hobject] at hjoined
      rw [hjoined] at hobject
      cases hobject
    | true =>
      obtain ⟨inner, rfl⟩ := eq_obj_of_isObject hobject
      have hinner := hold.below path
      rw [hkept] at hinner ⊢
      exact hinner.keys_joined (hnew.below path) hjoined

end Tidy

/-- **Merging never overwrites and loses nothing.** Let two catalogs be mappings of texts without
forbidden names. Their merge is one, too. Where the old one holds a text it holds that text, and
where the old one holds an object it holds an object. Its leaves are those of the old catalog, and
those of the new one at whose path the old one holds nothing and above which it holds no text. In
every object the names of the old catalog come first, in their order, and then the new ones in
theirs. And merging the new catalog again changes nothing. -/
theorem merge_preserving {existing incoming : Catalog} (hold : existing.Tidy)
    (hnew : incoming.Tidy) :
    (existing.merge incoming).Tidy ∧
    (∀ path t, existing.at? path = some (.str t) →
      (existing.merge incoming).at? path = some (.str t)) ∧
    (∀ path, existing.HasObject path → (existing.merge incoming).HasObject path) ∧
    (∀ path t, (path, t) ∈ (existing.merge incoming).leaves ↔
      (path, t) ∈ existing.leaves ∨
        (path, t) ∈ incoming.leaves ∧ existing.at? path = none ∧
          ∀ above, above <+: path → above ≠ path → ∀ s, existing.at? above ≠ some (.str s)) ∧
    (∀ path fields, (existing.merge incoming).at? path = some (.obj fields) →
      Entries.keys fields = Entries.keys (below (existing.at? path)) ++
        (Entries.keys (below (incoming.at? path))).filter
          (· ∉ Entries.keys (below (existing.at? path)))) ∧
    (existing.merge incoming).merge incoming = existing.merge incoming := by
  refine ⟨hold.merge hnew, fun path t hat => ?_, fun path hobject => ?_, fun path t => ?_,
    fun path fields h => hold.keys_at?_merge hnew h,
    merge_merge existing hnew.mapping.1 hnew.permitted⟩
  · rw [(hold.at?_merge hnew path).eq_of_some hat, joined_of_not_isObject rfl]
  · obtain ⟨fields, hat⟩ := hobject
    obtain ⟨fields', hfields'⟩ := eq_obj_of_isObject
      ((isObject_joined (.obj fields) (incoming.at? path)).trans rfl)
    exact ⟨fields', by rw [(hold.at?_merge hnew path).eq_of_some hat, hfields']⟩
  · exact hold.mem_leaves_merge_iff hnew

/-- A catalog with a text and an object. -/
def storedMenu : Catalog := [("title", "Start"), ("menu", .obj [("open", "Open")])]

/-- A catalog that has an object where the other one has a text, and more in its object. -/
def scannedMenu : Catalog :=
  [("end", "End"), ("menu", .obj [("close", "Close"), ("open", "Other")]),
    ("title", .obj [("long", "Start page")])]

/-- The stored menu is tidy. -/
theorem tidy_storedMenu : storedMenu.Tidy where
  mapping := ⟨⟨by decide, trivial, by decide, ⟨by decide, trivial, trivial⟩, trivial⟩, rfl⟩
  permitted := by
    have hclean : clean true (.obj storedMenu) = storedMenu := rfl
    exact hclean ▸ not_holdsForbidden_clean _

/-- The scanned menu is tidy. -/
theorem tidy_scannedMenu : scannedMenu.Tidy where
  mapping := ⟨⟨by decide, trivial, by decide, ⟨by decide, trivial, by decide, trivial, trivial⟩,
    by decide, ⟨by decide, trivial, trivial⟩, trivial⟩, rfl⟩
  permitted := by
    have hclean : clean true (.obj scannedMenu) = scannedMenu := rfl
    exact hclean ▸ not_holdsForbidden_clean _

/-- The text and the old entry of the object stay, the new entries go behind the old ones, and the
text that would go below a text does not come in. -/
theorem merge_preserving_menu :
    storedMenu.Tidy ∧ scannedMenu.Tidy ∧
    (storedMenu.merge scannedMenu).at? ["title"] = some "Start" ∧
    (storedMenu.merge scannedMenu).at? ["menu", "open"] = some "Open" ∧
    ((["menu", "close"] : KeyPath), ("Close" : Text)) ∈ (storedMenu.merge scannedMenu).leaves ∧
    ((["title", "long"] : KeyPath), ("Start page" : Text)) ∉
      (storedMenu.merge scannedMenu).leaves ∧
    (storedMenu.merge scannedMenu).merge scannedMenu = storedMenu.merge scannedMenu := by
  obtain ⟨-, htexts, -, hleaves, -, hagain⟩ := merge_preserving tidy_storedMenu tidy_scannedMenu
  refine ⟨tidy_storedMenu, tidy_scannedMenu, htexts _ _ rfl, htexts _ _ rfl,
    (hleaves _ _).2 (.inr ⟨?_, rfl, ?_⟩), fun hmem => ?_, hagain⟩
  · exact (mem_leaves_iff tidy_scannedMenu.mapping.1).2 rfl
  · -- Above the new entry are the catalog and its object, and neither is a text.
    intro above habove hne s hat
    match above with
    | [] => cases hat
    | [name] =>
      obtain ⟨rfl, -⟩ := List.cons_prefix_cons.1 habove
      cases hat
    | name :: next :: below => exact hne (habove.eq_of_length_le (by simp))
  · rcases (hleaves _ _).1 hmem with hmem | ⟨-, -, hfree⟩
    · cases (mem_leaves_iff tidy_storedMenu.mapping.1).1 hmem
    · exact hfree ["title"] ⟨["long"], rfl⟩ (by decide) _ rfl

end Localization.Catalog
