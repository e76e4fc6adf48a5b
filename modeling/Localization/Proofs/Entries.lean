import Mathlib.Data.List.Basic
import Mathlib.Data.List.Induction
import Mathlib.Data.List.Nodup
import Localization.Entries

/-!
# Keys of entries

Setting a key never moves another one: the keys stay in the order in which they first came in, and a
new key goes to the end. Where the keys are told apart, which setting keeps, entries are a mapping:
what is read by a key is the one entry with it, in whatever order the entries stand.
-/

namespace Localization.Entries

variable {α : Type}

/-- Setting a key that is present moves nothing. -/
theorem keys_set_of_mem (e : Entries α) {key : Text} (value : α) (h : key ∈ e.keys) :
    (e.set key value).keys = e.keys := by
  induction e with
  | nil => cases h
  | cons p e ih =>
    obtain ⟨k, v⟩ := p
    by_cases hk : k = key
    · simp [set, keys, hk]
    · have hmem : key ∈ keys e := by
        rcases List.mem_cons.1 h with rfl | h
        · exact absurd rfl hk
        · exact h
      simpa [set, keys, hk] using ih hmem

/-- A new entry goes to the end. -/
theorem set_of_not_mem (e : Entries α) {key : Text} (value : α) (h : key ∉ e.keys) :
    e.set key value = e ++ [(key, value)] := by
  induction e with
  | nil => rfl
  | cons p e ih =>
    obtain ⟨k, v⟩ := p
    have hk : k ≠ key := by
      rintro rfl
      exact h (by simp [keys])
    have hmem : key ∉ keys e := fun hm => h (List.mem_cons_of_mem k hm)
    rw [set, if_neg hk, ih hmem, List.cons_append]

/-- A new key goes to the end. -/
theorem keys_set_of_not_mem (e : Entries α) {key : Text} (value : α) (h : key ∉ e.keys) :
    (e.set key value).keys = e.keys ++ [key] := by
  rw [set_of_not_mem e value h, keys, List.map_append]
  rfl

/-- The keys after setting one are the keys before and that one. -/
@[simp] theorem mem_keys_set (e : Entries α) (key : Text) (value : α) (k : Text) :
    k ∈ (e.set key value).keys ↔ k ∈ e.keys ∨ k = key := by
  by_cases h : key ∈ e.keys
  · rw [keys_set_of_mem e value h]
    exact ⟨.inl, fun hk => hk.elim id fun hk => hk ▸ h⟩
  · rw [keys_set_of_not_mem e value h, List.mem_append, List.mem_singleton]

/-- Setting a key keeps keys told apart. -/
theorem nodup_keys_set {e : Entries α} (h : e.keys.Nodup) (key : Text) (value : α) :
    (e.set key value).keys.Nodup := by
  by_cases hmem : key ∈ e.keys
  · rwa [keys_set_of_mem e value hmem]
  · rw [keys_set_of_not_mem e value hmem]
    exact h.append (List.nodup_singleton key) (List.disjoint_singleton.2 hmem)

/-! ## Entries -/

/-- What is among the entries after one was set was there before, or is the one. -/
theorem mem_of_mem_set {e : Entries α} {key : Text} {value : α} {p : Text × α}
    (h : p ∈ e.set key value) : p = (key, value) ∨ p ∈ e := by
  induction e with
  | nil => exact .inl (List.mem_singleton.1 h)
  | cons q e ih =>
    obtain ⟨k, v⟩ := q
    by_cases hk : k = key
    · subst hk
      rw [set, if_pos rfl] at h
      rcases List.mem_cons.1 h with rfl | h
      · exact .inl rfl
      · exact .inr (List.mem_cons_of_mem _ h)
    · rw [set, if_neg hk] at h
      rcases List.mem_cons.1 h with rfl | h
      · exact .inr List.mem_cons_self
      · exact (ih h).imp_right (List.mem_cons_of_mem _)

/-- What is found under a key is one of the entries. -/
theorem mem_of_get? {e : Entries α} {key : Text} {value : α} (h : e.get? key = some value) :
    (key, value) ∈ e := by
  induction e with
  | nil => cases h
  | cons p e ih =>
    obtain ⟨k, v⟩ := p
    rw [get?] at h
    split at h
    next hk =>
      cases h
      exact hk ▸ List.mem_cons_self
    next => exact List.mem_cons_of_mem _ (ih h)

/-- The key of an entry is one of the keys. -/
theorem mem_keys_of_mem {e : Entries α} {p : Text × α} (h : p ∈ e) : p.1 ∈ e.keys :=
  List.mem_map_of_mem h

/-- Nothing is found under a key that is not there. -/
theorem get?_eq_none {e : Entries α} {key : Text} (h : key ∉ e.keys) : e.get? key = none := by
  cases hget : e.get? key with
  | none => rfl
  | some value => exact absurd (mem_keys_of_mem (mem_of_get? hget)) h

/-- Something is found under a key that is there. -/
theorem get?_ne_none {e : Entries α} {key : Text} (h : key ∈ e.keys) : e.get? key ≠ none := by
  induction e with
  | nil => cases h
  | cons p e ih =>
    obtain ⟨k, v⟩ := p
    rw [get?]
    split
    · exact Option.some_ne_none v
    next hk => exact ih ((List.mem_cons.1 h).resolve_left (Ne.symm hk))

/-- A key is there if it is one of the keys. -/
theorem has_iff {e : Entries α} {key : Text} : e.has key = true ↔ key ∈ e.keys := by
  rw [has, Option.isSome_iff_ne_none]
  exact ⟨fun h => not_imp_comm.1 get?_eq_none h, get?_ne_none⟩

/-- Entries whose values were changed are read with the changed values. -/
theorem get?_map {β : Type} (e : Entries α) (f : α → β) (key : Text) :
    get? (e.map fun p => (p.1, f p.2)) key = (e.get? key).map f := by
  induction e with
  | nil => rfl
  | cons p e ih =>
    obtain ⟨k, v⟩ := p
    rw [List.map_cons, get?, get?, ih]
    split <;> rfl

/-- Setting a key changes what is read by that key. -/
theorem get?_set (e : Entries α) (key : Text) (value : α) (other : Text) :
    (e.set key value).get? other = if key = other then some value else e.get? other := by
  split
  next h => rw [← h, get?_set_self]
  next h => exact get?_set_of_ne e value h

/-- Setting a key to the value that it has changes nothing. -/
theorem set_of_get? {e : Entries α} {key : Text} {value : α} (h : e.get? key = some value) :
    e.set key value = e := by
  induction e with
  | nil => cases h
  | cons p e ih =>
    obtain ⟨k, v⟩ := p
    rw [get?] at h
    rw [set]
    split at h
    next hk =>
      cases h
      rw [if_pos hk]
    next hk => rw [if_neg hk, ih h]

/-- Setting a key twice is setting it to the second value. -/
theorem set_set (e : Entries α) (key : Text) (value value' : α) :
    (e.set key value).set key value' = e.set key value' := by
  induction e with
  | nil => exact if_pos rfl
  | cons p e ih =>
    obtain ⟨k, v⟩ := p
    by_cases hk : k = key
    · simp [set, hk]
    · simp [set, hk, ih]

/-- Where keys are told apart, every entry is read by its key. -/
theorem get?_of_mem {e : Entries α} (hn : e.keys.Nodup) {key : Text} {value : α}
    (h : (key, value) ∈ e) : e.get? key = some value := by
  induction e with
  | nil => cases h
  | cons p e ih =>
    obtain ⟨k, v⟩ := p
    obtain ⟨hk, hn⟩ := List.nodup_cons.1 hn
    rcases List.mem_cons.1 h with heq | h
    · cases heq
      rw [get?, if_pos rfl]
    · have hne : k ≠ key := by
        rintro rfl
        exact hk (List.mem_map.2 ⟨_, h, rfl⟩)
      rw [get?, if_neg hne, ih hn h]

/-- Where keys are told apart, the order of entries does not show. -/
theorem get?_of_perm {e e' : Entries α} (hn : e.keys.Nodup) (h : e.Perm e') (key : Text) :
    e'.get? key = e.get? key := by
  have hn' : e'.keys.Nodup := (h.map Prod.fst).nodup_iff.1 hn
  cases hget : e.get? key with
  | some value => exact get?_of_mem hn' (h.subset (mem_of_get? hget))
  | none =>
    cases hget' : e'.get? key with
    | none => rfl
    | some value =>
      rw [get?_of_mem hn (h.symm.subset (mem_of_get? hget'))] at hget
      cases hget

/-- Entries with different keys that are read alike are the same in some order. -/
theorem perm_of_get? {e e' : Entries α} (hn : e.keys.Nodup) (hn' : e'.keys.Nodup)
    (h : ∀ key, e.get? key = e'.get? key) : e.Perm e' := by
  refine (List.perm_ext_iff_of_nodup hn.of_map hn'.of_map).2 fun p => ⟨fun hp => ?_, fun hp => ?_⟩
  · exact mem_of_get? ((h p.1).symm.trans (get?_of_mem hn hp))
  · exact mem_of_get? ((h p.1).trans (get?_of_mem hn' hp))

/-- Sorting entries changes only their order. -/
theorem perm_sorted (e : Entries α) : e.Perm e.sorted := (List.mergeSort_perm e _).symm

/-- Sorted entries have their keys once each, if the entries do. -/
theorem nodup_keys_sorted {e : Entries α} (hn : e.keys.Nodup) : e.sorted.keys.Nodup :=
  ((perm_sorted e).map Prod.fst).nodup_iff.1 hn

/-- Of entries that are chosen by their keys, those that are chosen are read as before. -/
theorem get?_filter (e : Entries α) (p : Text → Bool) (key : Text) :
    get? (e.filter fun f => p f.1) key = if p key then e.get? key else none := by
  induction e with
  | nil => simp [get?]
  | cons f e ih =>
    obtain ⟨k, v⟩ := f
    by_cases hk : k = key
    · subst hk
      by_cases hp : p k = true
      · simp [hp, get?]
      · rw [List.filter_cons_of_neg (by simpa using hp), ih, if_neg hp, if_neg hp]
    · by_cases hp : p k = true
      · rw [List.filter_cons_of_pos (by simpa using hp), get?, if_neg hk, ih, get?, if_neg hk]
      · rw [List.filter_cons_of_neg (by simpa using hp), ih, get?, if_neg hk]

/-! ## Entries out of pairs -/

/-- One more pair is one more write. -/
theorem ofPairs_concat (ps : List (Text × α)) (p : Text × α) :
    ofPairs (ps ++ [p]) = (ofPairs ps).set p.1 p.2 := by
  rw [ofPairs, List.foldl_concat]
  rfl

/-- What is read by a key was one of its pairs. -/
theorem mem_of_get?_ofPairs {ps : List (Text × α)} {key : Text} {value : α}
    (h : (ofPairs ps).get? key = some value) : (key, value) ∈ ps := by
  induction ps using List.reverseRecOn with
  | nil => cases h
  | append_singleton ps p ih =>
    rw [ofPairs_concat] at h
    by_cases hkey : p.1 = key
    · subst hkey
      rw [get?_set_self] at h
      cases h
      exact List.mem_append_right _ List.mem_cons_self
    · rw [get?_set_of_ne _ _ hkey] at h
      exact List.mem_append_left _ (ih h)

/-- The key of every pair is there. -/
theorem exists_get?_ofPairs {ps : List (Text × α)} {key : Text} {value : α}
    (h : (key, value) ∈ ps) : ∃ value', (ofPairs ps).get? key = some value' := by
  induction ps using List.reverseRecOn with
  | nil => cases h
  | append_singleton ps p ih =>
    rw [ofPairs_concat]
    by_cases hkey : p.1 = key
    · subst hkey
      exact ⟨p.2, get?_set_self _ _ _⟩
    · rw [get?_set_of_ne _ _ hkey]
      rcases List.mem_append.1 h with h | h
      · exact ih h
      · exact absurd (congrArg Prod.fst (List.mem_singleton.1 h)).symm hkey

/-- Entries made of pairs have each key once. -/
theorem nodup_keys_ofPairs (ps : List (Text × α)) : (ofPairs ps).keys.Nodup := by
  induction ps using List.reverseRecOn with
  | nil => exact List.nodup_nil
  | append_singleton ps p ih =>
    rw [ofPairs_concat]
    exact nodup_keys_set ih p.1 p.2

/-- The keys of entries made of pairs are those of the pairs. -/
theorem mem_keys_ofPairs {ps : List (Text × α)} {key : Text} :
    key ∈ (ofPairs ps).keys ↔ ∃ p ∈ ps, p.1 = key := by
  induction ps using List.reverseRecOn with
  | nil => exact ⟨nofun, fun ⟨_, hp, _⟩ => (nomatch hp)⟩
  | append_singleton ps p ih =>
    rw [ofPairs_concat, mem_keys_set, ih]
    simp only [List.mem_append, List.mem_singleton, or_and_right, exists_or, exists_eq_left]
    exact or_congr_right eq_comm

/-- No value is lost exactly if pairs with one key have one value. -/
theorem get?_ofPairs_iff (ps : List (Text × α)) :
    (∀ p ∈ ps, (ofPairs ps).get? p.1 = some p.2) ↔
      ∀ p ∈ ps, ∀ q ∈ ps, p.1 = q.1 → p.2 = q.2 := by
  constructor
  · intro h p hp q hq hkey
    have hread := h p hp
    rw [hkey, h q hq] at hread
    exact (Option.some.inj hread).symm
  · intro h p hp
    obtain ⟨value, hvalue⟩ := exists_get?_ofPairs hp
    have heq : value = p.2 := h _ (mem_of_get?_ofPairs hvalue) p hp rfl
    rw [hvalue, heq]

end Localization.Entries
