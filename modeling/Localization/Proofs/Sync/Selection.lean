import Mathlib.Data.List.Nodup
import Mathlib.Data.List.Pairwise
import Localization.Proofs.Catalog.Paths
import Localization.Proofs.Results
import Localization.Proofs.Text.Utf8
import Localization.Sync.Pending

/-!
# The leaves a sync selects

What a sync selects are leaves of the source catalog in its order, each with its key and the digest
of its text. Whether a leaf is selected depends on two things only: what the target holds at its
path, and the digest recorded for its key. A leaf whose own digest is recorded is not selected,
whatever the target holds.
-/

namespace Localization.Sync

open KeyPath

/-! ## Selections -/

/-- Leaves of a catalog, in its order, with their keys and digests. -/
structure IsSelection (source : Catalog) (ps : List Pending) : Prop where
  leaves : (ps.map fun p => (p.path, p.text)).Sublist source.leaves
  key_eq : ∀ p ∈ ps, p.key = p.path.key
  digest_eq : ∀ p ∈ ps, p.text.digest = .ok p.digest

namespace IsSelection

variable {source : Catalog} {ps qs : List Pending}

/-- Some leaves of a selection are a selection. -/
theorem of_sublist (h : IsSelection source ps) (hs : qs.Sublist ps) : IsSelection source qs where
  leaves := (hs.map _).trans h.leaves
  key_eq p hp := h.key_eq p (hs.subset hp)
  digest_eq p hp := h.digest_eq p (hs.subset hp)

/-- A selected leaf has a name. -/
theorem path_ne_nil (h : IsSelection source ps) {p : Pending} (hp : p ∈ ps) : p.path ≠ [] :=
  Catalog.path_ne_nil_of_mem_leaves
    (h.leaves.subset (List.mem_map_of_mem (f := fun p : Pending => (p.path, p.text)) hp))

/-- Selected leaves do not stand in each other's way. -/
theorem apart (h : IsSelection source ps) (hd : source.Distinct) :
    ps.Pairwise fun p q => Apart p.path q.path := by
  have hleaves : (ps.map fun p => (p.path, p.text)).Pairwise fun a b => Apart a.1 b.1 :=
    (Catalog.leaves_apart hd).sublist h.leaves
  rwa [List.pairwise_map] at hleaves

/-- Two selected leaves are apart or the same. -/
theorem apart_of_ne (h : IsSelection source ps) (hd : source.Distinct) {p q : Pending}
    (hp : p ∈ ps) (hq : q ∈ ps) (hne : p ≠ q) : Apart p.path q.path := by
  have : Std.Symm fun p q : Pending => Apart p.path q.path := ⟨fun _ _ hap => hap.symm⟩
  exact (h.apart hd).forall hp hq hne

/-- Where leaves have keys of their own, so have selected ones. -/
theorem keys_nodup (h : IsSelection source ps) (hk : source.leafKeys.Nodup) :
    (ps.map (·.key)).Nodup := by
  have hkeys : ps.map (·.key) = (ps.map fun p => (p.path, p.text)).map fun l => l.1.key := by
    rw [List.map_map]
    exact List.map_congr_left h.key_eq
  rw [hkeys]
  exact (h.leaves.map _).nodup hk

end IsSelection

/-- The leaves that are not blank are a selection. -/
theorem candidates_isSelection {source : Catalog} {cs : List Pending}
    (h : candidates source.leaves = .ok cs) : IsSelection source cs := by
  suffices hall : ∀ {ls : List (KeyPath × Text)} {cs : List Pending}, candidates ls = .ok cs →
      (cs.map fun p => (p.path, p.text)).Sublist ls ∧
        ∀ p ∈ cs, p.key = p.path.key ∧ p.text.digest = .ok p.digest by
    obtain ⟨hs, hp⟩ := hall h
    exact ⟨hs, fun p hm => (hp p hm).1, fun p hm => (hp p hm).2⟩
  intro ls
  induction ls with
  | nil =>
    intro cs h
    cases h
    exact ⟨.slnil, nofun⟩
  | cons l rest ih =>
    obtain ⟨path, text⟩ := l
    intro cs h
    unfold candidates at h
    split at h
    · obtain ⟨hs, hp⟩ := ih h
      exact ⟨hs.cons _, hp⟩
    · obtain ⟨digest, hdig, h⟩ := bind_eq_ok.1 h
      obtain ⟨cs', hrest, h⟩ := bind_eq_ok.1 h
      cases h
      obtain ⟨hs, hp⟩ := ih hrest
      refine ⟨hs.cons_cons _, fun p hm => ?_⟩
      rcases List.mem_cons.1 hm with rfl | hm
      · exact ⟨rfl, hdig⟩
      · exact hp p hm

/-- What is left to translate is chosen among the leaves that are not blank. -/
theorem pending_eq_ok {again : Bool} {hashes : Hashes} {source target : Catalog}
    {ps : List Pending} :
    pending again hashes source target = .ok ps ↔
      ∃ cs, candidates source.leaves = .ok cs ∧ ps = cs.filter (isOpen again hashes target) := by
  unfold pending
  cases candidates source.leaves with
  | error e => simp [Except.map]
  | ok cs => simp [Except.map, eq_comm]

/-- The leaves that are due are a selection of the source. -/
theorem pending_isSelection {again : Bool} {hashes : Hashes} {source target : Catalog}
    {ps : List Pending} (h : pending again hashes source target = .ok ps) :
    IsSelection source ps := by
  obtain ⟨cs, hcs, rfl⟩ := pending_eq_ok.1 h
  exact (candidates_isSelection hcs).of_sublist List.filter_sublist

/-- Where all texts of the source have a UTF-8 form, a selection is made. -/
theorem exists_pending {source : Catalog} (h : ∀ l ∈ source.leaves, l.2.Encodable) (again : Bool)
    (hashes : Hashes) (target : Catalog) :
    ∃ ps, pending again hashes source target = .ok ps := by
  suffices hall : ∀ ls : List (KeyPath × Text), (∀ l ∈ ls, l.2.Encodable) →
      ∃ cs, candidates ls = .ok cs by
    obtain ⟨cs, hcs⟩ := hall source.leaves h
    exact ⟨_, pending_eq_ok.2 ⟨cs, hcs, rfl⟩⟩
  intro ls hls
  induction ls with
  | nil => exact ⟨[], rfl⟩
  | cons l ls ih =>
    obtain ⟨path, text⟩ := l
    obtain ⟨cs, hcs⟩ := ih fun l hl => hls l (List.mem_cons_of_mem _ hl)
    obtain ⟨bytes, hbytes⟩ := Utf8.exists_encodeFrom (hls _ List.mem_cons_self) 0
    have hdigest : text.digest = .ok (Digest.Md5.hexDigest bytes) := by
      rw [Text.digest, Utf8.encode, hbytes]
      rfl
    unfold candidates
    split
    · exact ⟨cs, hcs⟩
    · exact ⟨⟨path.key, path, text, Digest.Md5.hexDigest bytes⟩ :: cs, by rw [hdigest, hcs]; rfl⟩

/-! ## What decides -/

/-- A digest agrees with the one recorded under its key. -/
theorem Hashes.agree_of_get? {h : Hashes} {key digest : Text}
    (hget : Entries.get? h key = some (.str digest)) : h.agree key digest = true := by
  simp [Hashes.agree, hget, Json.same]

/-- A leaf whose digest is recorded has not changed. -/
theorem not_hasChanged_of_get? {h : Hashes} {key digest : Text}
    (hget : Entries.get? h key = some (.str digest)) : hasChanged h key digest = false := by
  simp [hasChanged, Hashes.recorded?, hget, Json.same]

/-- Whether a leaf is selected depends on what the target holds at its path and on the digest
recorded for its key. -/
theorem isOpen_congr {again : Bool} {h h' : Hashes} {d d' : Catalog} {p : Pending}
    (hat : d'.at? p.path = d.at? p.path)
    (hget : Entries.get? h' p.key = Entries.get? h p.key) :
    isOpen again h' d' p = isOpen again h d p := by
  have htranslated : isTranslated d' p.path p.text = isTranslated d p.path p.text := by
    unfold isTranslated
    rw [hat]
  have hrecorded : h'.recorded? p.key = h.recorded? p.key := by
    unfold Hashes.recorded?
    rw [hget]
  have hchanged : hasChanged h' p.key p.digest = hasChanged h p.key p.digest := by
    unfold hasChanged
    rw [hrecorded]
  have hagree : h'.agree p.key p.digest = h.agree p.key p.digest := by
    unfold Hashes.agree
    rw [hget]
  unfold isOpen
  rw [htranslated, hchanged, hagree]

/-- A leaf whose own digest is recorded is not selected. Where the target holds another text, the
digest tells that the source did not change; where it holds none, or the source's own text, the
digest tells that the leaf was translated before. -/
theorem isOpen_of_recorded {again : Bool} {h : Hashes} {p : Pending}
    (hget : Entries.get? h p.key = some (.str p.digest)) (d : Catalog) :
    isOpen again h d p = false := by
  unfold isOpen
  split
  · rw [not_hasChanged_of_get? hget, Bool.and_false]
  · rw [Hashes.agree_of_get? hget, Bool.not_true]

end Localization.Sync
