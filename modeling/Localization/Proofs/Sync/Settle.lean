import Mathlib.Data.List.Nodup
import Localization.Proofs.Catalog.Paths
import Localization.Proofs.Entries
import Localization.Sync.Run

/-!
# What applying outcomes does

A sync goes through leaves with their outcomes one by one, whatever batches they came in. `settle` is
that walk. It does three things that do not touch each other: the texts that were good are written
(`written`, `writeAll`), their digests are recorded (`recordAll`), and the other leaves are listed
with a reason (`refused`). `settle_eq` takes the walk apart into these; everything that holds of a
sync's result is read off from there.

Leaves that are selected for translation stand apart from each other, since they are leaves of one
catalog. That is why a later write never disturbs an earlier one.
-/

namespace Localization.Sync

open KeyPath

/-! ## The walk over leaves with their outcomes -/

/-- Applies the outcomes of leaves one after another. -/
def settle (check : Bool) (r : Result) (h : Hashes) (answers : List (Pending × Outcome)) :
    Result × Hashes :=
  answers.foldl (fun s a => applyOne check s.1 s.2 a.1 a.2) (r, h)

/-- The leaves whose outcomes are good, with the texts to write. -/
def written (check : Bool) (answers : List (Pending × Outcome)) : List (Pending × Text) :=
  answers.filterMap fun a =>
    match verdict check a.1 a.2 with
    | .ok text => some (a.1, text)
    | .error _ => none

/-- The leaves whose outcomes are no good, with the reasons. -/
def refused (check : Bool) (answers : List (Pending × Outcome)) : List (Pending × Text) :=
  answers.filterMap fun a =>
    match verdict check a.1 a.2 with
    | .ok _ => none
    | .error reason => some (a.1, reason)

/-- A catalog with texts written at the paths of leaves, one after another. -/
def writeAll (d : Catalog) (ws : List (Pending × Text)) : Catalog :=
  ws.foldl (fun d w => d.put w.1.path (.str w.2)) d

/-- The recorded digests after leaves were translated, one after another. -/
def recordAll (h : Hashes) (ws : List (Pending × Text)) : Hashes :=
  ws.foldl (fun h w => h.record w.1.key w.1.digest) h

/-- The failures after leaves were refused, one after another. -/
def failAll (failed : Entries Text) (fs : List (Pending × Text)) : Entries Text :=
  fs.foldl (fun e f => Entries.set e f.1.key f.2) failed

/-- Applying the outcomes of a batch is settling its leaves with them. -/
theorem applyAll_eq_settle (check : Bool) (r : Result) (h : Hashes) (ps : List Pending)
    (os : List Outcome) : applyAll check r h ps os = settle check r h (ps.zip os) := by
  induction ps generalizing r h os with
  | nil => rfl
  | cons p ps ih =>
    cases os with
    | nil => rfl
    | cons o os => exact ih (applyOne check r h p o).1 (applyOne check r h p o).2 os

/-- Leaves are settled in two goes as in one. -/
theorem settle_append (check : Bool) (r : Result) (h : Hashes) (as bs : List (Pending × Outcome)) :
    settle check r h (as ++ bs) =
      settle check (settle check r h as).1 (settle check r h as).2 bs :=
  List.foldl_append

/-- The walk writes what is good, lists what is not, and keeps everything else. -/
theorem settle_eq (check : Bool) (r : Result) (h : Hashes) (answers : List (Pending × Outcome)) :
    settle check r h answers =
      ({ r with
          data := writeAll r.data (written check answers)
          requested := r.requested ++ answers.map (·.1.key)
          translated := r.translated ++ (written check answers).map (·.1.key)
          failed := failAll r.failed (refused check answers) },
        recordAll h (written check answers)) := by
  induction answers generalizing r h with
  | nil => simp [settle, written, refused, writeAll, recordAll, failAll]
  | cons a answers ih =>
    have hstep : settle check r h (a :: answers) =
        settle check (applyOne check r h a.1 a.2).1 (applyOne check r h a.1 a.2).2 answers := rfl
    rw [hstep, ih]
    cases hv : verdict check a.1 a.2 <;>
      simp [applyOne, written, refused, writeAll, recordAll, failAll, hv]

/-- Settling leaves the source locale. -/
theorem settle_source (check : Bool) (r : Result) (h : Hashes)
    (answers : List (Pending × Outcome)) :
    (settle check r h answers).1.source = r.source := by rw [settle_eq]

/-- Settling leaves the target locale. -/
theorem settle_target (check : Bool) (r : Result) (h : Hashes)
    (answers : List (Pending × Outcome)) :
    (settle check r h answers).1.target = r.target := by rw [settle_eq]

/-- Settling does not change whether a run is cancelled. -/
theorem settle_cancelled (check : Bool) (r : Result) (h : Hashes)
    (answers : List (Pending × Outcome)) :
    (settle check r h answers).1.cancelled = r.cancelled := by rw [settle_eq]

/-! ## Good outcomes and the others -/

/-- A text is written for a leaf exactly when the verdict on an answer to it is that text. -/
theorem mem_written {check : Bool} {answers : List (Pending × Outcome)} {w : Pending × Text} :
    w ∈ written check answers ↔ ∃ o, (w.1, o) ∈ answers ∧ verdict check w.1 o = .ok w.2 := by
  obtain ⟨p, t⟩ := w
  simp only [written, List.mem_filterMap, Prod.exists]
  constructor
  · rintro ⟨q, o, hm, hv⟩
    cases hq : verdict check q o with
    | ok text =>
      rw [hq] at hv
      obtain ⟨rfl, rfl⟩ := Prod.mk.injEq .. ▸ Option.some.inj hv
      exact ⟨o, hm, hq⟩
    | error e => rw [hq] at hv; cases hv
  · rintro ⟨o, hm, hv⟩
    exact ⟨p, o, hm, by rw [hv]⟩

/-- A leaf is refused with a reason exactly when that is the verdict on an answer to it. -/
theorem mem_refused {check : Bool} {answers : List (Pending × Outcome)} {f : Pending × Text} :
    f ∈ refused check answers ↔ ∃ o, (f.1, o) ∈ answers ∧ verdict check f.1 o = .error f.2 := by
  obtain ⟨p, t⟩ := f
  simp only [refused, List.mem_filterMap, Prod.exists]
  constructor
  · rintro ⟨q, o, hm, hv⟩
    cases hq : verdict check q o with
    | ok text => rw [hq] at hv; cases hv
    | error e =>
      rw [hq] at hv
      obtain ⟨rfl, rfl⟩ := Prod.mk.injEq .. ▸ Option.some.inj hv
      exact ⟨o, hm, hq⟩
  · rintro ⟨o, hm, hv⟩
    exact ⟨p, o, hm, by rw [hv]⟩

/-- The text to write is that of a successful outcome, is not empty, and keeps the placeholders if
they are checked; with any other outcome there is nothing to write. -/
theorem verdict_eq_ok {check : Bool} {p : Pending} {o : Outcome} {text : Text} :
    verdict check p o = .ok text ↔
      o.success = true ∧ o.text = text ∧ text ≠ [] ∧
        (check = true → Placeholder.survive p.text text = true) := by
  unfold verdict
  split
  next h =>
    simp only [Bool.or_eq_true, Bool.not_eq_true', List.isEmpty_iff] at h
    refine ⟨fun hv => (nomatch hv), ?_⟩
    rintro ⟨hs, rfl, hne, -⟩
    rcases h with h | h
    · rw [hs] at h; cases h
    · exact absurd h hne
  next h =>
    simp only [Bool.or_eq_true, Bool.not_eq_true', List.isEmpty_iff, not_or,
      Bool.not_eq_false] at h
    split
    next hc =>
      simp only [Bool.and_eq_true, Bool.not_eq_true'] at hc
      refine ⟨fun hv => (nomatch hv), ?_⟩
      rintro ⟨-, rfl, -, hp⟩
      rw [hp hc.1] at hc
      cases hc.2
    next hc =>
      constructor
      · intro hv
        injection hv with hv
        subst hv
        refine ⟨h.1, rfl, h.2, fun hcheck => ?_⟩
        simpa [hcheck] using hc
      · rintro ⟨-, rfl, -, -⟩
        rfl

/-- Among leaves that are told apart none is both written and refused. -/
theorem not_refused_of_written {check : Bool} {answers : List (Pending × Outcome)}
    (hn : (answers.map Prod.fst).Nodup) {w f : Pending × Text} (hw : w ∈ written check answers)
    (hf : f ∈ refused check answers) : w.1 ≠ f.1 := by
  intro heq
  obtain ⟨o, ho, hok⟩ := mem_written.1 hw
  obtain ⟨o', ho', herr⟩ := mem_refused.1 hf
  have : (w.1, o) = (f.1, o') := List.inj_on_of_nodup_map hn ho ho' heq
  obtain ⟨-, rfl⟩ := Prod.mk.injEq .. ▸ this
  rw [heq, herr] at hok
  cases hok

/-- Every leaf that was sent is written or refused. -/
theorem written_or_refused (check : Bool) {answers : List (Pending × Outcome)} {p : Pending}
    {o : Outcome} (h : (p, o) ∈ answers) :
    (∃ t, (p, t) ∈ written check answers) ∨ ∃ e, (p, e) ∈ refused check answers := by
  cases hv : verdict check p o with
  | ok t => exact .inl ⟨t, mem_written.2 ⟨o, h, hv⟩⟩
  | error e => exact .inr ⟨e, mem_refused.2 ⟨o, h, hv⟩⟩

/-- The leaves that are written and those that are refused are together the leaves that were
sent. -/
theorem perm_written_refused (check : Bool) (answers : List (Pending × Outcome)) :
    ((written check answers).map Prod.fst ++ (refused check answers).map Prod.fst).Perm
      (answers.map Prod.fst) := by
  induction answers with
  | nil => exact .refl _
  | cons a answers ih =>
    cases hv : verdict check a.1 a.2 with
    | ok t =>
      simp only [written, refused, List.filterMap_cons, hv, List.map_cons, List.cons_append]
      exact ih.cons a.1
    | error e =>
      simp only [written, refused, List.filterMap_cons, hv, List.map_cons]
      exact List.perm_middle.trans (ih.cons a.1)

/-- The leaves that are written are some of those that were sent, in their order. -/
theorem map_fst_written_sublist (check : Bool) (answers : List (Pending × Outcome)) :
    ((written check answers).map Prod.fst).Sublist (answers.map Prod.fst) := by
  induction answers with
  | nil => exact .slnil
  | cons a answers ih =>
    cases hv : verdict check a.1 a.2 with
    | ok t =>
      simp only [written, List.filterMap_cons, hv, List.map_cons]
      exact ih.cons_cons a.1
    | error e =>
      simp only [written, List.filterMap_cons, hv, List.map_cons]
      exact ih.cons a.1

/-! ## Writing, recording, failing -/

/-- Writes at paths apart from a path leave it as it was. -/
theorem at?_writeAll_of_apart (d : Catalog) {ws : List (Pending × Text)} {path : KeyPath}
    (h : ∀ w ∈ ws, Apart w.1.path path) : (writeAll d ws).at? path = d.at? path := by
  induction ws generalizing d with
  | nil => rfl
  | cons w ws ih =>
    have hrest : (writeAll (d.put w.1.path (.str w.2)) ws).at? path =
        (d.put w.1.path (.str w.2)).at? path := ih _ fun v hv => h v (List.mem_cons_of_mem _ hv)
    exact hrest.trans (Catalog.at?_put_of_apart d _ (h w List.mem_cons_self))

/-- Texts written at paths that are apart from each other are all read back. -/
theorem at?_writeAll_of_mem (d : Catalog) {ws : List (Pending × Text)}
    (hap : ws.Pairwise fun v w => Apart v.1.path w.1.path) (hne : ∀ w ∈ ws, w.1.path ≠ [])
    {w : Pending × Text} (hw : w ∈ ws) : (writeAll d ws).at? w.1.path = some (.str w.2) := by
  induction ws generalizing d with
  | nil => cases hw
  | cons v ws ih =>
    obtain ⟨hv, hap⟩ := List.pairwise_cons.1 hap
    rcases List.mem_cons.1 hw with rfl | hw
    · have hrest : (writeAll (d.put w.1.path (.str w.2)) ws).at? w.1.path =
          (d.put w.1.path (.str w.2)).at? w.1.path :=
        at?_writeAll_of_apart _ fun u hu => (hv u hu).symm
      exact hrest.trans (Catalog.at?_put_self d _ (hne w List.mem_cons_self))
    · exact ih _ hap (fun u hu => hne u (List.mem_cons_of_mem _ hu)) hw

/-- A key that no translated leaf has keeps its digest. -/
theorem get?_recordAll_of_not_mem (h : Hashes) {ws : List (Pending × Text)} {key : Text}
    (hk : key ∉ ws.map (·.1.key)) :
    Entries.get? (recordAll h ws) key = Entries.get? h key := by
  induction ws generalizing h with
  | nil => rfl
  | cons w ws ih =>
    simp only [List.map_cons, List.mem_cons, not_or] at hk
    have hrest : Entries.get? (recordAll (h.record w.1.key w.1.digest) ws) key =
        Entries.get? (h.record w.1.key w.1.digest) key := ih _ hk.2
    exact hrest.trans (Entries.get?_set_of_ne h _ (Ne.symm hk.1))

/-- The digest recorded for the key of a translated leaf is that of a translated leaf with this
key. -/
theorem get?_recordAll_of_mem (h : Hashes) {ws : List (Pending × Text)} {key : Text}
    (hk : key ∈ ws.map (·.1.key)) :
    ∃ w ∈ ws, w.1.key = key ∧ Entries.get? (recordAll h ws) key = some (.str w.1.digest) := by
  induction ws generalizing h with
  | nil => cases hk
  | cons w ws ih =>
    by_cases hrest : key ∈ ws.map (·.1.key)
    · obtain ⟨v, hv, hkey, hget⟩ := ih (h.record w.1.key w.1.digest) hrest
      exact ⟨v, List.mem_cons_of_mem _ hv, hkey, hget⟩
    · -- No later leaf has this key, so the digest recorded here stays.
      have hkey : w.1.key = key := by
        rcases List.mem_cons.1 hk with hk | hk
        · exact hk.symm
        · exact absurd hk hrest
      refine ⟨w, List.mem_cons_self, hkey, ?_⟩
      have hget : Entries.get? (recordAll (h.record w.1.key w.1.digest) ws) key =
          Entries.get? (h.record w.1.key w.1.digest) key := get?_recordAll_of_not_mem _ hrest
      exact hget.trans (hkey ▸ Entries.get?_set_self h w.1.key (.str w.1.digest))

/-- The keys with failures are those from before and those of the leaves that failed. -/
theorem mem_keys_failAll (failed : Entries Text) (fs : List (Pending × Text)) (key : Text) :
    key ∈ (failAll failed fs).keys ↔ key ∈ failed.keys ∨ key ∈ fs.map (·.1.key) := by
  induction fs generalizing failed with
  | nil => simp [failAll]
  | cons f fs ih =>
    have hstep : failAll failed (f :: fs) = failAll (failed.set f.1.key f.2) fs := rfl
    rw [hstep, ih, Entries.mem_keys_set, List.map_cons, List.mem_cons, or_assoc]

/-- Leaves with keys of their own are listed as failed in their order. -/
theorem keys_failAll (failed : Entries Text) (fs : List (Pending × Text))
    (hn : (failed.keys ++ fs.map (·.1.key)).Nodup) :
    (failAll failed fs).keys = failed.keys ++ fs.map (·.1.key) := by
  induction fs generalizing failed with
  | nil => simp [failAll]
  | cons f fs ih =>
    have hfresh : f.1.key ∉ failed.keys := fun hmem =>
      (List.nodup_append.1 hn).2.2 _ hmem _ (by simp) rfl
    have hkeys : (failed.set f.1.key f.2).keys = failed.keys ++ [f.1.key] :=
      Entries.keys_set_of_not_mem failed f.2 hfresh
    have hstep : failAll failed (f :: fs) = failAll (failed.set f.1.key f.2) fs := rfl
    rw [hstep, ih _ (by simpa [hkeys] using hn), hkeys]
    simp

end Localization.Sync
