import Localization.Proofs.Catalog.Clean
import Localization.Proofs.Sync.Concurrency
import Localization.Proofs.Sync.Incremental

/-!
# Syncing again after the digests were stored

Between two runs of a command the digests are stored with the catalog, and those of keys that the
catalog does not have are forgotten (`Hashes.ofLocaleFile`). No decision depends on what is
forgotten (`pending_after_store`): a leaf that was translated stands in the catalog, and a digest
that was there before and still is belongs to a leaf that the catalog had and has. This needs a key
to tell a path: a digest of `a.b` that was kept for a leaf of the target must not be that of another
leaf of the source.

Where the service answers every request by itself and always in the same way, what failed once fails
again (`run_again`): the second run asks for what failed, translates nothing of it, and leaves the
catalog and the digests as it found them.
-/

namespace Localization

/-- The key tells the path of a leaf, in two catalogs together. -/
def Catalog.KeysTell (source target : Catalog) : Prop :=
  ∀ l ∈ source.leaves ++ target.leaves, ∀ l' ∈ source.leaves ++ target.leaves,
    l.1.key = l'.1.key → l.1 = l'.1

namespace Catalog

/-- Different leaves of a catalog have different paths. -/
theorem nodup_paths {d : Catalog} (h : d.Distinct) : (d.leaves.map Prod.fst).Nodup := by
  refine List.pairwise_map.2 ((leaves_apart h).imp fun {a b} hapart heq => ?_)
  rw [heq] at hapart
  exact hapart.1 (List.prefix_refl _)

/-- Where keys tell paths apart, no key of a source leaf repeats. -/
theorem KeysTell.nodup_leafKeys {source target : Catalog} (h : KeysTell source target)
    (hd : source.Distinct) : source.leafKeys.Nodup := by
  have hinj : ∀ p ∈ source.leaves.map Prod.fst, ∀ q ∈ source.leaves.map Prod.fst,
      KeyPath.key p = KeyPath.key q → p = q := by
    intro p hp q hq
    obtain ⟨l, hl, rfl⟩ := List.mem_map.1 hp
    obtain ⟨l', hl', rfl⟩ := List.mem_map.1 hq
    exact h l (List.mem_append_left _ hl) l' (List.mem_append_left _ hl')
  have hkeys : source.leafKeys = (source.leaves.map Prod.fst).map KeyPath.key := by
    rw [leafKeys, List.map_map]
    rfl
  rw [hkeys]
  exact (nodup_paths hd).map_on fun p hp q hq => hinj p hp q hq

/-- The key of a text in a catalog is one of its leaf keys. -/
theorem mem_leafKeys_of_at? {d : Catalog} (h : d.Distinct) {path : KeyPath} {t : Text}
    (hat : d.at? path = some (.str t)) : path.key ∈ d.leafKeys :=
  List.mem_map_of_mem (f := fun l : KeyPath × Text => l.1.key) ((mem_leaves_iff h).2 hat)

end Catalog

namespace Sync

open KeyPath

variable {σ : Type}

/-! ## What is forgotten -/

/-- Writing texts makes no name repeat. -/
theorem distinct_writeAll {d : Catalog} (h : d.Distinct) (ws : List (Pending × Text)) :
    (writeAll d ws).Distinct := by
  induction ws generalizing d with
  | nil => exact h
  | cons w ws ih => exact ih (Catalog.distinct_put h w.1.path w.2)

/-- Writing texts keeps a catalog clean. -/
theorem areClean_writeAll {d : Catalog} (h : Catalog.areClean d = true)
    (ws : List (Pending × Text)) : Catalog.areClean (writeAll d ws) = true := by
  induction ws generalizing d with
  | nil => exact h
  | cons w ws ih => exact ih (Catalog.areClean_put h w.1.path w.2)

/-- The digests that are kept with a catalog: those of keys that it has. -/
def KeptWith (d : Catalog) (hashes kept : Hashes) : Prop :=
  ∀ key, Entries.get? kept key = if key ∈ d.leafKeys then Entries.get? hashes key else none

/-- No decision depends on the digests that are not kept with a catalog. Of the leaves that were not
translated, none has its digest among them: it was not recorded, and what was there before was kept
with the target, for this leaf. -/
theorem isOpen_of_kept {source target : Catalog} {hashes kept : Hashes} {cs : List Pending}
    {ws : List (Pending × Text)} (hsel : IsSelection source cs) (hd : source.Distinct)
    (hdt : target.Distinct) (hkeys : Catalog.KeysTell source target)
    (hws : ∀ w ∈ ws, w.1 ∈ cs) (hap : ws.Pairwise fun v w => Apart v.1.path w.1.path)
    (hhashes : ∀ key, Entries.get? hashes key ≠ none → key ∈ target.leafKeys)
    (hkept : KeptWith (writeAll target ws) (recordAll hashes ws) kept) (again : Bool) {p : Pending}
    (hp : p ∈ cs) :
    isOpen again kept (writeAll target ws) p =
      isOpen again (recordAll hashes ws) (writeAll target ws) p := by
  have hdata := distinct_writeAll hdt ws
  have hkey : p.key = p.path.key := hsel.key_eq p hp
  refine isOpen_congr rfl ((hkept p.key).trans ?_)
  split
  · rfl
  next hforgotten =>
    by_contra hsome
    refine hforgotten ?_
    by_cases hmem : p.key ∈ ws.map (·.1.key)
    · -- The leaf was translated, so it stands in the catalog.
      obtain ⟨w, hw, hwkey⟩ := List.mem_map.1 hmem
      rw [← hwkey, hsel.key_eq _ (hws w hw)]
      exact Catalog.mem_leafKeys_of_at? hdata
        (at?_writeAll_of_mem target hap (fun v hv => hsel.path_ne_nil (hws v hv)) hw)
    · -- Its digest was there before, with a leaf of the target that has its key: the same leaf.
      rw [get?_recordAll_of_not_mem hashes hmem] at hsome
      obtain ⟨l, hl, hlkey⟩ := List.mem_map.1 (hhashes p.key (Ne.symm hsome))
      have hleaf : (p.path, p.text) ∈ source.leaves :=
        hsel.leaves.subset (List.mem_map_of_mem (f := fun p : Pending => (p.path, p.text)) hp)
      have hpath : l.1 = p.path := hkeys l (List.mem_append_right _ hl) _
        (List.mem_append_left _ hleaf) (hlkey.trans hkey)
      have hapart : ∀ w ∈ ws, Apart w.1.path p.path := by
        intro w hw
        refine hsel.apart_of_ne hd (hws w hw) hp fun heq => hmem ?_
        exact heq ▸ List.mem_map_of_mem (f := fun w : Pending × Text => w.1.key) hw
      have hat : target.at? p.path = some (.str l.2) := by
        rw [← hpath]
        exact (Catalog.mem_leaves_iff hdt).1 hl
      rw [hkey]
      exact Catalog.mem_leafKeys_of_at? hdata ((at?_writeAll_of_apart target hapart).trans hat)

/-! ## What fails again -/

/-- The leaves of a selection with the answers to their own requests. -/
def answersOf (f : Request → Outcome) (sl tl : Text) (ps : List Pending) :
    List (Pending × Outcome) :=
  ps.map fun p => (p, f ⟨p.text, sl, tl, some p.key⟩)

/-- Whether the answer to a leaf's request is no good. -/
def fails (check : Bool) (f : Request → Outcome) (sl tl : Text) (p : Pending) : Bool :=
  (verdict check p (f ⟨p.text, sl, tl, some p.key⟩)).toOption.isNone

section

variable {check : Bool} {f : Request → Outcome} {sl tl : Text} {ps : List Pending}

/-- The leaves that are refused are those whose answers are no good. -/
theorem map_fst_refused_answersOf :
    (refused check (answersOf f sl tl ps)).map Prod.fst = ps.filter (fails check f sl tl) := by
  rw [refused, answersOf, List.filterMap_map, List.map_filterMap, ← List.filterMap_eq_filter]
  refine List.filterMap_congr fun p _ => ?_
  simp only [Function.comp_apply, Option.guard]
  cases hv : verdict check p (f ⟨p.text, sl, tl, some p.key⟩) <;> simp [fails, hv, Except.toOption]

/-- The leaves that are written are those whose answers are good. -/
theorem map_fst_written_answersOf :
    (written check (answersOf f sl tl ps)).map Prod.fst =
      ps.filter fun p => !fails check f sl tl p := by
  rw [written, answersOf, List.filterMap_map, List.map_filterMap, ← List.filterMap_eq_filter]
  refine List.filterMap_congr fun p _ => ?_
  simp only [Function.comp_apply, Option.guard]
  cases hv : verdict check p (f ⟨p.text, sl, tl, some p.key⟩) <;> simp [fails, hv, Except.toOption]

/-- Of leaves that fail, none is translated. -/
theorem written_answersOf_fails :
    written check (answersOf f sl tl (ps.filter (fails check f sl tl))) = [] := by
  rw [← List.map_eq_nil_iff (f := Prod.fst), map_fst_written_answersOf, List.filter_eq_nil_iff]
  intro p hp
  simp [(List.mem_filter.1 hp).2]

/-- Of leaves with keys of their own, those that are not translated are those that fail. -/
theorem filter_not_written (hn : (ps.map (·.key)).Nodup) :
    (ps.filter fun p => p.key ∉ (written check (answersOf f sl tl ps)).map (·.1.key)) =
      ps.filter (fails check f sl tl) := by
  refine List.filter_congr fun p hp => ?_
  have hkeys : (written check (answersOf f sl tl ps)).map (·.1.key) =
      (ps.filter fun p => !fails check f sl tl p).map (·.key) := by
    rw [← map_fst_written_answersOf, List.map_map]
    rfl
  rw [hkeys]
  by_cases hfails : fails check f sl tl p = true
  · rw [hfails, decide_eq_true_iff]
    intro hmem
    obtain ⟨q, hq, hkey⟩ := List.mem_map.1 hmem
    obtain ⟨hqps, hqgood⟩ := List.mem_filter.1 hq
    rw [List.inj_on_of_nodup_map hn hqps hp hkey, hfails] at hqgood
    cases hqgood
  · have hgood : p ∈ ps.filter fun p => !fails check f sl tl p :=
      List.mem_filter.2 ⟨hp, by simpa using hfails⟩
    rw [eq_false_of_ne_true hfails, decide_eq_false_iff_not, not_not]
    exact List.mem_map_of_mem (f := fun p : Pending => p.key) hgood

end

section

variable {s : Settings} {provider : Provider σ} {f : Request → Outcome} {hashes : Hashes}
  {service : σ} {sl tl : Text} {source target : Catalog} {st : State σ}

/-- What a sync comes to whose requests are answered one by one. -/
theorem seen_of_run (hf : ∀ a rs, (provider.answer a rs).outcomes = .ok (rs.map f))
    (h : (run s provider hashes service none sl tl source target).result = .ok st) :
    ∃ ps, pending s.retranslateChanged hashes source target = .ok ps ∧
      st.seen = settle s.checkPlaceholders
        (start hashes service sl tl target (source.leaves.length - ps.length)).result hashes
        (answersOf f sl tl ps) := by
  obtain ⟨ps, batches, calls, hps, hflat, hprog⟩ := run_progress h
  have hseen := hprog.settle_eq (F := fun rs => .ok (rs.map f)) hf (cancelled_run_none h) rfl rfl
    rfl
  rw [answersBy_map, hflat] at hseen
  exact ⟨ps, hps, hseen⟩

/-- Digests are recorded as texts, each key once. -/
theorem recordAll_texts {hashes : Hashes} (hn : Entries.keys hashes |>.Nodup)
    (ht : ∀ h ∈ hashes, h.2.isText = true) (ws : List (Pending × Text)) :
    (Entries.keys (recordAll hashes ws)).Nodup ∧ ∀ h ∈ recordAll hashes ws, h.2.isText = true := by
  induction ws generalizing hashes with
  | nil => exact ⟨hn, ht⟩
  | cons w ws ih =>
    refine ih (Entries.nodup_keys_set hn _ _) fun h hh => ?_
    rcases Entries.mem_of_mem_set hh with rfl | hh
    · rfl
    · exact ht h hh

/-- A sync that follows another one, on the catalog that was left behind and the digests that are
kept with it, asks for what failed, and that fails again: the catalog and the digests stay as they
are. -/
theorem run_again (hf : ∀ a rs, (provider.answer a rs).outcomes = .ok (rs.map f))
    (hd : source.Distinct) (hdt : target.Distinct) (hkeys : Catalog.KeysTell source target)
    (hhashes : ∀ key, Entries.get? hashes key ≠ none → key ∈ target.leafKeys)
    (h : (run s provider hashes service none sl tl source target).result = .ok st) {kept : Hashes}
    (hkept : KeptWith st.result.data st.hashes kept) :
    ∃ ps, pending s.retranslateChanged kept source st.result.data = .ok ps ∧
      ps.map (·.key) = st.result.failed.keys ∧
      ∀ service' : σ, ∃ st',
        (run s provider kept service' none sl tl source st.result.data).result = .ok st' ∧
          st'.result.requested = st.result.failed.keys ∧ st'.result.data = st.result.data ∧
          st'.hashes = kept := by
  obtain ⟨ps, hps, hseen⟩ := seen_of_run hf h
  obtain ⟨cs, hcs, hfilter⟩ := pending_eq_ok.1 hps
  have hsel : IsSelection source cs := candidates_isSelection hcs
  have hsub : ps.Sublist cs := hfilter ▸ List.filter_sublist
  have hn := (hsel.of_sublist hsub).keys_nodup (hkeys.nodup_leafKeys hd)
  generalize hws : written s.checkPlaceholders (answersOf f sl tl ps) = ws at *
  rw [settle_eq, hws] at hseen
  obtain ⟨hresult, hrecorded⟩ := Prod.mk.inj hseen
  have hdata : st.result.data = writeAll target ws := by rw [hresult]; rfl
  have hmem : ∀ w ∈ ws, w.1 ∈ ps := by
    intro w hw
    have hfst : w.1 ∈ ws.map Prod.fst := List.mem_map_of_mem hw
    rw [← hws, map_fst_written_answersOf] at hfst
    exact (List.mem_filter.1 hfst).1
  have hap : ws.Pairwise fun v w => Apart v.1.path w.1.path := by
    have hleaves : (ws.map Prod.fst).Sublist ps := by
      rw [← hws, map_fst_written_answersOf]
      exact List.filter_sublist
    have hpaths := ((hsel.of_sublist hsub).apart hd).sublist hleaves
    rwa [List.pairwise_map] at hpaths
  have hfailed : st.result.failed.keys =
      (ps.filter (fails s.checkPlaceholders f sl tl)).map (·.key) := by
    have hrefused : (refused s.checkPlaceholders (answersOf f sl tl ps)).map (·.1.key) =
        (ps.filter (fails s.checkPlaceholders f sl tl)).map (·.key) := by
      rw [← map_fst_refused_answersOf, List.map_map]
      rfl
    rw [hresult, ← hrefused]
    refine keys_failAll [] _ ?_
    rw [hrefused]
    exact (List.filter_sublist.map _).nodup hn
  have hpending : pending s.retranslateChanged kept source st.result.data =
      .ok (ps.filter (fails s.checkPlaceholders f sl tl)) := by
    refine pending_eq_ok.2 ⟨cs, hcs, ?_⟩
    rw [← filter_not_written hn, hws, hfilter, List.filter_filter]
    refine List.filter_congr fun p hp => ?_
    rw [hdata, hrecorded] at hkept
    have hsubset : ∀ w ∈ ws, w.1 ∈ cs := fun w hw => hsub.subset (hmem w hw)
    rw [hdata, isOpen_of_kept hsel hd hdt hkeys hsubset hap hhashes hkept _ hp,
      isOpen_after hsel hd (hkeys.nodup_leafKeys hd) hsubset _ _ _ hp, Bool.and_comm]
  refine ⟨_, hpending, hfailed.symm, fun service' => ?_⟩
  obtain ⟨st', hst'⟩ :=
    exists_run_of_run h hps hpending (fun hnil => by rw [hnil]; rfl) service' none
  obtain ⟨ps', hps', hseen'⟩ := seen_of_run hf hst'
  obtain rfl : ps' = ps.filter (fails s.checkPlaceholders f sl tl) :=
    Except.ok.inj (hps'.symm.trans hpending)
  rw [settle_eq, written_answersOf_fails] at hseen'
  obtain ⟨hresult', hkept'⟩ := Prod.mk.inj hseen'
  refine ⟨st', hst', ?_, ?_, hkept'⟩
  · rw [hresult', hfailed]
    simp [start, answersOf, Function.comp_def]
  · rw [hresult']
    rfl

end

end Sync

end Localization
