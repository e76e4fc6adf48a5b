import Localization.Proofs.Sync.Dispatch

/-!
# Syncing again asks for what is still open

A sync that follows another one, on the catalog and the digests which that one left behind, selects
exactly the leaves that the first one selected and did not translate, in the same order.

Two arguments carry this. A leaf that was translated has its own digest recorded, and is passed over
for that alone. A leaf that was not translated is decided on again from the same value and the same
digest as before: what was written stands at leaves of the same catalog, which are apart from it,
and what was recorded has other keys. The second half needs the keys of leaves to be told apart: two
leaves `a.b`, one with a dot in a name, share one recorded digest.
-/

namespace Localization.Sync

open KeyPath

variable {σ : Type}

/-- How the decision on a leaf changes when leaves of the same catalog are translated: it stays as
it was, unless the leaf is one of them. -/
theorem isOpen_after {source : Catalog} {cs : List Pending} (hsel : IsSelection source cs)
    (hd : source.Distinct) (hk : source.leafKeys.Nodup) {ws : List (Pending × Text)}
    (hws : ∀ w ∈ ws, w.1 ∈ cs) (again : Bool) (hashes : Hashes) (target : Catalog) {p : Pending}
    (hp : p ∈ cs) :
    isOpen again (recordAll hashes ws) (writeAll target ws) p =
      (isOpen again hashes target p && decide (p.key ∉ ws.map (·.1.key))) := by
  have hinj : ∀ w ∈ ws, w.1.key = p.key → w.1 = p := fun w hw =>
    List.inj_on_of_nodup_map (hsel.keys_nodup hk) (hws w hw) hp
  by_cases hmem : p.key ∈ ws.map (·.1.key)
  · obtain ⟨w, hw, hkey, hget⟩ := get?_recordAll_of_mem hashes hmem
    rw [hinj w hw hkey] at hget
    rw [isOpen_of_recorded hget]
    simp [hmem]
  · have hap : ∀ w ∈ ws, Apart w.1.path p.path := by
      intro w hw
      refine hsel.apart_of_ne hd (hws w hw) hp fun heq => hmem ?_
      exact heq ▸ List.mem_map_of_mem (f := fun w : Pending × Text => w.1.key) hw
    rw [isOpen_congr (at?_writeAll_of_apart target hap) (get?_recordAll_of_not_mem hashes hmem)]
    simp [hmem]

section
variable {check : Bool} {provider : Provider σ} {batches : List (List Pending)} {calls : List Call}
  {hashes : Hashes} {service : σ} {sl tl : Text} {target : Catalog} {skipped : Nat} {st : State σ}

/-- The leaves that were written are among those that were to be sent. -/
theorem Progress.written_mem
    (h : Progress check provider batches (start hashes service sl tl target skipped) calls st)
    {w : Pending × Text} (hw : w ∈ written check (calls.flatMap Call.answers)) :
    w.1 ∈ batches.flatten := by
  obtain ⟨o, ho, -⟩ := mem_written.1 hw
  have hsent : w.1 ∈ calls.flatMap Call.batch := by
    rw [← map_fst_flatMap_answers]
    exact List.mem_map_of_mem (f := Prod.fst) ho
  exact h.leaves_sent.subset hsent

/-- A leaf that was to be sent and was not translated failed or was not reached. -/
theorem Progress.not_translated_iff
    (h : Progress check provider batches (start hashes service sl tl target skipped) calls st)
    (hn : (batches.flatten.map (·.key)).Nodup) {p : Pending} (hp : p ∈ batches.flatten) :
    p.key ∉ st.result.translated ↔
      p.key ∈ st.result.failed.keys ∨ p.key ∉ st.result.requested := by
  have hsent := h.leaves_sent
  have hfst : (calls.flatMap Call.answers).map Prod.fst = calls.flatMap Call.batch :=
    map_fst_flatMap_answers calls
  have hinj : ∀ q ∈ calls.flatMap Call.batch, q.key = p.key → q = p := fun q hq =>
    List.inj_on_of_nodup_map hn (hsent.subset hq) hp
  have hnodup : ((calls.flatMap Call.answers).map Prod.fst).Nodup := by
    rw [hfst]
    exact (hn.of_map _).sublist hsent.sublist
  rw [h.translated_eq, h.failed_eq, h.requested_eq, mem_keys_failAll]
  constructor
  · intro hnot
    by_cases hreq : p.key ∈ (calls.flatMap Call.batch).map (·.key)
    · obtain ⟨q, hq, hkey⟩ := List.mem_map.1 hreq
      obtain rfl := hinj q hq hkey
      rw [← hfst] at hq
      obtain ⟨⟨q, o⟩, hqo, rfl⟩ := List.mem_map.1 hq
      rcases written_or_refused check hqo with ⟨t, ht⟩ | ⟨e, he⟩
      · exact absurd (List.mem_map_of_mem (f := fun w : Pending × Text => w.1.key) ht) hnot
      · exact .inl (.inr (List.mem_map_of_mem (f := fun w : Pending × Text => w.1.key) he))
    · exact .inr hreq
  · rintro hor htr
    obtain ⟨w, hw, hkey⟩ := List.mem_map.1 htr
    obtain ⟨o, ho, -⟩ := mem_written.1 hw
    have hwsent : w.1 ∈ calls.flatMap Call.batch := hfst ▸ List.mem_map_of_mem (f := Prod.fst) ho
    rcases hor with (hnil | hfail) | hreq
    · cases hnil
    · obtain ⟨f, hf, hfkey⟩ := List.mem_map.1 hfail
      obtain ⟨o', ho', -⟩ := mem_refused.1 hf
      have hfsent : f.1 ∈ calls.flatMap Call.batch :=
        hfst ▸ List.mem_map_of_mem (f := Prod.fst) ho'
      refine not_refused_of_written hnodup hw hf ?_
      rw [hinj _ hwsent hkey, hinj _ hfsent hfkey]
    · exact hreq (hkey ▸ List.mem_map_of_mem (f := Pending.key) hwsent)

end

/-- **Syncing again asks for what is still open.** Let the names of the source be told apart at every
depth, as in every mapping, and let no two of its leaves have one key. However a sync ended, with
whatever service, settings and recorded digests and wherever it was told to stop, the sync that
follows it selects the leaves that were selected and not translated, in their order; these are the
ones that failed or were not reached. If there are none of them, it turns to no service at all. -/
theorem pending_after_run {s : Settings} {provider : Provider σ} {hashes : Hashes} {service : σ}
    {checks : Checks} {sl tl : Text} {source target : Catalog} {st : State σ}
    (hd : source.Distinct) (hk : source.leafKeys.Nodup)
    (h : (run s provider hashes service checks sl tl source target).result = .ok st) :
    ∃ ps, pending s.retranslateChanged hashes source target = .ok ps ∧
      pending s.retranslateChanged st.hashes source st.result.data =
        .ok (ps.filter fun p => p.key ∉ st.result.translated) ∧
      (∀ p ∈ ps, p.key ∉ st.result.translated ↔
        p.key ∈ st.result.failed.keys ∨ p.key ∉ st.result.requested) ∧
      (st.result.failed = [] → st.result.cancelled = false →
        ∀ (τ : Type) (provider' : Provider τ) (service' : τ) (checks' : Checks) (sl' tl' : Text),
          run s provider' st.hashes service' checks' sl' tl' source st.result.data =
            ⟨[⟨.debug, tl' ++ ": nothing to translate"⟩],
              .ok (start st.hashes service' sl' tl' st.result.data source.leaves.length)⟩) := by
  obtain ⟨ps, batches, calls, hps, hflat, hprog⟩ := run_progress h
  obtain ⟨cs, hcs, hfilter⟩ := pending_eq_ok.1 hps
  have hsel : IsSelection source cs := candidates_isSelection hcs
  have hws : ∀ w ∈ written s.checkPlaceholders (calls.flatMap Call.answers), w.1 ∈ cs := by
    intro w hw
    have hmem := hprog.written_mem hw
    rw [hflat, hfilter] at hmem
    exact (List.mem_filter.1 hmem).1
  have hnext : pending s.retranslateChanged st.hashes source st.result.data =
      .ok (ps.filter fun p => p.key ∉ st.result.translated) := by
    refine pending_eq_ok.2 ⟨cs, hcs, ?_⟩
    rw [hprog.data_eq, hprog.hashes_eq, hprog.translated_eq, hfilter, List.filter_filter]
    refine (List.filter_congr fun p hp => ?_).symm
    rw [isOpen_after hsel hd hk hws _ _ _ hp, Bool.and_comm]
  have hopen : ∀ p ∈ ps, p.key ∉ st.result.translated ↔
      p.key ∈ st.result.failed.keys ∨ p.key ∉ st.result.requested := by
    intro p hp
    have hn : (batches.flatten.map (·.key)).Nodup := by
      rw [hflat]
      exact (pending_isSelection hps).keys_nodup hk
    exact hprog.not_translated_iff hn (hflat ▸ hp)
  refine ⟨ps, hps, hnext, hopen, fun hfailed hcancelled τ provider' service' checks' sl' tl' => ?_⟩
  refine run_of_pending_nil (hnext.trans (congrArg Except.ok ?_))
  refine List.filter_eq_nil_iff.2 fun p hp hnot => ?_
  rcases (hopen p hp).1 (of_decide_eq_true hnot) with hfail | hreq
  · rw [hfailed] at hfail
    cases hfail
  · refine hreq ?_
    rw [hprog.requested_eq, hprog.leaves_complete hcancelled, hflat]
    exact List.mem_map_of_mem (f := Pending.key) hp

/-- A catalog with a leaf of its own and one in an object. -/
def twoLeaves : Catalog := [("a", "Hi"), ("b", .obj [("c", "Bye")])]

/-- No name repeats in the catalog of the example. -/
theorem distinct_twoLeaves : twoLeaves.Distinct :=
  ⟨by decide, trivial, by decide, ⟨by decide, trivial, trivial⟩, trivial⟩

/-- A service that answers the first request of a batch only, and with its own text. -/
def echoFirst : Provider Unit :=
  ⟨"echo", fun s rs => ⟨.ok ((rs.take 1).map fun r => ⟨r.text, r.text, true, none⟩), [], s⟩⟩

/-- The first leaf is translated, with its own text, and is not asked for again; the second one got
no answer and is. -/
theorem pending_after_run_echoFirst :
    ∃ st, (run ⟨none, .whole 1, true, false⟩ echoFirst [] () none "en" "de" twoLeaves []).result =
        .ok st ∧
      st.result.translated = [Text.ofString "a"] ∧
      ∃ ps, pending false [] twoLeaves [] = .ok ps ∧
        pending false st.hashes twoLeaves st.result.data =
          .ok (ps.filter fun p => p.key ∉ st.result.translated) ∧
        ps.map (·.key) = [Text.ofString "a", Text.ofString "b.c"] := by
  obtain ⟨st, h⟩ : ∃ st, (run ⟨none, .whole 1, true, false⟩ echoFirst [] () none "en" "de" twoLeaves
      []).result = .ok st := exists_run_ok nofun nofun (by decide)
  have htranslated : ((run ⟨none, .whole 1, true, false⟩ echoFirst [] () none "en" "de" twoLeaves
      []).result.toOption.map fun st => st.result.translated) = some [Text.ofString "a"] := by
    decide +kernel
  have hkeys : ((pending false [] twoLeaves []).toOption.map fun ps => ps.map (·.key)) =
      some [Text.ofString "a", Text.ofString "b.c"] := by
    decide +kernel
  obtain ⟨ps, hps, hnext, -⟩ := pending_after_run distinct_twoLeaves (by decide) h
  rw [h] at htranslated
  rw [hps] at hkeys
  exact ⟨st, h, Option.some.inj htranslated, ps, hps, hnext, Option.some.inj hkeys⟩

end Localization.Sync
