import Localization.Proofs.Sync.Resume

/-!
# A sync that was told to stop can be taken up again

A sync that is told to stop has sent the first of its windows, and it is marked as cancelled exactly
if some are left (`Windows.settle_part`). Batches that are sent one after another are windows of one
batch (`oneByOne_eq_byWindows`), so this covers every setting.

Where the service answers every request by itself and always in the same way, a sync is known by the
leaves that it asked for. The sync that takes up a cancelled one asks for the leaves that failed and
then for those that were not reached (`pending_after_part`). What failed fails again, so the good
answers of the two syncs, one after the other, are those of a sync that is not cancelled, whatever
batches they came in.
-/

namespace Localization.Sync

variable {σ : Type}

/-! ## Windows that were sent -/

/-- No chunk is empty. -/
theorem nil_not_mem_chunks {α : Type} (size : Nat) (xs : List α) : [] ∉ chunks size xs := by
  fun_induction chunks size xs with
  | case1 => exact List.not_mem_nil
  | case2 x xs ih =>
    rw [List.mem_cons, not_or]
    exact ⟨(List.cons_ne_nil _ _).symm, ih⟩

/-- No batch is empty. -/
theorem nil_not_mem_batchesOf {s : Settings} {ps : List Pending} {batches : List (List Pending)}
    (h : batchesOf s ps = .ok batches) : [] ∉ batches := by
  unfold batchesOf at h
  split at h
  · cases h
    exact nil_not_mem_chunks _ _
  · cases h
    exact nil_not_mem_chunks _ _
  · cases h

/-- Lists none of which is empty have nothing in all only if there are none. -/
theorem flatten_eq_nil {α : Type} {xss : List (List α)} (h : [] ∉ xss) :
    xss.flatten = [] ↔ xss = [] := by
  constructor
  · intro hflat
    refine List.eq_nil_iff_forall_not_mem.2 fun xs hxs => h ?_
    rwa [← List.flatten_eq_nil_iff.1 hflat xs hxs]
  · rintro rfl
    rfl

/-- Sending batches one after another is sending windows of one batch. -/
theorem oneByOne_eq_byWindows (check : Bool) (provider : Provider σ) (checks : Checks)
    (st : State σ) (batches : List (List Pending)) :
    oneByOne check provider checks st batches =
      byWindows check provider checks st (chunks 1 batches) := by
  induction batches generalizing checks st with
  | nil =>
    rw [chunks]
    rfl
  | cons batch rest ih =>
    rw [chunks, oneByOne, byWindows]
    cases checks.step with
    | none => rfl
    | some checks' => exact ih checks' _

section

variable {F : List Request → Except Failure (List Outcome)} {provider : Provider σ} {sl tl : Text}
  {check : Bool}

/-- The windows before the check that says to stop are settled, and no others. The sync is marked as
cancelled if there are others, which needs a check that can say so. -/
theorem Windows.settle_part (hF : ∀ a rs, (provider.answer a rs).outcomes = F rs) {checks : Checks}
    {st st' : State σ} {windows : List (List (List Pending))}
    (h : Windows check provider checks st windows st') (hst : st.result.cancelled = false)
    (hsl : st.result.source = sl) (htl : st.result.target = tl) :
    ∃ sent rest, windows = sent ++ rest ∧ (st'.result.cancelled = true ↔ rest ≠ []) ∧
      (checks = none → rest = []) ∧
      st'.result = { (settle check st.result st.hashes (answersBy F sl tl sent.flatten)).1 with
        cancelled := st'.result.cancelled } ∧
      st'.hashes = (settle check st.result st.hashes (answersBy F sl tl sent.flatten)).2 := by
  induction h with
  | done _ st => exact ⟨[], [], rfl, by simp [hst], fun _ => rfl, rfl, rfl⟩
  | stop st window rest hstop =>
    refine ⟨[], window :: rest, rfl, by simp [State.cancel], ?_, rfl, rfl⟩
    rintro rfl
    cases hstop
  | @next checks checks' st₀ st₁ st₂ window rest hgo hwindow _ ih =>
    obtain ⟨hres, hhash⟩ := handedOut_settle hF hwindow hsl htl
    obtain ⟨sent, left, rfl, hleft, hnone, hres₂, hhash₂⟩ :=
      ih (by rw [hres, settle_cancelled, hst]) (by rw [hres, settle_source, hsl])
        (by rw [hres, settle_target, htl])
    refine ⟨window :: sent, left, rfl, hleft, ?_, ?_, ?_⟩
    · rintro rfl
      cases hgo
      exact hnone rfl
    · rw [List.flatten_cons, answersBy_append, settle_append, ← hres, ← hhash]
      exact hres₂
    · rw [List.flatten_cons, answersBy_append, settle_append, ← hres, ← hhash]
      exact hhash₂

end

/-- However batches are sent, they are sent in windows. -/
theorem DispatchEnds.windows {s : Settings} {provider : Provider σ} {checks : Checks}
    {st st' : State σ} {batches : List (List Pending)}
    (h : DispatchEnds s provider checks st batches st') :
    ∃ n, Windows s.checkPlaceholders provider checks st (chunks n batches) st' := by
  obtain ⟨n, -, h⟩ := h
  refine ⟨n, ?_⟩
  split at h
  next hone =>
    rw [h, hone, oneByOne_eq_byWindows]
    exact byWindows_windows ..
  next => exact h

/-! ## Leaves that were asked for -/

section

variable {s : Settings} {provider : Provider σ} {f : Request → Outcome} {hashes : Hashes}
  {service : σ} {checks : Checks} {sl tl : Text} {source target : Catalog} {st : State σ}

/-- A sync has asked for leaves, each of which got the answer to its own request. -/
structure AskedFor (check : Bool) (f : Request → Outcome) (hashes : Hashes) (sl tl : Text)
    (target : Catalog) (sent : List Pending) (st : State σ) : Prop where
  data : st.result.data = writeAll target (written check (answersOf f sl tl sent))
  hashes : st.hashes = recordAll hashes (written check (answersOf f sl tl sent))
  requested : st.result.requested = sent.map (·.key)

/-- However a sync ends, it has asked for the first of the leaves that it had selected. It is marked
as cancelled if some are left, and not if it cannot be stopped. -/
theorem Ends.askedFor (hf : ∀ a rs, (provider.answer a rs).outcomes = .ok (rs.map f))
    (h : Ends s provider hashes service checks sl tl source target st) :
    ∃ sent rest, pending s.retranslateChanged hashes source target = .ok (sent ++ rest) ∧
      (st.result.cancelled = true ↔ rest ≠ []) ∧ (checks = none → rest = []) ∧
      AskedFor s.checkPlaceholders f hashes sl tl target sent st := by
  obtain ⟨ps, hps, ⟨rfl, rfl⟩ | ⟨-, batches, hbatches, hends⟩⟩ := h
  · exact ⟨[], [], hps, by simp [start], fun _ => rfl, rfl, rfl, rfl⟩
  · obtain ⟨n, hwindows⟩ := hends.windows
    obtain ⟨sent, rest, hcut, hcancelled, hnone, hresult, hrecorded⟩ :=
      hwindows.settle_part (F := fun rs => .ok (rs.map f)) hf rfl rfl rfl
    rw [answersBy_map] at hresult hrecorded
    have hflat : sent.flatten.flatten ++ rest.flatten.flatten = ps := by
      rw [← List.flatten_append, ← List.flatten_append, ← hcut, flatten_chunks,
        flatten_batchesOf hbatches]
    have hleft : rest.flatten.flatten = [] ↔ rest = [] := by
      have hbatch : [] ∉ rest.flatten := by
        intro hmem
        refine nil_not_mem_batchesOf hbatches ?_
        rw [← flatten_chunks n batches, hcut, List.flatten_append]
        exact List.mem_append_right _ hmem
      have hwindow : [] ∉ rest := by
        intro hmem
        exact nil_not_mem_chunks n batches (hcut ▸ List.mem_append_right _ hmem)
      rw [flatten_eq_nil hbatch, flatten_eq_nil hwindow]
    generalize sent.flatten.flatten = asked at *
    refine ⟨asked, rest.flatten.flatten, hflat.symm ▸ hps, ?_, ?_, ?_, ?_, ?_⟩
    · rw [hcancelled, Ne, Ne, hleft]
    · exact fun hchecks => hleft.2 (hnone hchecks)
    · rw [hresult, settle_eq]
      rfl
    · rw [hrecorded, settle_eq]
      rfl
    · rw [hresult, settle_eq]
      simp [start, Function.comp_def]

/-! ## Taking it up again -/

/-- What is written for leaves is what is written for the first and then for the others. -/
theorem written_answersOf_append {check : Bool} (ps qs : List Pending) :
    written check (answersOf f sl tl (ps ++ qs)) =
      written check (answersOf f sl tl ps) ++ written check (answersOf f sl tl qs) := by
  rw [answersOf, List.map_append]
  exact List.filterMap_append

/-- Texts are written in two goes as in one. -/
theorem writeAll_append (d : Catalog) (ws vs : List (Pending × Text)) :
    writeAll d (ws ++ vs) = writeAll (writeAll d ws) vs :=
  List.foldl_append

/-- Digests are recorded in two goes as in one. -/
theorem recordAll_append (h : Hashes) (ws vs : List (Pending × Text)) :
    recordAll h (ws ++ vs) = recordAll (recordAll h ws) vs :=
  List.foldl_append

/-- After a part of what was selected was asked for, what is selected is what failed of it, and then
what is left. -/
theorem pending_after_part {check again : Bool} {sent rest : List Pending} (hd : source.Distinct)
    (hk : source.leafKeys.Nodup) (hps : pending again hashes source target = .ok (sent ++ rest)) :
    pending again (recordAll hashes (written check (answersOf f sl tl sent))) source
        (writeAll target (written check (answersOf f sl tl sent))) =
      .ok (sent.filter (fails check f sl tl) ++ rest) := by
  obtain ⟨cs, hcs, hfilter⟩ := pending_eq_ok.1 hps
  have hsel : IsSelection source cs := candidates_isSelection hcs
  have hsub : (sent ++ rest).Sublist cs := hfilter ▸ List.filter_sublist
  have hn : ((sent ++ rest).map (·.key)).Nodup := (hsel.of_sublist hsub).keys_nodup hk
  rw [List.map_append] at hn
  obtain ⟨hsent, -, hapart⟩ := List.nodup_append.1 hn
  have hmem : ∀ w ∈ written check (answersOf f sl tl sent), w.1 ∈ sent := by
    intro w hw
    have hfst := List.mem_map_of_mem (f := Prod.fst) hw
    rw [map_fst_written_answersOf] at hfst
    exact (List.mem_filter.1 hfst).1
  have hrest : rest.filter
      (fun p => p.key ∉ (written check (answersOf f sl tl sent)).map (·.1.key)) = rest := by
    refine List.filter_eq_self.2 fun p hp => decide_eq_true fun hwritten => ?_
    obtain ⟨w, hw, hkey⟩ := List.mem_map.1 hwritten
    exact hapart _ (List.mem_map_of_mem (hmem w hw)) _ (List.mem_map_of_mem hp) hkey
  have hopen : (sent ++ rest).filter
        (fun p => p.key ∉ (written check (answersOf f sl tl sent)).map (·.1.key)) =
      sent.filter (fails check f sl tl) ++ rest := by
    rw [List.filter_append, filter_not_written hsent, hrest]
  refine pending_eq_ok.2 ⟨cs, hcs, ?_⟩
  rw [← hopen, hfilter, List.filter_filter]
  refine List.filter_congr fun p hp => ?_
  have hws : ∀ w ∈ written check (answersOf f sl tl sent), w.1 ∈ cs := fun w hw =>
    hsub.subset (List.mem_append_left _ (hmem w hw))
  rw [isOpen_after hsel hd hk hws _ _ _ hp, Bool.and_comm]

/-- How a sync that was told to stop and the one that takes it up come to what a sync comes to that
is not told to stop. -/
structure Resumed (stopped resumed whole : State σ) : Prop where
  data : resumed.result.data = whole.result.data
  hashes : resumed.hashes = whole.hashes
  requested : stopped.result.requested <+: whole.result.requested
  cancelled : stopped.result.cancelled = true ↔
    stopped.result.requested ≠ whole.result.requested

/-- However the three of them end, the second sync takes up the first one. -/
theorem Ends.resumed (hf : ∀ a rs, (provider.answer a rs).outcomes = .ok (rs.map f))
    (hd : source.Distinct) (hk : source.leafKeys.Nodup) {service' service'' : σ}
    {st' st'' : State σ} (h : Ends s provider hashes service checks sl tl source target st)
    (h' : Ends s provider st.hashes service' none sl tl source st.result.data st')
    (h'' : Ends s provider hashes service'' none sl tl source target st'') :
    Resumed st st' st'' := by
  obtain ⟨sent, rest, hps, hcancelled, -, hasked⟩ := h.askedFor hf
  obtain ⟨again, none', hps', -, hnone', hasked'⟩ := h'.askedFor hf
  obtain ⟨all, none'', hps'', -, hnone'', hasked''⟩ := h''.askedFor hf
  rw [hnone' rfl, List.append_nil, hasked.data, hasked.hashes, pending_after_part hd hk hps] at hps'
  obtain rfl := Except.ok.inj hps'
  rw [hnone'' rfl, List.append_nil, hps] at hps''
  obtain rfl := Except.ok.inj hps''
  -- What failed adds nothing, so the good answers are those of the leaves in their order.
  have hwritten : written s.checkPlaceholders (answersOf f sl tl
        (sent.filter (fails s.checkPlaceholders f sl tl) ++ rest)) =
      written s.checkPlaceholders (answersOf f sl tl rest) := by
    rw [written_answersOf_append, written_answersOf_fails, List.nil_append]
  constructor
  · rw [hasked'.data, hasked''.data, hwritten, hasked.data, written_answersOf_append,
      writeAll_append]
  · rw [hasked'.hashes, hasked''.hashes, hwritten, hasked.hashes, written_answersOf_append,
      recordAll_append]
  · rw [hasked.requested, hasked''.requested, List.map_append]
    exact List.prefix_append _ _
  · rw [hcancelled, hasked.requested, hasked''.requested, List.map_append, Ne, Ne,
      List.self_eq_append_right, List.map_eq_nil_iff]

/-- A sync sends the first of its batches, and it is marked as cancelled exactly if it does not send
them all. -/
theorem run_calls (hf : ∀ a rs, (provider.answer a rs).outcomes = .ok (rs.map f))
    (h : (run s provider hashes service checks sl tl source target).result = .ok st) :
    ∃ ps batches calls, pending s.retranslateChanged hashes source target = .ok ps ∧
      (ps = [] ∧ batches = [] ∨ batchesOf s ps = .ok batches) ∧
      Replies provider sl tl service calls st.service ∧ calls.map Call.batch <+: batches ∧
      (st.result.cancelled = true ↔ calls.length < batches.length) := by
  obtain ⟨ps, hps, ⟨rfl, rfl⟩ | ⟨-, batches, hbatches, hdispatch⟩⟩ := run_ok_cases h
  · exact ⟨[], [], [], hps, .inl ⟨rfl, rfl⟩, rfl, List.prefix_refl _, by simp [start]⟩
  · obtain ⟨calls, hcalls⟩ := dispatch_progress hdispatch
    refine ⟨ps, batches, calls, hps, .inr hbatches, hcalls.replies, hcalls.sent, ?_, ?_⟩
    · intro hcancelled
      obtain ⟨sent, rest, hps', hleft, -, hasked⟩ := (run_ends h).askedFor hf
      obtain rfl := Except.ok.inj (hps.symm.trans hps')
      by_contra hall
      -- All batches were sent, so all leaves were asked for, and none is left.
      have hsent : calls.map Call.batch = batches :=
        hcalls.sent.eq_of_length_le (by rw [List.length_map]; exact not_lt.1 hall)
      have hleaves : calls.flatMap Call.batch = sent ++ rest := by
        rw [List.flatMap_def, hsent, flatten_batchesOf hbatches]
      have hlength := congrArg List.length (hcalls.requested_eq.symm.trans hasked.requested)
      rw [hleaves, List.length_map, List.length_map, List.length_append] at hlength
      exact hleft.1 hcancelled (List.eq_nil_of_length_eq_zero (by omega))
    · intro hfew
      by_contra hnot
      have hsent := congrArg List.length (hcalls.complete (eq_false_of_ne_true hnot))
      rw [List.length_map] at hsent
      omega

end

/-- **A cancelled sync can be taken up again without a trace.** Let the service answer every request
by itself and always in the same way, and let no two leaves of the source have one key. Whatever the
settings, the target and the recorded digests, a sync that is told to stop after `n` checks fails as
one does that cannot be stopped; or it comes to an end, and so does the sync that takes it up, with
its catalog, its digests and what the service remembers. Together they leave the catalog and the
digests that one sync leaves which is not told to stop. The leaves that the first one asked for are
the first ones that this sync asks for; it was marked as cancelled exactly if a batch was not sent.
All of that holds in whatever order the batches of a window finish. -/
theorem run_resumed {s : Settings} {provider : Provider σ} {f : Request → Outcome}
    (hf : ∀ a rs, (provider.answer a rs).outcomes = .ok (rs.map f)) {source : Catalog}
    (hd : source.Distinct) (hk : source.leafKeys.Nodup) (hashes : Hashes) (service : σ)
    (sl tl : Text) (target : Catalog) (n : Nat) :
    ((∃ e, (run s provider hashes service (some n) sl tl source target).result = .error e ∧
        (run s provider hashes service none sl tl source target).result = .error e) ∨
      ∃ stopped resumed whole ps batches calls,
        (run s provider hashes service (some n) sl tl source target).result = .ok stopped ∧
        (run s provider stopped.hashes stopped.service none sl tl source
          stopped.result.data).result = .ok resumed ∧
        (run s provider hashes service none sl tl source target).result = .ok whole ∧
        Resumed stopped resumed whole ∧
        pending s.retranslateChanged hashes source target = .ok ps ∧
        (ps = [] ∧ batches = [] ∨ batchesOf s ps = .ok batches) ∧
        Replies provider sl tl service calls stopped.service ∧
        calls.map Call.batch <+: batches ∧
        (stopped.result.cancelled = true ↔ calls.length < batches.length)) ∧
    ∀ service' service'' stopped resumed whole,
      Ends s provider hashes service (some n) sl tl source target stopped →
      Ends s provider stopped.hashes service' none sl tl source stopped.result.data resumed →
      Ends s provider hashes service'' none sl tl source target whole →
      Resumed stopped resumed whole := by
  refine ⟨?_, fun _ _ _ _ _ h h' h'' => h.resumed hf hd hk h' h''⟩
  cases hstopped : (run s provider hashes service (some n) sl tl source target).result with
  | error e => exact .inl ⟨e, rfl, run_eq_error hstopped none⟩
  | ok stopped =>
    obtain ⟨ps, batches, calls, hps, hbatches, hreplies, hsent, hcancelled⟩ := run_calls hf hstopped
    obtain ⟨whole, hwhole⟩ := exists_run_of_run hstopped hps hps id service none
    obtain ⟨sent, rest, hps', -, -, hasked⟩ := (run_ends hstopped).askedFor hf
    obtain rfl := Except.ok.inj (hps.symm.trans hps')
    have hpending : pending s.retranslateChanged stopped.hashes source stopped.result.data =
        .ok (sent.filter (fails s.checkPlaceholders f sl tl) ++ rest) := by
      rw [hasked.hashes, hasked.data]
      exact pending_after_part hd hk hps
    obtain ⟨resumed, hresumed⟩ := exists_run_of_run hstopped hps hpending (by
      intro hnil
      obtain ⟨rfl, rfl⟩ := List.append_eq_nil_iff.1 hnil
      rfl) stopped.service none
    exact .inr ⟨stopped, resumed, whole, _, batches, calls, rfl, hresumed, hwhole,
      (run_ends hstopped).resumed hf hd hk (run_ends hresumed) (run_ends hwhole), hps, hbatches,
      hreplies, hsent, hcancelled⟩

/-- A service that knows one text. -/
def onlyBye : Provider Unit :=
  ⟨"bye", fun s rs => ⟨.ok (rs.map fun r =>
    ⟨"Adieu", r.text, r.text = Text.ofString "Bye", none⟩), [], s⟩⟩

/-- A sync is told to stop after its first batch, which failed. The sync that takes it up asks for
that leaf again, then for the other one, and leaves what one sync leaves. -/
theorem run_resumed_onlyBye :
    ∃ stopped resumed whole : State Unit,
      (run ⟨some (.whole 1), .whole 1, true, false⟩ onlyBye [] () (some 1) "en" "fr" twoLeaves
        []).result = .ok stopped ∧
      stopped.result.cancelled = true ∧
      (run ⟨some (.whole 1), .whole 1, true, false⟩ onlyBye stopped.hashes stopped.service none "en"
        "fr" twoLeaves stopped.result.data).result = .ok resumed ∧
      (run ⟨some (.whole 1), .whole 1, true, false⟩ onlyBye [] () none "en" "fr" twoLeaves
        []).result = .ok whole ∧
      resumed.result.data = whole.result.data ∧ resumed.hashes = whole.hashes := by
  have hknows : ∀ (a : Unit) (rs : List Request), (onlyBye.answer a rs).outcomes =
      .ok (rs.map fun r => ⟨"Adieu", r.text, r.text = Text.ofString "Bye", none⟩) := fun _ _ => rfl
  have hcancelled : ((run ⟨some (.whole 1), .whole 1, true, false⟩ onlyBye [] () (some 1) "en" "fr"
      twoLeaves []).result.toOption.map fun st => st.result.cancelled) = some true := by
    decide +kernel
  obtain ⟨⟨e, herror, -⟩ | ⟨stopped, resumed, whole, -, -, -, hstopped, hresumed, hwhole, hsame, -⟩,
    -⟩ := run_resumed (s := ⟨some (.whole 1), .whole 1, true, false⟩) hknows distinct_twoLeaves
      (by decide) [] () "en" "fr" [] 1
  · rw [herror] at hcancelled
    cases hcancelled
  · rw [hstopped] at hcancelled
    exact ⟨stopped, resumed, whole, hstopped, Option.some.inj hcancelled, hresumed, hwhole,
      hsame.data, hsame.hashes⟩

end Localization.Sync
