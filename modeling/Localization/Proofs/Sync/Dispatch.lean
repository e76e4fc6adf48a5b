import Localization.Proofs.Sync.Selection
import Localization.Proofs.Sync.Settle

/-!
# The calls of a sync

Whatever the settings, a sync sends some of its batches, in their order, and applies the outcomes in
that order. A `Call` is a batch with what the service gave back for it, and `Progress` says what
lies between two states of a sync: the calls that were made, each answered by the service as the
calls before had left it, and the walk (`settle`) over the leaves with the outcomes at their places.

Batches that are sent one after another and windows of batches both make progress in this sense
(`oneByOne_progress`, `byWindows_progress`): in a window all batches are sent before any outcome is
applied, but sending reads nothing that applying changes. `run_progress` says it of a whole sync.
-/

namespace Localization.Sync

variable {σ : Type}

/-! ## Cutting lists -/

/-- The pieces of a list are the list. -/
theorem flatten_chunks {α : Type} (size : Nat) (xs : List α) : (chunks size xs).flatten = xs := by
  fun_induction chunks size xs with
  | case1 => rfl
  | case2 x xs ih => rw [List.flatten_cons, ih, List.cons_append, List.take_append_drop]

/-! ## Calls -/

/-- A batch that was sent, with what the service gave back for it. -/
structure Call where
  batch : List Pending
  reply : Except Failure (List Outcome)

namespace Call

/-- What the service said at a place of a batch, if it said anything there. -/
def resultAt? (c : Call) (i : Nat) : Option Outcome :=
  match c.reply with
  | .ok outcomes => outcomes[i]?
  | .error _ => none

/-- The outcome of a leaf about which the service said nothing. -/
def unanswered (c : Call) (p : Pending) : Outcome :=
  match c.reply with
  | .ok _ => noOutcome
  | .error e => .failure p.text (reasonOf e)

/-- The leaves of a batch, each with the outcome at its own place. -/
def answers (c : Call) : List (Pending × Outcome) :=
  c.batch.zipIdx.map fun x => (x.1, (c.resultAt? x.2).getD (c.unanswered x.1))

/-- The outcomes of a batch as they are applied. -/
def outcomes (source target : Text) (c : Call) : List Outcome :=
  outcomesOf (requestsOf source target c.batch) c.reply

end Call

/-- In place of an outcome that is missing stands the one for no answer. -/
theorem getElem?_aligned {n i : Nat} (os : List Outcome) (h : i < n) :
    (aligned n os)[i]? = some (os[i]?.getD noOutcome) := by
  unfold aligned
  by_cases hi : i < os.length
  · rw [List.getElem?_append_left (by simp; omega), List.getElem?_take_of_lt h,
      List.getElem?_eq_getElem hi]
    rfl
  · rw [List.getElem?_append_right (by simp; omega), List.getElem?_replicate_of_lt (by simp; omega),
      List.getElem?_eq_none (by omega)]
    rfl

/-- As many outcomes as were asked for are taken as they are. -/
theorem aligned_of_length {n : Nat} {os : List Outcome} (h : os.length = n) :
    aligned n os = os := by
  rw [aligned, ← h, List.take_length, Nat.sub_self, List.replicate_zero, List.append_nil]

/-- The outcome of a leaf is the one at its place, or the failure of a leaf that got none. -/
theorem Call.getElem?_outcomes (source target : Text) (c : Call) {i : Nat} {p : Pending}
    (h : c.batch[i]? = some p) :
    (c.outcomes source target)[i]? = some ((c.resultAt? i).getD (c.unanswered p)) := by
  obtain ⟨hi, -⟩ := List.getElem?_eq_some_iff.1 h
  unfold outcomes outcomesOf resultAt? unanswered requestsOf
  cases c.reply with
  | error e => simp [h]
  | ok os => simpa using getElem?_aligned os hi

/-- Pairing leaves with outcomes pairs each leaf with the outcome at its own place. -/
theorem Call.zip_outcomes (source target : Text) (c : Call) :
    c.batch.zip (c.outcomes source target) = c.answers := by
  refine List.ext_getElem? fun i => ?_
  unfold answers
  rw [List.getElem?_map, List.getElem?_zipIdx, Nat.zero_add]
  cases hp : c.batch[i]? with
  | none =>
    have hlen : c.batch.length ≤ i := List.getElem?_eq_none_iff.1 hp
    rw [Option.map_none, Option.map_none, List.getElem?_eq_none_iff, List.length_zip]
    exact (Nat.min_le_left _ _).trans hlen
  | some p =>
    have hpair : (c.batch.zip (c.outcomes source target))[i]? =
        some (p, (c.resultAt? i).getD (c.unanswered p)) :=
      List.getElem?_zip_eq_some.2 ⟨hp, c.getElem?_outcomes source target hp⟩
    rw [hpair]
    rfl

@[simp] theorem Call.map_fst_answers (c : Call) : c.answers.map Prod.fst = c.batch := by
  simp only [answers, List.map_map, Function.comp_def]
  exact List.zipIdx_map_fst 0 c.batch

/-- The leaves with answers are those of the batches that were sent. -/
theorem map_fst_flatMap_answers (calls : List Call) :
    (calls.flatMap Call.answers).map Prod.fst = calls.flatMap Call.batch := by
  simp [List.map_flatMap]

/-! ## Progress -/

/-- Calls that follow one another: each reply is what the service answers with what it remembers of
the calls before. -/
def Replies (provider : Provider σ) (source target : Text) : σ → List Call → σ → Prop
  | s, [], s' => s' = s
  | s, c :: cs, s' =>
    c.reply = (provider.answer s (requestsOf source target c.batch)).outcomes ∧
      Replies provider source target
        (provider.answer s (requestsOf source target c.batch)).state cs s'

/-- Calls that follow on others are answered in the state that these left. -/
theorem Replies.append {provider : Provider σ} {source target : Text} {s s' s'' : σ}
    {cs ds : List Call} (h : Replies provider source target s cs s')
    (h' : Replies provider source target s' ds s'') :
    Replies provider source target s (cs ++ ds) s'' := by
  induction cs generalizing s with
  | nil => exact h ▸ h'
  | cons c cs ih => exact ⟨h.1, ih h.2⟩

/-- What lies between two states of a sync that has `batches` to send: the calls it made. They are
its first batches, all of them unless it was told to stop. -/
structure Progress (check : Bool) (provider : Provider σ) (batches : List (List Pending))
    (st : State σ) (calls : List Call) (st' : State σ) : Prop where
  replies : Replies provider st.result.source st.result.target st.service calls st'.service
  sent : calls.map Call.batch <+: batches
  complete : st'.result.cancelled = false → calls.map Call.batch = batches
  result : st'.result =
    { (settle check st.result st.hashes (calls.flatMap Call.answers)).1 with
      cancelled := st'.result.cancelled }
  hashes : st'.hashes = (settle check st.result st.hashes (calls.flatMap Call.answers)).2

namespace Progress

variable {check : Bool} {provider : Provider σ} {st st' st'' : State σ}
  {batches more : List (List Pending)} {calls calls' : List Call}

/-- A sync that stops, or has nothing to send, made no call. -/
theorem refl (st : State σ) : Progress check provider [] st [] st where
  replies := rfl
  sent := List.nil_prefix
  complete _ := rfl
  result := rfl
  hashes := rfl

/-- A run that is cancelled makes no call. -/
theorem cancel (st : State σ) (batches : List (List Pending)) :
    Progress check provider batches st [] st.cancel where
  replies := rfl
  sent := List.nil_prefix
  complete h := nomatch h
  result := rfl
  hashes := rfl

/-- Progress with some batches and then with more is progress with all of them. -/
theorem trans (h : Progress check provider batches st calls st')
    (hall : calls.map Call.batch = batches)
    (hc : st'.result.cancelled = st.result.cancelled)
    (h' : Progress check provider more st' calls' st'') :
    Progress check provider (batches ++ more) st (calls ++ calls') st'' := by
  have hres : st'.result =
      (settle check st.result st.hashes (calls.flatMap Call.answers)).1 := by
    rw [h.result, hc, settle_eq]
  refine ⟨?_, ?_, ?_, ?_, ?_⟩
  · refine h.replies.append ?_
    have := h'.replies
    rwa [hres, settle_source, settle_target] at this
  · rw [List.map_append, hall]
    exact (List.prefix_append_right_inj batches).2 h'.sent
  · intro hno
    rw [List.map_append, hall, h'.complete hno]
  · rw [List.flatMap_append, settle_append, ← hres, ← h.hashes]
    exact h'.result
  · rw [List.flatMap_append, settle_append, ← hres, ← h.hashes]
    exact h'.hashes

/-- The leaves that were sent are the first of those that were to be sent. -/
theorem leaves_sent (h : Progress check provider batches st calls st') :
    calls.flatMap Call.batch <+: batches.flatten := by
  obtain ⟨rest, hrest⟩ := h.sent
  refine ⟨rest.flatten, ?_⟩
  rw [← hrest, List.flatten_append, List.flatMap_def]

/-- A run that was not cancelled has sent all its leaves. -/
theorem leaves_complete (h : Progress check provider batches st calls st')
    (hno : st'.result.cancelled = false) : calls.flatMap Call.batch = batches.flatten := by
  rw [← h.complete hno, List.flatMap_def]

section
variable {hashes : Hashes} {service : σ} {sl tl : Text} {target : Catalog} {skipped : Nat}

/-- The data of a run is the target with all that was written. -/
theorem data_eq (h : Progress check provider batches
      (start hashes service sl tl target skipped) calls st) :
    st.result.data = writeAll target (written check (calls.flatMap Call.answers)) := by
  rw [h.result, settle_eq]
  rfl

/-- The keys that a run asked for are those of the leaves in its calls. -/
theorem requested_eq (h : Progress check provider batches
      (start hashes service sl tl target skipped) calls st) :
    st.result.requested = (calls.flatMap Call.batch).map (·.key) := by
  rw [h.result, settle_eq, ← map_fst_flatMap_answers, List.map_map]
  rfl

/-- The keys that a run translated are those of what was written. -/
theorem translated_eq (h : Progress check provider batches
      (start hashes service sl tl target skipped) calls st) :
    st.result.translated = (written check (calls.flatMap Call.answers)).map (·.1.key) := by
  rw [h.result, settle_eq]
  rfl

/-- The failures of a run are those of what was refused. -/
theorem failed_eq (h : Progress check provider batches
      (start hashes service sl tl target skipped) calls st) :
    st.result.failed = failAll [] (refused check (calls.flatMap Call.answers)) := by
  rw [h.result, settle_eq]
  rfl

/-- The digests after a run are those before with all that was written recorded. -/
theorem hashes_eq (h : Progress check provider batches
      (start hashes service sl tl target skipped) calls st) :
    st.hashes = recordAll hashes (written check (calls.flatMap Call.answers)) := by
  rw [h.hashes, settle_eq]
  rfl

end

end Progress

/-! ## One batch after another -/

/-- The call that sending a batch makes. -/
def State.callOf (provider : Provider σ) (st : State σ) (batch : List Pending) : Call :=
  ⟨batch, (provider.answer st.service
    (requestsOf st.result.source st.result.target batch)).outcomes⟩

/-- Sending a batch and applying its outcomes is progress by one call. -/
theorem send_apply_progress (check : Bool) (provider : Provider σ) (st : State σ)
    (batch : List Pending) :
    Progress check provider [batch] st [st.callOf provider batch]
      ((st.send provider batch).2.apply check batch (st.send provider batch).1) := by
  have happly : applyAll check st.result st.hashes batch (st.send provider batch).1 =
      settle check st.result st.hashes (st.callOf provider batch).answers := by
    rw [applyAll_eq_settle, ← Call.zip_outcomes st.result.source st.result.target]
    rfl
  refine ⟨⟨rfl, rfl⟩, List.prefix_refl _, fun _ => rfl, ?_, ?_⟩
  · simp only [List.flatMap_singleton, ← happly]
    rfl
  · simp only [List.flatMap_singleton, ← happly]
    rfl

/-- Applying outcomes does not change whether a run is cancelled. -/
theorem cancelled_apply (check : Bool) (st : State σ) (batch : List Pending) (os : List Outcome) :
    (st.apply check batch os).result.cancelled = st.result.cancelled := by
  show (applyAll check st.result st.hashes batch os).1.cancelled = _
  rw [applyAll_eq_settle, settle_cancelled]

/-- Batches that are sent one after another make progress. -/
theorem oneByOne_progress (check : Bool) (provider : Provider σ) (checks : Checks) (st : State σ)
    (batches : List (List Pending)) :
    ∃ calls, Progress check provider batches st calls
      (oneByOne check provider checks st batches) := by
  induction batches generalizing checks st with
  | nil => exact ⟨[], .refl st⟩
  | cons batch rest ih =>
    unfold oneByOne
    cases checks.step with
    | none => exact ⟨[], .cancel st _⟩
    | some checks =>
      obtain ⟨calls, hcalls⟩ :=
        ih checks ((st.send provider batch).2.apply check batch (st.send provider batch).1)
      exact ⟨_, (send_apply_progress check provider st batch).trans rfl
        (cancelled_apply check _ batch _) hcalls⟩

/-- A sync that cannot be stopped is not stopped. -/
theorem cancelled_oneByOne_none (check : Bool) (provider : Provider σ) (st : State σ)
    (batches : List (List Pending)) :
    (oneByOne check provider none st batches).result.cancelled = st.result.cancelled := by
  induction batches generalizing st with
  | nil => rfl
  | cons batch rest ih => exact (ih _).trans (cancelled_apply check _ batch _)

/-! ## Windows -/

/-- Sending the batches of a window makes one call for each and applies nothing. -/
theorem sendWindow_calls (provider : Provider σ) (st : State σ) (window : List (List Pending)) :
    ∃ calls : List Call, calls.map Call.batch = window ∧
      Replies provider st.result.source st.result.target st.service calls
        (sendWindow provider st window).2.service ∧
      (sendWindow provider st window).1 =
        calls.map (Call.outcomes st.result.source st.result.target) ∧
      (sendWindow provider st window).2.result = st.result ∧
      (sendWindow provider st window).2.hashes = st.hashes := by
  induction window generalizing st with
  | nil => exact ⟨[], rfl, rfl, rfl, rfl, rfl⟩
  | cons batch rest ih =>
    obtain ⟨calls, hmap, hreplies, hout, hres, hhash⟩ := ih (st.send provider batch).2
    refine ⟨st.callOf provider batch :: calls, ?_, ⟨rfl, hreplies⟩, ?_, hres, hhash⟩
    · rw [List.map_cons, hmap]
      rfl
    · have hstep : (sendWindow provider st (batch :: rest)).1 =
          (st.send provider batch).1 :: (sendWindow provider (st.send provider batch).2 rest).1 :=
        rfl
      rw [hstep, hout]
      rfl

/-- Applying the outcomes of a window is one walk over the leaves of its calls. -/
theorem applyWindow_eq (check : Bool) (source target : Text) (st : State σ) (calls : List Call) :
    applyWindow check st (calls.map Call.batch) (calls.map (Call.outcomes source target)) =
      { st with
        result := (settle check st.result st.hashes (calls.flatMap Call.answers)).1
        hashes := (settle check st.result st.hashes (calls.flatMap Call.answers)).2 } := by
  induction calls generalizing st with
  | nil => rfl
  | cons c calls ih =>
    have happly : applyAll check st.result st.hashes c.batch (c.outcomes source target) =
        settle check st.result st.hashes c.answers := by
      rw [applyAll_eq_settle, Call.zip_outcomes]
    rw [List.map_cons, List.map_cons, applyWindow, ih, List.flatMap_cons, settle_append]
    simp only [State.apply, happly]

/-- A window of batches is progress by all of them. -/
theorem window_progress (check : Bool) (provider : Provider σ) (st : State σ)
    (window : List (List Pending)) :
    ∃ calls, calls.map Call.batch = window ∧
      Progress check provider window st calls
        (applyWindow check (sendWindow provider st window).2 window
          (sendWindow provider st window).1) ∧
      (applyWindow check (sendWindow provider st window).2 window
        (sendWindow provider st window).1).result.cancelled = st.result.cancelled := by
  obtain ⟨calls, hmap, hreplies, hout, hres, hhash⟩ := sendWindow_calls provider st window
  have happly := applyWindow_eq check st.result.source st.result.target
    (sendWindow provider st window).2 calls
  rw [hmap, ← hout, hres, hhash] at happly
  refine ⟨calls, hmap, ?_, ?_⟩
  · rw [happly]
    exact ⟨hreplies, hmap ▸ List.prefix_refl _, fun _ => hmap, rfl, rfl⟩
  · rw [happly]
    exact settle_cancelled ..

/-- Batches that are sent in windows make progress. -/
theorem byWindows_progress (check : Bool) (provider : Provider σ) (checks : Checks) (st : State σ)
    (windows : List (List (List Pending))) :
    ∃ calls, Progress check provider windows.flatten st calls
      (byWindows check provider checks st windows) := by
  induction windows generalizing checks st with
  | nil => exact ⟨[], .refl st⟩
  | cons window rest ih =>
    unfold byWindows
    cases checks.step with
    | none => exact ⟨[], .cancel st _⟩
    | some checks =>
      obtain ⟨calls, hmap, hwindow, hc⟩ := window_progress check provider st window
      obtain ⟨calls', hrest⟩ := ih checks
        (applyWindow check (sendWindow provider st window).2 window
          (sendWindow provider st window).1)
      exact ⟨calls ++ calls', hwindow.trans hmap hc hrest⟩

/-- Without checks no window cancels a run. -/
theorem cancelled_byWindows_none (check : Bool) (provider : Provider σ) (st : State σ)
    (windows : List (List (List Pending))) :
    (byWindows check provider none st windows).result.cancelled = st.result.cancelled := by
  induction windows generalizing st with
  | nil => rfl
  | cons window rest ih =>
    obtain ⟨-, -, -, hc⟩ := window_progress check provider st window
    exact (ih _).trans hc

/-! ## Whole syncs -/

/-- However batches are sent, they make progress. -/
theorem dispatch_progress {s : Settings} {provider : Provider σ} {checks : Checks}
    {st st' : State σ} {batches : List (List Pending)}
    (h : dispatch s provider checks st batches = .ok st') :
    ∃ calls, Progress s.checkPlaceholders provider batches st calls st' := by
  unfold dispatch at h
  split at h
  next =>
    cases h
    exact oneByOne_progress ..
  next n _ _ =>
    cases h
    have hwindows := byWindows_progress s.checkPlaceholders provider checks st (chunks n batches)
    rwa [flatten_chunks] at hwindows
  next => cases h

/-- The batches of what is left to translate hold it, in its order. -/
theorem flatten_batchesOf {s : Settings} {ps : List Pending} {batches : List (List Pending)}
    (h : batchesOf s ps = .ok batches) : batches.flatten = ps := by
  unfold batchesOf at h
  split at h
  · cases h
    exact flatten_chunks _ _
  · cases h
    exact flatten_chunks _ _
  · cases h

/-- A whole size, or none, cuts every list. -/
theorem exists_batchesOf {s : Settings} (hb : s.batchSize ≠ some .fractional) (ps : List Pending) :
    ∃ batches, batchesOf s ps = .ok batches := by
  unfold batchesOf
  split
  · exact ⟨_, rfl⟩
  · exact ⟨_, rfl⟩
  · exact absurd ‹_› hb

section
variable {s : Settings} {provider : Provider σ} {hashes : Hashes} {service : σ} {checks : Checks}
  {sl tl : Text} {source target : Catalog} {st : State σ}

/-- A whole number of batches under way at once sends every list of batches. -/
theorem exists_dispatch (hc : s.maxConcurrency ≠ .fractional) (batches : List (List Pending)) :
    ∃ st', dispatch s provider checks st batches = .ok st' := by
  unfold dispatch
  split
  · exact ⟨_, rfl⟩
  · exact ⟨_, rfl⟩
  · exact absurd ‹_› hc

/-- What a sync comes to, its records left out: it fails if the selection does, ends at once if
there is nothing to translate, and sends batches otherwise. -/
theorem run_result : (run s provider hashes service checks sl tl source target).result =
    (pending s.retranslateChanged hashes source target).mapError .encoding >>= fun ps =>
      if ps.isEmpty then .ok (start hashes service sl tl target (source.leaves.length - ps.length))
      else batchesOf s ps >>= dispatch s provider checks
        (start hashes service sl tl target (source.leaves.length - ps.length)) := by
  unfold run
  rw [Logged.result_bind]
  congr 1
  funext ps
  dsimp only
  split
  · rfl
  · rw [Logged.result_bind]
    congr 1
    funext batches
    rw [Logged.result_bind]
    show (Logged.bind _ _).result = _
    unfold Logged.bind
    cases dispatch s provider checks
      (start hashes service sl tl target (source.leaves.length - ps.length)) batches with
    | error e => rfl
    | ok st => rfl

/-- How a sync comes to its end: it had nothing to translate, or it cut what it had into batches and
sent them. -/
theorem run_ok_cases
    (h : (run s provider hashes service checks sl tl source target).result = .ok st) :
    ∃ ps, pending s.retranslateChanged hashes source target = .ok ps ∧
      (ps = [] ∧ st = start hashes service sl tl target source.leaves.length ∨
        ps ≠ [] ∧ ∃ batches, batchesOf s ps = .ok batches ∧
          dispatch s provider checks (start hashes service sl tl target
            (source.leaves.length - ps.length)) batches = .ok st) := by
  rw [run_result] at h
  obtain ⟨ps, hps, h⟩ := bind_eq_ok.1 h
  refine ⟨ps, mapError_eq_ok.1 hps, ?_⟩
  split at h
  next hempty =>
    obtain rfl := List.isEmpty_iff.1 hempty
    exact .inl ⟨rfl, (Except.ok.inj h).symm⟩
  next hempty =>
    obtain ⟨batches, hbatches, hdispatch⟩ := bind_eq_ok.1 h
    exact .inr ⟨fun hnil => hempty (by rw [hnil]; rfl), batches, hbatches, hdispatch⟩

/-- A sync with whole limits that made its selection comes to its end, whatever the service does. -/
theorem exists_run_of_pending (hb : s.batchSize ≠ some .fractional)
    (hc : s.maxConcurrency ≠ .fractional) {ps : List Pending}
    (hps : pending s.retranslateChanged hashes source target = .ok ps) :
    ∃ st, (run s provider hashes service checks sl tl source target).result = .ok st := by
  obtain ⟨batches, hbatches⟩ := exists_batchesOf hb ps
  rw [run_result, mapError_eq_ok.2 hps, ok_bind]
  split
  · exact ⟨_, rfl⟩
  · rw [hbatches, ok_bind]
    exact exists_dispatch hc batches

/-- A sync with whole limits, of a source whose texts all have a UTF-8 form, comes to its end,
whatever the service does. -/
theorem exists_run_ok (hb : s.batchSize ≠ some .fractional) (hc : s.maxConcurrency ≠ .fractional)
    (h : ∀ l ∈ source.leaves, l.2.Encodable) :
    ∃ st, (run s provider hashes service checks sl tl source target).result = .ok st := by
  obtain ⟨ps, hps⟩ := exists_pending h s.retranslateChanged hashes target
  exact exists_run_of_pending hb hc hps

/-- A sync that had something to send had whole limits. -/
theorem whole_of_run
    (h : (run s provider hashes service checks sl tl source target).result = .ok st)
    {ps : List Pending} (hps : pending s.retranslateChanged hashes source target = .ok ps)
    (hne : ps ≠ []) : s.batchSize ≠ some .fractional ∧ s.maxConcurrency ≠ .fractional := by
  obtain ⟨ps', hps', ⟨rfl, -⟩ | ⟨-, batches, hbatches, hdispatch⟩⟩ := run_ok_cases h
  · rw [hps] at hps'
    exact absurd (Except.ok.inj hps') hne
  · refine ⟨fun hb => ?_, fun hc => ?_⟩
    · rw [batchesOf, hb] at hbatches
      cases hbatches
    · rw [dispatch, hc] at hdispatch
      cases hdispatch

/-- A sync that has nothing to translate does not turn to the service. -/
theorem run_of_pending_nil
    (h : pending s.retranslateChanged hashes source target = .ok []) :
    run s provider hashes service checks sl tl source target =
      ⟨[⟨.debug, tl ++ ": nothing to translate"⟩],
        .ok (start hashes service sl tl target source.leaves.length)⟩ := by
  unfold run
  rw [h]
  rfl

/-- Where a sync came to its end, every sync with the same settings does that selects something only
if the first one did. -/
theorem exists_run_of_run
    (h : (run s provider hashes service checks sl tl source target).result = .ok st)
    {ps : List Pending} (hps : pending s.retranslateChanged hashes source target = .ok ps)
    {hashes' : Hashes} {target' : Catalog} {ps' : List Pending}
    (hps' : pending s.retranslateChanged hashes' source target' = .ok ps')
    (hnil : ps = [] → ps' = []) (service' : σ) (checks' : Checks) :
    ∃ st', (run s provider hashes' service' checks' sl tl source target').result = .ok st' := by
  by_cases hne : ps = []
  · rw [hnil hne] at hps'
    exact ⟨_, by rw [run_of_pending_nil hps']⟩
  · obtain ⟨hb, hc⟩ := whole_of_run h hps hne
    exact exists_run_of_pending hb hc hps'

/-- A sync that fails does so before it asks whether to stop. -/
theorem run_eq_error {e : Failure}
    (h : (run s provider hashes service checks sl tl source target).result = .error e)
    (checks' : Checks) :
    (run s provider hashes service checks' sl tl source target).result = .error e := by
  rw [run_result] at h ⊢
  cases hps : (pending s.retranslateChanged hashes source target).mapError Failure.encoding with
  | error f =>
    rw [hps] at h
    exact h
  | ok ps =>
    rw [hps, ok_bind] at h
    rw [ok_bind]
    split at h
    · cases h
    · rw [if_neg ‹_›]
      cases hbatches : batchesOf s ps with
      | error f =>
        rw [hbatches] at h
        exact h
      | ok batches =>
        rw [hbatches, ok_bind] at h
        rw [ok_bind]
        unfold dispatch at h ⊢
        split at h
        · cases h
        · cases h
        · exact h

/-- A whole sync makes progress with what it selected. -/
theorem run_progress
    (h : (run s provider hashes service checks sl tl source target).result = .ok st) :
    ∃ ps batches calls, pending s.retranslateChanged hashes source target = .ok ps ∧
      batches.flatten = ps ∧
      Progress s.checkPlaceholders provider batches
        (start hashes service sl tl target (source.leaves.length - ps.length)) calls st := by
  obtain ⟨ps, hps, ⟨rfl, rfl⟩ | ⟨-, batches, hbatches, hdispatch⟩⟩ := run_ok_cases h
  · exact ⟨[], [], [], hps, rfl, .refl _⟩
  · obtain ⟨calls, hcalls⟩ := dispatch_progress hdispatch
    exact ⟨ps, batches, calls, hps, flatten_batchesOf hbatches, hcalls⟩

end

end Localization.Sync
