import Mathlib.Logic.Relation
import Localization.Proofs.Sync.Incremental

/-!
# Concurrent dispatch agrees with sequential dispatch

The batches of a window are under way at once and finish in any order, while their outcomes are
collected in the order in which they were handed out. `WindowStep` is one step of that: a batch of
the window finishes, or the first of them, if it is finished, is collected. `Ends` says how a sync
can end with such windows; the sync that `run` computes, where batches finish in the order in which
they were handed out, is one of them (`run_ends`).

With a service that answers each batch by a function of the batch, all of them come to the same. The
invariant of a window is that settling what is not collected yet, with the answers the function
gives, leads to the same result from every state of the window: a batch that finishes changes
neither the result nor these answers, and collecting one settles its part. `settled` is that result
for a whole sync. It knows of no windows, and if the function answers request by request, of no
batches either.
-/

namespace Localization.Sync

variable {σ : Type}

/-! ## Windows whose batches finish in any order -/

/-- A batch that was handed out, with its outcomes once it is finished. -/
structure Job where
  batch : List Pending
  outcomes : Option (List Outcome)

/-- The jobs of a window before any of them is finished. -/
def handedOut (window : List (List Pending)) : List Job := window.map fun batch => ⟨batch, none⟩

/-- A step of a window: some batch finishes, or the outcomes of the first one are collected. -/
inductive WindowStep (check : Bool) (provider : Provider σ) :
    State σ × List Job → State σ × List Job → Prop
  | finish (st : State σ) (before after : List Job) (batch : List Pending) :
      WindowStep check provider (st, before ++ ⟨batch, none⟩ :: after)
        ((st.send provider batch).2, before ++ ⟨batch, some (st.send provider batch).1⟩ :: after)
  | collect (st : State σ) (batch : List Pending) (os : List Outcome) (rest : List Job) :
      WindowStep check provider (st, ⟨batch, some os⟩ :: rest) (st.apply check batch os, rest)

/-- How batches in windows can come to an end, each window after a check. -/
inductive Windows (check : Bool) (provider : Provider σ) :
    Checks → State σ → List (List (List Pending)) → State σ → Prop
  | done (checks : Checks) (st : State σ) : Windows check provider checks st [] st
  | stop {checks : Checks} (st : State σ) (window : List (List Pending))
      (rest : List (List (List Pending))) (hstop : checks.step = none) :
      Windows check provider checks st (window :: rest) st.cancel
  | next {checks checks' : Checks} {st st' st'' : State σ} {window : List (List Pending)}
      {rest : List (List (List Pending))} (hgo : checks.step = some checks')
      (hwindow : Relation.ReflTransGen (WindowStep check provider) (st, handedOut window) (st', []))
      (hrest : Windows check provider checks' st' rest st'') :
      Windows check provider checks st (window :: rest) st''

/-- How sending batches can end. -/
def DispatchEnds (s : Settings) (provider : Provider σ) (checks : Checks) (st : State σ)
    (batches : List (List Pending)) (st' : State σ) : Prop :=
  ∃ n, s.maxConcurrency = .whole n ∧
    if n = 1 then st' = oneByOne s.checkPlaceholders provider checks st batches
    else Windows s.checkPlaceholders provider checks st (chunks n batches) st'

/-- How a sync can end when the batches of a window finish in any order. -/
def Ends (s : Settings) (provider : Provider σ) (hashes : Hashes) (service : σ) (checks : Checks)
    (sl tl : Text) (source target : Catalog) (st : State σ) : Prop :=
  ∃ ps, pending s.retranslateChanged hashes source target = .ok ps ∧
    (ps = [] ∧ st = start hashes service sl tl target source.leaves.length ∨
      ps ≠ [] ∧ ∃ batches, batchesOf s ps = .ok batches ∧
        DispatchEnds s provider checks
          (start hashes service sl tl target (source.leaves.length - ps.length)) batches st)

/-! ## Finishing in order is one of the orders -/

/-- All batches of a window can finish in the order in which they were handed out. -/
theorem finish_in_order (check : Bool) (provider : Provider σ) (st : State σ) (before : List Job)
    (window : List (List Pending)) :
    Relation.ReflTransGen (WindowStep check provider) (st, before ++ handedOut window)
      ((sendWindow provider st window).2, before ++
        (window.zip (sendWindow provider st window).1).map fun x => ⟨x.1, some x.2⟩) := by
  induction window generalizing st before with
  | nil => exact .refl
  | cons batch rest ih =>
    have hrest := ih (st.send provider batch).2
      (before ++ [⟨batch, some (st.send provider batch).1⟩])
    rw [List.append_assoc, List.append_assoc] at hrest
    exact .head (.finish st before (handedOut rest) batch) hrest

/-- Once all batches of a window are finished they can all be collected. -/
theorem collect_in_order (check : Bool) (provider : Provider σ) (st : State σ)
    (window : List (List Pending)) (all : List (List Outcome))
    (hlen : all.length = window.length) :
    Relation.ReflTransGen (WindowStep check provider)
      (st, (window.zip all).map fun x => ⟨x.1, some x.2⟩) (applyWindow check st window all, []) := by
  induction window generalizing st all with
  | nil => exact .refl
  | cons batch rest ih =>
    cases all with
    | nil => cases hlen
    | cons os all =>
      have hrest := ih (st.apply check batch os) all (Nat.succ.inj hlen)
      exact .head (.collect st batch os _) hrest

/-- The run by windows is one of the ways in which they can come to an end. -/
theorem byWindows_windows (check : Bool) (provider : Provider σ) (checks : Checks) (st : State σ)
    (windows : List (List (List Pending))) :
    Windows check provider checks st windows (byWindows check provider checks st windows) := by
  induction windows generalizing checks st with
  | nil => exact .done checks st
  | cons window rest ih =>
    unfold byWindows
    cases hstep : checks.step with
    | none => exact .stop st window rest hstep
    | some checks' =>
      obtain ⟨calls, hmap, -, hout, -⟩ := sendWindow_calls provider st window
      have hlen : (sendWindow provider st window).1.length = window.length := by
        rw [hout, ← hmap, List.length_map, List.length_map]
      exact .next hstep ((finish_in_order check provider st [] window).trans
        (collect_in_order check provider _ window _ hlen)) (ih checks' _)

/-- The sync that is computed ends as a sync can end. -/
theorem run_ends {s : Settings} {provider : Provider σ} {hashes : Hashes} {service : σ}
    {checks : Checks} {sl tl : Text} {source target : Catalog} {st : State σ}
    (h : (run s provider hashes service checks sl tl source target).result = .ok st) :
    Ends s provider hashes service checks sl tl source target st := by
  obtain ⟨ps, hps, hnil | ⟨hne, batches, hbatches, hdispatch⟩⟩ := run_ok_cases h
  · exact ⟨ps, hps, .inl hnil⟩
  · refine ⟨ps, hps, .inr ⟨hne, batches, hbatches, ?_⟩⟩
    unfold dispatch at hdispatch
    split at hdispatch
    next hone => exact ⟨1, hone, (Except.ok.inj hdispatch).symm⟩
    next n hne hn =>
      cases hdispatch
      refine ⟨n, hn, ?_⟩
      rw [if_neg hne]
      exact byWindows_windows ..
    next => cases hdispatch

/-! ## Services that answer by a function -/

/-- The call of a batch that is answered by a function of its requests. -/
def callBy (F : List Request → Except Failure (List Outcome)) (sl tl : Text)
    (batch : List Pending) : Call :=
  ⟨batch, F (requestsOf sl tl batch)⟩

/-- Leaves of batches with the outcomes that a function of the batches gives. -/
def answersBy (F : List Request → Except Failure (List Outcome)) (sl tl : Text)
    (batches : List (List Pending)) : List (Pending × Outcome) :=
  batches.flatMap fun batch => (callBy F sl tl batch).answers

/-- The answers to batches are those to the first and then those to the others. -/
theorem answersBy_append (F : List Request → Except Failure (List Outcome)) (sl tl : Text)
    (batches more : List (List Pending)) :
    answersBy F sl tl (batches ++ more) = answersBy F sl tl batches ++ answersBy F sl tl more :=
  List.flatMap_append

section
variable {F : List Request → Except Failure (List Outcome)} {provider : Provider σ} {sl tl : Text}
  {check : Bool}

/-- The calls of such a service are known by their batches. -/
theorem Replies.answers_eq (hF : ∀ a rs, (provider.answer a rs).outcomes = F rs) {s s' : σ}
    {calls : List Call} (h : Replies provider sl tl s calls s') :
    calls.flatMap Call.answers = answersBy F sl tl (calls.map Call.batch) := by
  induction calls generalizing s with
  | nil => rfl
  | cons c calls ih =>
    have hc : callBy F sl tl c.batch = c := by
      unfold callBy
      rw [← hF s, ← h.1]
    have hrest : calls.flatMap Call.answers = answersBy F sl tl (calls.map Call.batch) := ih h.2
    unfold answersBy at hrest ⊢
    rw [List.map_cons, List.flatMap_cons, List.flatMap_cons, hc, hrest]

/-- Every finished job of a window has the outcomes that the function gives. -/
def JobsBy (F : List Request → Except Failure (List Outcome)) (sl tl : Text) (jobs : List Job) :
    Prop :=
  ∀ j ∈ jobs, ∀ os, j.outcomes = some os → os = (callBy F sl tl j.batch).outcomes sl tl

/-- What a step of a window keeps: finished jobs have the outcomes the function gives, and settling
the jobs that are left leads to the same. -/
theorem WindowStep.settle_eq (hF : ∀ a rs, (provider.answer a rs).outcomes = F rs)
    {st st' : State σ} {jobs jobs' : List Job}
    (h : WindowStep check provider (st, jobs) (st', jobs'))
    (hsl : st.result.source = sl) (htl : st.result.target = tl) (hjobs : JobsBy F sl tl jobs) :
    st'.result.source = sl ∧ st'.result.target = tl ∧ JobsBy F sl tl jobs' ∧
      settle check st'.result st'.hashes (answersBy F sl tl (jobs'.map Job.batch)) =
        settle check st.result st.hashes (answersBy F sl tl (jobs.map Job.batch)) := by
  cases h with
  | finish _ before after batch =>
    refine ⟨hsl, htl, ?_, by simp only [List.map_append, List.map_cons]; rfl⟩
    intro j hj os hos
    rw [List.mem_append, List.mem_cons] at hj
    rcases hj with hj | rfl | hj
    · exact hjobs j (by simp [hj]) os hos
    · cases hos
      show outcomesOf (requestsOf st.result.source st.result.target batch)
        (provider.answer st.service _).outcomes = _
      rw [hF, hsl, htl]
      rfl
    · exact hjobs j (by simp [hj]) os hos
  | collect _ batch os =>
    have happly : applyAll check st.result st.hashes batch os =
        settle check st.result st.hashes (callBy F sl tl batch).answers := by
      have hos : os = (callBy F sl tl batch).outcomes sl tl :=
        hjobs ⟨batch, some os⟩ List.mem_cons_self os rfl
      rw [applyAll_eq_settle, hos]
      exact congrArg (settle check st.result st.hashes)
        (Call.zip_outcomes sl tl (callBy F sl tl batch))
    have hres : (st.apply check batch os).result =
        (settle check st.result st.hashes (callBy F sl tl batch).answers).1 :=
      congrArg Prod.fst happly
    have hhash : (st.apply check batch os).hashes =
        (settle check st.result st.hashes (callBy F sl tl batch).answers).2 :=
      congrArg Prod.snd happly
    refine ⟨?_, ?_, fun j hj => hjobs j (List.mem_cons_of_mem _ hj), ?_⟩
    · rw [hres, settle_source, hsl]
    · rw [hres, settle_target, htl]
    · rw [hres, hhash, ← settle_append, List.map_cons]
      rfl

/-- In whatever order the batches of a window finish, the window settles them all. -/
theorem window_settle (hF : ∀ a rs, (provider.answer a rs).outcomes = F rs) {st st' : State σ}
    {jobs : List Job}
    (h : Relation.ReflTransGen (WindowStep check provider) (st, jobs) (st', []))
    (hsl : st.result.source = sl) (htl : st.result.target = tl) (hjobs : JobsBy F sl tl jobs) :
    (st'.result, st'.hashes) =
      settle check st.result st.hashes (answersBy F sl tl (jobs.map Job.batch)) := by
  generalize hx : (st, jobs) = x at h
  generalize hy : (st', ([] : List Job)) = y at h
  induction h using Relation.ReflTransGen.head_induction_on generalizing st jobs with
  | refl =>
    cases hy
    cases hx
    rfl
  | @head _ mid hstep _ ih =>
    obtain ⟨st₁, jobs₁⟩ := mid
    subst hx
    obtain ⟨hsl₁, htl₁, hjobs₁, heq⟩ := hstep.settle_eq hF hsl htl hjobs
    rw [← heq]
    exact ih hsl₁ htl₁ hjobs₁ rfl

/-- In whatever order its batches finish, a window that was handed out settles them all. -/
theorem handedOut_settle (hF : ∀ a rs, (provider.answer a rs).outcomes = F rs) {st st' : State σ}
    {window : List (List Pending)}
    (h : Relation.ReflTransGen (WindowStep check provider) (st, handedOut window) (st', []))
    (hsl : st.result.source = sl) (htl : st.result.target = tl) :
    st'.result = (settle check st.result st.hashes (answersBy F sl tl window)).1 ∧
      st'.hashes = (settle check st.result st.hashes (answersBy F sl tl window)).2 := by
  have hbatch : (handedOut window).map Job.batch = window := by
    simp [handedOut, Function.comp_def]
  have hjobs : JobsBy F sl tl (handedOut window) := by
    intro j hj os hos
    obtain ⟨batch, -, rfl⟩ := List.mem_map.1 hj
    cases hos
  have hsettle := window_settle hF h hsl htl hjobs
  rw [hbatch] at hsettle
  exact ⟨congrArg Prod.fst hsettle, congrArg Prod.snd hsettle⟩

/-- Batches in windows that are not stopped are all settled. -/
theorem Windows.settle_eq (hF : ∀ a rs, (provider.answer a rs).outcomes = F rs) {checks : Checks}
    {st st' : State σ} {windows : List (List (List Pending))}
    (h : Windows check provider checks st windows st') (hno : st'.result.cancelled = false)
    (hsl : st.result.source = sl) (htl : st.result.target = tl) :
    (st'.result, st'.hashes) =
      settle check st.result st.hashes (answersBy F sl tl windows.flatten) := by
  induction h with
  | done => rfl
  | stop => cases hno
  | @next _ _ st₀ st₁ st₂ window rest _ hwindow _ ih =>
    obtain ⟨hres, hhash⟩ := handedOut_settle hF hwindow hsl htl
    rw [ih hno (by rw [hres, settle_source, hsl]) (by rw [hres, settle_target, htl]), hres, hhash,
      ← settle_append, List.flatten_cons, answersBy_append]

/-- Progress that is not stopped settles all batches. -/
theorem Progress.settle_eq (hF : ∀ a rs, (provider.answer a rs).outcomes = F rs)
    {st st' : State σ} {batches : List (List Pending)} {calls : List Call}
    (h : Progress check provider batches st calls st') (hno : st'.result.cancelled = false)
    (hst : st.result.cancelled = false) (hsl : st.result.source = sl)
    (htl : st.result.target = tl) :
    (st'.result, st'.hashes) = settle check st.result st.hashes (answersBy F sl tl batches) := by
  have hreplies := h.replies
  rw [hsl, htl] at hreplies
  rw [← h.complete hno, ← hreplies.answers_eq hF, h.hashes, h.result, hno]
  have hkeep : (settle check st.result st.hashes (calls.flatMap Call.answers)).1.cancelled =
      false := by rw [settle_cancelled, hst]
  rw [← hkeep]

end

/-! ## Whole syncs -/

/-- What a sync shows: its result and the digests it leaves behind. -/
def State.seen (st : State σ) : Result × Hashes := (st.result, st.hashes)

/-- What a sync comes to if each batch is answered by a function of its requests. -/
def settled (s : Settings) (F : List Request → Except Failure (List Outcome)) (hashes : Hashes)
    (sl tl : Text) (source target : Catalog) : Except Failure (Result × Hashes) := do
  let ps ← (pending s.retranslateChanged hashes source target).mapError .encoding
  let batches ← if ps.isEmpty then pure [] else batchesOf s ps
  let st := start hashes () sl tl target (source.leaves.length - ps.length)
  return settle s.checkPlaceholders st.result hashes (answersBy F sl tl batches)

section
variable {s : Settings} {F : List Request → Except Failure (List Outcome)} {provider : Provider σ}
  {hashes : Hashes} {service : σ} {checks : Checks} {sl tl : Text} {source target : Catalog}
  {st : State σ}

/-- However a sync ends that is not stopped, it comes to what the function settles. -/
theorem Ends.settled_eq (hF : ∀ a rs, (provider.answer a rs).outcomes = F rs)
    (h : Ends s provider hashes service checks sl tl source target st)
    (hno : st.result.cancelled = false) :
    settled s F hashes sl tl source target = .ok st.seen := by
  obtain ⟨ps, hps, ⟨rfl, rfl⟩ | ⟨hne, batches, hbatches, n, -, hends⟩⟩ := h
  · unfold settled
    rw [hps]
    rfl
  · have hseen : st.seen = settle s.checkPlaceholders
        (start hashes service sl tl target (source.leaves.length - ps.length)).result hashes
        (answersBy F sl tl batches) := by
      split at hends
      · subst hends
        obtain ⟨calls, hcalls⟩ := oneByOne_progress s.checkPlaceholders provider checks
          (start hashes service sl tl target (source.leaves.length - ps.length)) batches
        exact hcalls.settle_eq hF hno rfl rfl rfl
      · have hwindows := hends.settle_eq hF hno rfl rfl
        rwa [flatten_chunks] at hwindows
    have hempty : ps.isEmpty = false := by simpa using hne
    unfold settled
    rw [hps, hseen]
    simp only [Except.mapError, Bind.bind, Except.bind, hempty, hbatches]
    rfl

/-- A sync that cannot be stopped is not. -/
theorem cancelled_run_none
    (h : (run s provider hashes service none sl tl source target).result = .ok st) :
    st.result.cancelled = false := by
  obtain ⟨ps, -, ⟨-, rfl⟩ | ⟨-, batches, -, hdispatch⟩⟩ := run_ok_cases h
  · rfl
  · unfold dispatch at hdispatch
    split at hdispatch
    · cases hdispatch
      exact cancelled_oneByOne_none ..
    · cases hdispatch
      exact cancelled_byWindows_none ..
    · cases hdispatch

/-- A sync that cannot be stopped and has whole limits comes to what the function settles, or fails
as it does. -/
theorem run_seen (hF : ∀ a rs, (provider.answer a rs).outcomes = F rs)
    (hc : s.maxConcurrency ≠ .fractional) :
    (run s provider hashes service none sl tl source target).result.map State.seen =
      settled s F hashes sl tl source target := by
  cases hrun : (run s provider hashes service none sl tl source target).result with
  | ok st =>
    exact ((run_ends hrun).settled_eq hF (cancelled_run_none hrun)).symm
  | error e =>
    rw [run_result] at hrun
    unfold settled
    cases hps : (pending s.retranslateChanged hashes source target).mapError Failure.encoding with
    | error f =>
      rw [hps] at hrun
      cases hrun
      rfl
    | ok ps =>
      rw [hps, ok_bind] at hrun
      split at hrun
      · cases hrun
      next hne =>
        cases hbatches : batchesOf s ps with
        | error f =>
          rw [hbatches] at hrun
          cases hrun
          rw [ok_bind, if_neg hne, hbatches]
          rfl
        | ok batches =>
          obtain ⟨st, hst⟩ : ∃ st, dispatch s provider none (start hashes service sl tl target
              (source.leaves.length - ps.length)) batches = .ok st := exists_dispatch hc batches
          rw [hbatches, ok_bind, hst] at hrun
          cases hrun

/-- Where requests are answered one by one, batches do not show: every leaf goes with the answer to
its own request. -/
theorem answersBy_map (f : Request → Outcome) (sl tl : Text) (batches : List (List Pending)) :
    answersBy (fun rs => .ok (rs.map f)) sl tl batches =
      batches.flatten.map fun p => (p, f ⟨p.text, sl, tl, some p.key⟩) := by
  induction batches with
  | nil => rfl
  | cons batch batches ih =>
    have hbatch : (callBy (fun rs => .ok (rs.map f)) sl tl batch).answers =
        batch.map fun p => (p, f ⟨p.text, sl, tl, some p.key⟩) := by
      have hout : (callBy (fun rs => .ok (rs.map f)) sl tl batch).outcomes sl tl =
          batch.map fun p => f ⟨p.text, sl, tl, some p.key⟩ := by
        show aligned (requestsOf sl tl batch).length ((requestsOf sl tl batch).map f) = _
        rw [aligned_of_length (List.length_map f), requestsOf, List.map_map]
        rfl
      have hzip : (batch.map id).zip (batch.map fun p => f ⟨p.text, sl, tl, some p.key⟩) =
          batch.map fun p => (p, f ⟨p.text, sl, tl, some p.key⟩) := List.zip_map'
      rw [List.map_id] at hzip
      rw [← Call.zip_outcomes sl tl, hout]
      exact hzip
    rw [List.flatten_cons, List.map_append, ← ih, ← hbatch]
    rfl

/-- Where requests are answered one by one, the size of batches does not matter. -/
theorem settled_batchSize (f : Request → Outcome) (hb : s.batchSize ≠ some .fractional)
    (b : Option Limit) (hb' : b ≠ some .fractional) :
    settled { s with batchSize := b } (fun rs => .ok (rs.map f)) hashes sl tl source target =
      settled s (fun rs => .ok (rs.map f)) hashes sl tl source target := by
  unfold settled
  cases pending s.retranslateChanged hashes source target with
  | error e => rfl
  | ok ps =>
    obtain ⟨batches, hbatches⟩ := exists_batchesOf hb ps
    obtain ⟨batches', hbatches'⟩ : ∃ batches, batchesOf { s with batchSize := b } ps = .ok batches :=
      exists_batchesOf hb' ps
    cases ps with
    | nil => rfl
    | cons p ps =>
      simp only [Except.mapError, Bind.bind, Except.bind, hbatches, hbatches', answersBy_map,
        flatten_batchesOf hbatches, flatten_batchesOf hbatches']

end

/-- **Concurrent dispatch agrees with sequential dispatch.** Let a service answer each batch by a
function of its requests, be it with failures or with the wrong number of results. A sync that has up
to `n` batches under way at once, ends in whatever order the batches of its windows finish, and is
not told to stop, has the result and leaves the digests of the sync that sends one batch after
another; the sync as it is computed is one of these, and where it fails before it sends anything,
both fail alike. If moreover each request is answered by itself, the size of batches does not matter
either. -/
theorem concurrent_agrees_sequential {s : Settings} {provider : Provider σ}
    {F : List Request → Except Failure (List Outcome)}
    (hF : ∀ a rs, (provider.answer a rs).outcomes = F rs) (n : Nat) (hashes : Hashes) (service : σ)
    (sl tl : Text) (source target : Catalog) :
    (∀ checks st, Ends { s with maxConcurrency := .whole n } provider hashes service checks sl tl
        source target st → st.result.cancelled = false →
      (run { s with maxConcurrency := .whole 1 } provider hashes service none sl tl source
        target).result.map State.seen = .ok st.seen) ∧
    (∀ checks st, (run { s with maxConcurrency := .whole n } provider hashes service checks sl tl
        source target).result = .ok st →
      Ends { s with maxConcurrency := .whole n } provider hashes service checks sl tl source target
        st) ∧
    (run { s with maxConcurrency := .whole n } provider hashes service none sl tl source
        target).result.map State.seen =
      (run { s with maxConcurrency := .whole 1 } provider hashes service none sl tl source
        target).result.map State.seen ∧
    (∀ f, (∀ rs, F rs = .ok (rs.map f)) → s.batchSize ≠ some .fractional →
      ∀ b, b ≠ some .fractional →
        (run { s with maxConcurrency := .whole n, batchSize := b } provider hashes service none sl tl
            source target).result.map State.seen =
          (run { s with maxConcurrency := .whole 1 } provider hashes service none sl tl source
            target).result.map State.seen) := by
  have hseen : ∀ (k : Nat) (b : Option Limit),
      (run { s with maxConcurrency := .whole k, batchSize := b } provider hashes service none sl tl
          source target).result.map State.seen =
        settled { s with batchSize := b } F hashes sl tl source target :=
    fun k b => run_seen hF nofun
  refine ⟨fun checks st hends hno => ?_, fun checks st hrun => run_ends hrun, ?_, ?_⟩
  · rw [hseen 1 s.batchSize]
    have hsettled := hends.settled_eq hF hno
    exact hsettled
  · rw [hseen n s.batchSize, hseen 1 s.batchSize]
  · intro f hf hb b hb'
    obtain rfl : F = fun rs => .ok (rs.map f) := funext hf
    rw [hseen n b, hseen 1 s.batchSize]
    exact settled_batchSize f hb b hb'

/-- A service that answers every request with its own text. -/
def echo : Provider Unit :=
  ⟨"echo", fun s rs => ⟨.ok (rs.map fun r => ⟨r.text, r.text, true, none⟩), [], s⟩⟩

/-- Two batches under way at once, of which the second one finishes first, come to the same as one
after the other. -/
theorem concurrent_agrees_sequential_echo :
    ∃ st, Ends ⟨some (.whole 1), .whole 2, true, false⟩ echo [] () none "en" "de" twoLeaves [] st ∧
      st.result.cancelled = false ∧
      (run ⟨some (.whole 1), .whole 1, true, false⟩ echo [] () none "en" "de" twoLeaves
        []).result.map State.seen = .ok st.seen ∧
      (run ⟨none, .whole 2, true, false⟩ echo [] () none "en" "de" twoLeaves []).result.map
        State.seen = .ok st.seen := by
  obtain ⟨ps, hps⟩ : ∃ ps, pending false [] twoLeaves [] = .ok ps :=
    exists_pending (by decide) false [] []
  have hkeys : ((pending false [] twoLeaves []).toOption.map fun ps => ps.length) = some 2 := by
    decide +kernel
  rw [hps] at hkeys
  obtain ⟨p, q, rfl⟩ := List.length_eq_two.1 (Option.some.inj hkeys)
  let st₀ : State Unit := start [] () "en" "de" [] (twoLeaves.leaves.length - [p, q].length)
  let st₁ := (st₀.send echo [q]).2
  let st₂ := (st₁.send echo [p]).2
  let st := (st₂.apply true [p] (st₁.send echo [p]).1).apply true [q] (st₀.send echo [q]).1
  have hwindow : Relation.ReflTransGen (WindowStep true echo) (st₀, handedOut [[p], [q]]) (st, []) :=
    .head (.finish st₀ [⟨[p], none⟩] [] [q]) <|
      .head (.finish st₁ [] [⟨[q], some (st₀.send echo [q]).1⟩] [p]) <|
        .head (.collect st₂ [p] _ _) (.single (.collect _ [q] _ []))
  have hends : Ends ⟨some (.whole 1), .whole 2, true, false⟩ echo [] () none "en" "de" twoLeaves []
      st := by
    refine ⟨[p, q], hps, .inr ⟨List.cons_ne_nil p [q], [[p], [q]], ?_, 2, rfl, ?_⟩⟩
    · simp [batchesOf, chunks]
    · rw [if_neg (by decide)]
      simp only [chunks, Nat.add_one_sub_one, List.take_succ_cons, List.take_zero,
        List.drop_succ_cons, List.drop_zero]
      exact .next rfl hwindow (.done _ _)
  have hno : st.result.cancelled = false := by
    rw [cancelled_apply, cancelled_apply]
    rfl
  have hecho : ∀ (a : Unit) (rs : List Request), (echo.answer a rs).outcomes =
      .ok (rs.map fun r => ⟨r.text, r.text, true, none⟩) := fun _ _ => rfl
  obtain ⟨hany, -, -, hsizes⟩ := concurrent_agrees_sequential
    (s := ⟨some (.whole 1), .whole 2, true, false⟩) hecho 2 [] () "en" "de" twoLeaves []
  have hseq := hany none st hends hno
  exact ⟨st, hends, hno, hseq, (hsizes _ (fun _ => rfl) (by decide) none nofun).trans hseq⟩

end Localization.Sync
