import Mathlib.Data.List.Forall2
import Mathlib.Data.List.Nodup
import Localization.Provider.DeepL

/-!
# Batches by pairs of locales

A batch is taken apart by pairs of locales, every pair goes out in one call, and the outcomes come
back in the order of the requests. What a call gives back reaches the requests it was made for and
no others, the item at a place the request at that place among them (`outcomesOf_outcomes`). So a
batch has one outcome for each request, whatever the service does, and where the service translates
text by text it is not seen that requests went out together.
-/

namespace Localization.Provider.DeepL

variable {σ : Type} {p q : Pair} {r : Request} {rs before : List Request} {answers : Answers}

/-! ## Pairs of locales -/

/-- The pairs of a batch are those of its requests. -/
theorem mem_pairsOf : p ∈ pairsOf rs ↔ ∃ r ∈ rs, pairOf r = p := by
  induction rs with
  | nil => simp [pairsOf]
  | cons r rs ih =>
    rw [pairsOf, List.mem_cons, List.mem_filter, ih, List.exists_mem_cons_iff]
    by_cases h : pairOf r = p
    · exact iff_of_true (.inl h.symm) (.inl h)
    · simp [h, Ne.symm h]

/-- No pair of locales is listed twice. -/
theorem nodup_pairsOf (rs : List Request) : (pairsOf rs).Nodup := by
  induction rs with
  | nil => exact .nil
  | cons r rs ih => exact List.nodup_cons.2 ⟨by simp, ih.filter _⟩

/-- The requests for a pair in two batches are those in the one and those in the other. -/
theorem requestsOf_append (p : Pair) (rs rs' : List Request) :
    requestsOf p (rs ++ rs') = requestsOf p rs ++ requestsOf p rs' := List.filter_append ..

/-- A request in front is the first for its own pair and none for another. -/
theorem requestsOf_cons (p : Pair) (r : Request) (rs : List Request) :
    requestsOf p (r :: rs) = if pairOf r = p then r :: requestsOf p rs else requestsOf p rs := by
  simp [requestsOf, List.filter_cons]

/-- A request behind is the last for its own pair and none for another. -/
theorem requestsOf_concat (p : Pair) (rs : List Request) (r : Request) :
    requestsOf p (rs ++ [r]) =
      if pairOf r = p then requestsOf p rs ++ [r] else requestsOf p rs := by
  rw [requestsOf_append, requestsOf_cons]
  split
  · rfl
  · exact List.append_nil _

/-! ## Calls -/

/-- What a service answers to calls that are made one after another. -/
def answersTo (send : σ → Call → Except Failure Items × σ) (s : σ) :
    List Call → List (Except Failure Items)
  | [] => []
  | c :: rest => (send s c).1 :: answersTo send (send s c).2 rest

/-- Every call has an answer. -/
theorem length_answersTo (send : σ → Call → Except Failure Items × σ) (s : σ)
    (calls : List Call) : (answersTo send s calls).length = calls.length := by
  induction calls generalizing s with
  | nil => rfl
  | cons c calls ih => exact congrArg Nat.succ (ih _)

/-- The calls for a batch, one for each pair of locales. -/
def callsOf (rs : List Request) : List Call := (pairsOf rs).map fun p => batchCall p rs

/-- The call for a pair of locales gave this answer. -/
def Answered (send : σ → Call → Except Failure Items × σ) (s : σ) (rs : List Request) (p : Pair)
    (answer : Except Failure Items) : Prop :=
  (p, answer) ∈ (pairsOf rs).zip (answersTo send s (callsOf rs))

/-- The calls are made pair by pair, each with the state that the calls before it left. -/
theorem callEach_eq (send : σ → Call → Except Failure Items × σ) (rs : List Request) (s : σ)
    (ps : List Pair) :
    (callEach send rs s ps).1 = ps.zip (answersTo send s (ps.map fun p => batchCall p rs)) := by
  induction ps generalizing s with
  | nil => rfl
  | cons p ps ih => exact congrArg _ (ih _)

/-- In a list with different pairs, an answer is found by its pair. -/
theorem lookup_of_mem (hn : (answers.map Prod.fst).Nodup) {answer : Except Failure Items}
    (h : (p, answer) ∈ answers) : answers.lookup p = some answer := by
  obtain ⟨front, back, rfl⟩ := List.append_of_mem h
  refine List.lookup_eq_some_iff.2 ⟨front, back, rfl, fun x hx => ?_⟩
  rw [List.map_append, List.nodup_append] at hn
  have hne := hn.2.2 x.1 (List.mem_map_of_mem hx) p List.mem_cons_self
  exact bne_iff_ne.2 (Ne.symm hne)

section

variable {send : σ → Call → Except Failure Items × σ} {s : σ} {answer : Except Failure Items}

/-- The pairs of the answers are those of the batch. -/
theorem pairs_answers (send : σ → Call → Except Failure Items × σ) (s : σ) (rs : List Request) :
    ((pairsOf rs).zip (answersTo send s (callsOf rs))).map Prod.fst = pairsOf rs :=
  List.map_fst_zip (by simp [length_answersTo, callsOf])

/-- The answer that a pair's call gave is kept under the pair. -/
theorem lookup_callEach (h : Answered send s rs p answer) :
    (callEach send rs s (pairsOf rs)).1.lookup p = some answer := by
  rw [callEach_eq]
  exact lookup_of_mem (by rw [← callsOf, pairs_answers]; exact nodup_pairsOf rs) h

/-- The call for every pair of a batch gave one answer. -/
theorem existsUnique_answered (send : σ → Call → Except Failure Items × σ) (s : σ)
    (hr : r ∈ rs) : ∃! answer, Answered send s rs (pairOf r) answer := by
  have hpair : pairOf r ∈ pairsOf rs := mem_pairsOf.2 ⟨r, hr, rfl⟩
  rw [← pairs_answers send s rs] at hpair
  obtain ⟨⟨p, answer⟩, hanswer, heq⟩ := List.mem_map.1 hpair
  obtain rfl : p = pairOf r := heq
  refine ⟨answer, hanswer, fun answer' hanswer' => ?_⟩
  exact Option.some.inj ((lookup_callEach hanswer').symm.trans (lookup_callEach hanswer))

end

/-! ## Outcomes -/

/-- What becomes of a request at a place among those with its locales, by the answer to their
call. -/
def outcomeBy (answer : Except Failure Items) (place : Nat) (r : Request) : Outcome :=
  outcomeOf r (answer.map fun items => items.toList.getD place [])

/-- The outcomes of the requests of a batch between two locales. -/
def outcomesOf (p : Pair) (rs : List Request) (os : List Outcome) : List Outcome :=
  ((rs.zip os).filter fun x => pairOf x.1 = p).map Prod.snd

/-- A request's outcome is read off the answer of its pair at its place. -/
theorem outcomeAt_eq {answer : Except Failure Items} (h : answers.lookup (pairOf r) = some answer)
    (place : Nat) : outcomeAt answers place r = outcomeBy answer place r := by
  rw [outcomeAt, h, outcomeBy]
  cases answer with
  | error e => rfl
  | ok items =>
    dsimp only [Except.map]
    rw [List.getD_eq_getElem?_getD]
    cases items.toList[place]? with
    | none => rfl
    | some item => cases item <;> rfl

/-- Every request has an outcome of its own. -/
theorem forall₂_outcomes (answers : Answers) (before rs : List Request) :
    List.Forall₂ (fun r o => o.source = r.text) rs (outcomes answers before rs) := by
  induction rs generalizing before with
  | nil => exact .nil
  | cons r rs ih =>
    refine .cons ?_ (ih _)
    unfold outcomeAt
    split
    · rfl
    · split <;> rfl
    · rfl

/-- The requests between two locales have the outcomes that the answer to their call gives them one
after another, in whatever way requests between others stand among them. -/
theorem outcomesOf_outcomes {answer : Except Failure Items} (h : answers.lookup p = some answer)
    (before rs : List Request) :
    outcomesOf p rs (outcomes answers before rs) =
      (requestsOf p rs).mapIdx fun i r =>
        outcomeBy answer ((requestsOf p before).length + i) r := by
  induction rs generalizing before with
  | nil => rfl
  | cons r rs ih =>
    have hrest := ih (before ++ [r])
    rw [requestsOf_concat] at hrest
    rw [outcomes, outcomesOf, List.zip_cons_cons, List.filter_cons, requestsOf_cons]
    by_cases hp : pairOf r = p
    · subst hp
      rw [if_pos rfl, List.length_append, List.length_singleton] at hrest
      simp only [decide_true, if_true, List.map_cons, List.mapIdx_cons, outcomeAt_eq h,
        Nat.add_zero]
      refine congrArg _ (hrest.trans (congrArg (List.mapIdx · _) (funext fun i => ?_)))
      rw [Nat.add_assoc, Nat.add_comm i]
    · rw [if_neg hp] at hrest
      simp only [hp, decide_false, Bool.false_eq_true, if_false]
      exact hrest

/-! ## Services that translate text by text -/

/-- A service translates every text by itself and never fails: `f` gives the translation of a text
between two languages. -/
structure Pointwise (send : σ → Call → Except Failure Items × σ) (f : Text → Text → Text → Text) :
    Prop where
  one : ∀ s text source target,
    (send s ⟨[text], true, source, target⟩).1 = .ok (.one (f source target text))
  many : ∀ s texts source target,
    (send s ⟨texts, false, source, target⟩).1 = .ok (.many (texts.map (f source target)))

/-- The translation of a request by such a service. -/
def translation (f : Text → Text → Text → Text) (r : Request) : Text :=
  f (sourceCode r.source) (targetCode r.target) r.text

section

variable {send : σ → Call → Except Failure Items × σ} {f : Text → Text → Text → Text}

/-- Asked for one request after another, such a service gives their translations. -/
theorem Pointwise.inTurn_eq (h : Pointwise send f) (name : Text) (s : σ) (rs : List Request) :
    (inTurn name (ask send) s rs).1 = rs.map fun r => outcomeOf r (.ok (translation f r)) := by
  induction rs generalizing s with
  | nil => rfl
  | cons r rs ih =>
    have hask : (ask send s r).1 = .ok (translation f r) := by
      have hone := h.one s r.text (sourceCode r.source) (targetCode r.target)
      rw [ask, callOf]
      dsimp only
      rw [hone]
      rfl
    rw [inTurn]
    dsimp only
    rw [hask, ih, List.map_cons]

/-- Such a service gives the translations of the requests that a call was made for. -/
theorem Pointwise.of_answered (h : Pointwise send f) {s : σ} {ps : List Pair}
    {answer : Except Failure Items}
    (hanswer : (p, answer) ∈ ps.zip (answersTo send s (ps.map fun p => batchCall p rs))) :
    answer = .ok (.many ((requestsOf p rs).map (translation f))) := by
  induction ps generalizing s with
  | nil => cases hanswer
  | cons q ps ih =>
    rcases List.mem_cons.1 hanswer with heq | hanswer
    · obtain ⟨rfl, rfl⟩ := Prod.mk.inj heq
      have hmany := h.many s ((requestsOf p rs).map (·.text)) (sourceCode p.1) (targetCode p.2)
      refine hmany.trans ?_
      rw [List.map_map]
      refine congrArg (Except.ok ∘ Items.many) (List.map_congr_left fun r hr => ?_)
      obtain rfl : pairOf r = p := by simpa using (List.mem_filter.1 hr).2
      rfl
    · exact ih hanswer

/-- If every call gives the translations of its requests, then every request gets its own. -/
theorem outcomes_of_translations (before rs : List Request)
    (h : ∀ r ∈ rs, answers.lookup (pairOf r) =
      some (.ok (.many ((requestsOf (pairOf r) (before ++ rs)).map (translation f))))) :
    outcomes answers before rs = rs.map fun r => outcomeOf r (.ok (translation f r)) := by
  induction rs generalizing before with
  | nil => rfl
  | cons r rs ih =>
    obtain ⟨hr, hrs⟩ := List.forall_mem_cons.1 h
    have hplace : ((requestsOf (pairOf r) (before ++ r :: rs)).map (translation f)).getD
        (requestsOf (pairOf r) before).length [] = translation f r := by
      rw [requestsOf_append, requestsOf_cons, if_pos rfl]
      simp
    rw [outcomes, outcomeAt_eq hr, outcomeBy, List.map_cons,
      ih (before ++ [r]) (by simpa using hrs)]
    exact congrArg (fun t => outcomeOf r (.ok t) :: _) hplace

end

/-! ## Batches -/

/-- **A batch keeps to its requests.** Where a service translates text by text and never fails, a
batch gives what asking for one request after another gives. Whatever it does else, a batch has one
outcome for each request, in their order, with the request's own text. The call for every pair of
locales gives one answer. If that is a failure, then the requests between these locales have failed
for its reason. If it is a number of items, then these requests have the outcomes of the items one
by one, as if each had been asked for by itself; one that no item is left for was not translated. -/
theorem translateBatch_aligned (send : σ → Call → Except Failure Items × σ) (rs : List Request) :
    (∀ f, Pointwise send f → ∀ s s',
      (translateBatch send s rs).outcomes = .ok (inTurn name (ask send) s' rs).1) ∧
    ∀ s, ∃ os, (translateBatch send s rs).outcomes = .ok os ∧
      List.Forall₂ (fun r o => o.source = r.text) rs os ∧
      (∀ r ∈ rs, ∃! answer, Answered send s rs (pairOf r) answer) ∧
      (∀ p e, Answered send s rs p (.error e) →
        outcomesOf p rs os = (requestsOf p rs).map fun r => .failure r.text e.message) ∧
      ∀ p items, Answered send s rs p (.ok items) →
        outcomesOf p rs os = (requestsOf p rs).mapIdx fun i r =>
          outcomeOf r (.ok (items.toList.getD i [])) := by
  have hby : ∀ {s p answer}, Answered send s rs p answer →
      outcomesOf p rs (outcomes (callEach send rs s (pairsOf rs)).1 [] rs) =
        (requestsOf p rs).mapIdx fun i r => outcomeBy answer i r := by
    intro s p answer hanswer
    simpa [requestsOf] using outcomesOf_outcomes (lookup_callEach hanswer) [] rs
  refine ⟨fun f hf s s' => ?_, fun s => ⟨_, rfl, forall₂_outcomes _ [] rs,
    fun r hr => existsUnique_answered send s hr, fun p e he => ?_,
    fun p items hitems => hby hitems⟩⟩
  · rw [hf.inTurn_eq]
    refine congrArg Except.ok (outcomes_of_translations [] rs fun r hr => ?_)
    obtain ⟨answer, hanswer, -⟩ := existsUnique_answered send s hr
    rw [lookup_callEach hanswer, hf.of_answered hanswer]
    rfl
  · rw [hby he]
    exact List.ext_getElem (by simp) (by simp [outcomeBy, Except.map, outcomeOf])

/-- Three requests, the second one into another language than the others. -/
def threeRequests : List Request :=
  [⟨"One", "en", "es", none⟩, ⟨"Two", "en", "de", none⟩, ⟨"Three", "en", "es", none⟩]

/-- The code of the language in front of a text. -/
def tagged (target text : Text) : Text := target ++ ":" ++ text

/-- A service that puts the code of the language in front of every text. -/
def taggingService (_ : Unit) (c : Call) : Except Failure Items × Unit :=
  (.ok (if c.single then .one (tagged c.target (c.texts.headD []))
    else .many (c.texts.map (tagged c.target))), ())

/-- The same service without German, and without the last item of every list. -/
def shortService (_ : Unit) (c : Call) : Except Failure Items × Unit :=
  if c.target = Text.ofString "DE" then (.error (.client "quota"), ())
  else (.ok (.many (c.texts.map (tagged c.target)).dropLast), ())

/-- The tagging service answers every text by itself. -/
theorem pointwise_tagging : Pointwise taggingService fun _ target => tagged target where
  one _ _ _ _ := rfl
  many _ _ _ _ := rfl

/-- In a batch of three requests the first and the third go out together. A service that tags every
text gives what it gives one by one. One that lacks German and an item fails the second request, and
the third one was not translated. -/
theorem translateBatch_aligned_threeRequests :
    (translateBatch taggingService () threeRequests).outcomes =
      .ok (inTurn name (ask taggingService) () threeRequests).1 ∧
    ∃ os, (translateBatch shortService () threeRequests).outcomes = .ok os ∧
      outcomesOf ("en", "de") threeRequests os = [.failure "Two" "quota"] ∧
      outcomesOf ("en", "es") threeRequests os =
        [⟨"ES:One", "One", true, none⟩, .failure "Three" "No translation returned"] := by
  have htagged := (translateBatch_aligned taggingService threeRequests).1 _ pointwise_tagging () ()
  obtain ⟨os, hos, -, -, hfailed, hitems⟩ :=
    (translateBatch_aligned shortService threeRequests).2 ()
  have hgerman : Answered shortService () threeRequests ("en", "de") (.error (.client "quota")) :=
    .tail _ (.head _)
  have hspanish : Answered shortService () threeRequests ("en", "es") (.ok (.many ["ES:One"])) :=
    .head _
  exact ⟨htagged, os, hos, hfailed _ _ hgerman, hitems _ _ hspanish⟩

end Localization.Provider.DeepL
