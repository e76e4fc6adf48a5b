import Localization.Proofs.Sync.Incremental

/-!
# What a sync writes, and nothing else

Each leaf that is sent goes with what the service said at its own place in its batch. If the service
said nothing there, because it failed or gave too few results, the leaf failed; results beyond the
end of a batch belong to no leaf. `Call.translated` and `Call.failed` say this of one call, without
mention of how lists of outcomes are cut and filled up, and `Account` says what a sync did with its
calls: which places of the catalog and which recorded digests it changed, and to what.
-/

namespace Localization.Sync

open KeyPath

variable {σ : Type}

/-! ## Leaves at their places -/

/-- The text a leaf is translated to by what the service said about it: the text of a success, if it
is not empty and keeps the placeholders in case they are checked. -/
def accepted? (check : Bool) (p : Pending) (said : Option Outcome) : Option Text :=
  said.bind fun o =>
    if o.success = true ∧ o.text ≠ [] ∧ (check = true → Placeholder.survive p.text o.text = true)
    then some o.text else none

namespace Call

/-- The leaves of a batch that are translated by what the service said at their places. -/
def translated (check : Bool) (c : Call) : List (Pending × Text) :=
  c.batch.zipIdx.filterMap fun x =>
    (accepted? check x.1 (c.resultAt? x.2)).map fun text => (x.1, text)

/-- The leaves of a batch that are not. -/
def failed (check : Bool) (c : Call) : List Pending :=
  (c.batch.zipIdx.filter fun x => (accepted? check x.1 (c.resultAt? x.2)).isNone).map Prod.fst

/-- A leaf about which nothing was said fails like one whose translation failed. -/
theorem toOption_verdict (check : Bool) (c : Call) (p : Pending) (said : Option Outcome) :
    (verdict check p (said.getD (c.unanswered p))).toOption = accepted? check p said := by
  cases said with
  | none =>
    have hfail : (c.unanswered p).success = false := by
      unfold unanswered
      cases c.reply <;> rfl
    simp [verdict, hfail, accepted?, Except.toOption]
  | some o =>
    cases hv : verdict check p o with
    | ok text =>
      obtain ⟨hs, rfl, hne, hp⟩ := verdict_eq_ok.1 hv
      simp only [Option.getD_some, hv, accepted?, Option.bind_some]
      rw [if_pos ⟨hs, hne, hp⟩]
      rfl
    | error reason =>
      simp only [Option.getD_some, hv, accepted?, Option.bind_some]
      rw [if_neg]
      · rfl
      · rintro ⟨hs, hne, hp⟩
        rw [verdict_eq_ok.2 ⟨hs, rfl, hne, hp⟩] at hv
        cases hv

/-- What is written for the answers to a call is what the call translated. -/
theorem written_answers (check : Bool) (c : Call) :
    written check c.answers = c.translated check := by
  unfold written answers translated
  rw [List.filterMap_map]
  refine List.filterMap_congr fun x _ => ?_
  rw [← toOption_verdict check c]
  simp only [Function.comp_apply]
  cases verdict check x.1 ((c.resultAt? x.2).getD (c.unanswered x.1)) <;> rfl

/-- The leaves that are refused for the answers to a call are those that failed in it. -/
theorem map_fst_refused_answers (check : Bool) (c : Call) :
    (refused check c.answers).map Prod.fst = c.failed check := by
  unfold refused answers failed
  rw [List.filterMap_map, List.map_filterMap, ← List.filterMap_eq_map, ← List.filterMap_eq_filter,
    List.filterMap_filterMap]
  refine List.filterMap_congr fun x _ => ?_
  simp only [Function.comp_apply, Option.guard, ← toOption_verdict check c]
  cases verdict check x.1 ((c.resultAt? x.2).getD (c.unanswered x.1)) <;> rfl

end Call

/-- What is written for the answers to calls is what these translated. -/
theorem written_flatMap_answers (check : Bool) (calls : List Call) :
    written check (calls.flatMap Call.answers) = calls.flatMap (Call.translated check) := by
  induction calls with
  | nil => rfl
  | cons c calls ih =>
    rw [List.flatMap_cons, List.flatMap_cons, ← ih, ← c.written_answers check]
    exact List.filterMap_append

/-- The leaves that are refused for the answers to calls are those that failed in them. -/
theorem map_fst_refused_flatMap_answers (check : Bool) (calls : List Call) :
    (refused check (calls.flatMap Call.answers)).map Prod.fst =
      calls.flatMap (Call.failed check) := by
  induction calls with
  | nil => rfl
  | cons c calls ih =>
    have happ : refused check (c.answers ++ calls.flatMap Call.answers) =
        refused check c.answers ++ refused check (calls.flatMap Call.answers) :=
      List.filterMap_append
    rw [List.flatMap_cons, List.flatMap_cons, happ, List.map_append, ih,
      c.map_fst_refused_answers check]

/-! ## The account of a sync -/

/-- What a sync did, given the leaves it translated and those that failed. -/
structure Account (source target : Catalog) (hashes : Hashes) (translated : List (Pending × Text))
    (failed : List Pending) (st : State σ) : Prop where
  /-- Every translated leaf has its text. -/
  translated_at : ∀ w ∈ translated, st.result.data.at? w.1.path = some (.str w.2)
  /-- Every path apart from those of translated leaves holds what it held. -/
  apart_at : ∀ path, (∀ w ∈ translated, Apart w.1.path path) →
    st.result.data.at? path = target.at? path
  /-- Every other leaf of the source, be it failed, passed over or not reached, keeps its value. -/
  other_leaf_at : ∀ l ∈ source.leaves, l.1 ∉ translated.map (·.1.path) →
    st.result.data.at? l.1 = target.at? l.1
  /-- Keys of translated leaves have the digest of a text that was translated under them. -/
  translated_digest : ∀ key ∈ translated.map (·.1.key), ∃ w ∈ translated, w.1.key = key ∧
    w.1.text.digest = .ok w.1.digest ∧ Entries.get? st.hashes key = some (.str w.1.digest)
  /-- Other keys keep the digest they had. -/
  other_digest : ∀ key, key ∉ translated.map (·.1.key) →
    Entries.get? st.hashes key = Entries.get? hashes key
  /-- The keys reported as translated are those of the translated leaves, in their order. -/
  translated_keys : st.result.translated = translated.map (·.1.key)
  /-- The keys reported as failed are those of the failed leaves. -/
  failed_keys : ∀ key, key ∈ st.result.failed.keys ↔ key ∈ failed.map (·.key)

section
variable {check : Bool} {provider : Provider σ} {batches : List (List Pending)} {calls : List Call}
  {hashes : Hashes} {service : σ} {sl tl : Text} {source target : Catalog} {skipped : Nat}
  {st : State σ}

/-- Progress with selected leaves of a catalog changes nothing but what its calls account for. -/
theorem Progress.account
    (h : Progress check provider batches (start hashes service sl tl target skipped) calls st)
    (hsel : IsSelection source batches.flatten) (hd : source.Distinct) :
    Account source target hashes (calls.flatMap (Call.translated check))
      (calls.flatMap (Call.failed check)) st := by
  have hws : written check (calls.flatMap Call.answers) = calls.flatMap (Call.translated check) :=
    written_flatMap_answers check calls
  have hmem : ∀ w ∈ calls.flatMap (Call.translated check), w.1 ∈ batches.flatten := by
    intro w hw
    rw [← hws] at hw
    exact h.written_mem hw
  -- What was written is a part of what was sent, so its leaves are apart from each other too.
  have hsub : ((calls.flatMap (Call.translated check)).map Prod.fst).Sublist batches.flatten := by
    rw [← hws]
    have hanswers : ((written check (calls.flatMap Call.answers)).map Prod.fst).Sublist
        ((calls.flatMap Call.answers).map Prod.fst) := map_fst_written_sublist check _
    rw [map_fst_flatMap_answers] at hanswers
    exact hanswers.trans h.leaves_sent.sublist
  have hpair : (calls.flatMap (Call.translated check)).Pairwise
      fun v w => Apart v.1.path w.1.path := by
    have hleaves := (hsel.of_sublist hsub).apart hd
    rwa [List.pairwise_map] at hleaves
  have hat : st.result.data = writeAll target (calls.flatMap (Call.translated check)) := by
    rw [h.data_eq, hws]
  have hhash : st.hashes = recordAll hashes (calls.flatMap (Call.translated check)) := by
    rw [h.hashes_eq, hws]
  constructor
  · intro w hw
    rw [hat]
    exact at?_writeAll_of_mem target hpair (fun v hv => hsel.path_ne_nil (hmem v hv)) hw
  · intro path hap
    rw [hat]
    exact at?_writeAll_of_apart target hap
  · intro l hl hnot
    rw [hat]
    refine at?_writeAll_of_apart target fun w hw => ?_
    have hwl : (w.1.path, w.1.text) ∈ source.leaves :=
      hsel.leaves.subset (List.mem_map_of_mem (f := fun p : Pending => (p.path, p.text)) (hmem w hw))
    have hsymm : Std.Symm fun a b : KeyPath × Text => Apart a.1 b.1 := ⟨fun _ _ hap => hap.symm⟩
    refine (Catalog.leaves_apart hd).forall hwl hl fun heq => hnot ?_
    exact heq ▸ List.mem_map_of_mem (f := fun w : Pending × Text => w.1.path) hw
  · intro key hkey
    obtain ⟨w, hw, hwkey, hget⟩ := get?_recordAll_of_mem hashes hkey
    exact ⟨w, hw, hwkey, hsel.digest_eq _ (hmem w hw), hhash ▸ hget⟩
  · intro key hkey
    rw [hhash]
    exact get?_recordAll_of_not_mem hashes hkey
  · rw [h.translated_eq, hws]
  · intro key
    rw [h.failed_eq, mem_keys_failAll, ← map_fst_refused_flatMap_answers, List.map_map]
    exact ⟨fun hor => hor.resolve_left nofun, .inr⟩

/-- Where leaves have keys of their own, what was asked for is split into what was translated and
what failed. -/
theorem Progress.requested_perm
    (h : Progress check provider batches (start hashes service sl tl target skipped) calls st)
    (hn : (batches.flatten.map (·.key)).Nodup) :
    st.result.requested.Nodup ∧
      (st.result.translated ++ st.result.failed.keys).Perm st.result.requested := by
  have hreq : st.result.requested.Nodup := by
    rw [h.requested_eq]
    exact hn.sublist (h.leaves_sent.sublist.map _)
  have hperm : ((written check (calls.flatMap Call.answers)).map (·.1.key) ++
      (refused check (calls.flatMap Call.answers)).map (·.1.key)).Perm st.result.requested := by
    have hleaves := (perm_written_refused check (calls.flatMap Call.answers)).map Pending.key
    rw [List.map_append, List.map_map, List.map_map, map_fst_flatMap_answers] at hleaves
    rw [h.requested_eq]
    exact hleaves
  have hfail : st.result.failed.keys =
      (refused check (calls.flatMap Call.answers)).map (·.1.key) := by
    rw [h.failed_eq, keys_failAll]
    · rfl
    · exact (List.nodup_append.1 (hperm.nodup_iff.2 hreq)).2.1
  rw [h.translated_eq, hfail]
  exact ⟨hreq, hperm⟩

end

/-- **What a sync writes, and nothing else.** Let the names of the source be told apart at every
depth, as in every mapping. A sync that comes to its end made calls with the first of the leaves it
selected, with all of them unless it was told to stop, each call answered by the service; its result
and the digests it leaves behind are accounted for by what the service said about each leaf at its
own place. Where leaves have keys of their own, the keys that were asked for are split without
overlap into those that were translated and those that failed. -/
theorem run_account {s : Settings} {provider : Provider σ} {hashes : Hashes} {service : σ}
    {checks : Checks} {sl tl : Text} {source target : Catalog} {st : State σ}
    (hd : source.Distinct)
    (h : (run s provider hashes service checks sl tl source target).result = .ok st) :
    ∃ ps calls, pending s.retranslateChanged hashes source target = .ok ps ∧
      Replies provider sl tl service calls st.service ∧
      calls.flatMap Call.batch <+: ps ∧
      (st.result.cancelled = false → calls.flatMap Call.batch = ps) ∧
      st.result.requested = (calls.flatMap Call.batch).map (·.key) ∧
      Account source target hashes (calls.flatMap (Call.translated s.checkPlaceholders))
        (calls.flatMap (Call.failed s.checkPlaceholders)) st ∧
      (source.leafKeys.Nodup →
        (st.result.translated ++ st.result.failed.keys).Perm st.result.requested ∧
          st.result.translated.Disjoint st.result.failed.keys) := by
  obtain ⟨ps, batches, calls, hps, hflat, hprog⟩ := run_progress h
  have hsel : IsSelection source batches.flatten := by
    rw [hflat]
    exact pending_isSelection hps
  refine ⟨ps, calls, hps, hprog.replies, hflat ▸ hprog.leaves_sent,
    fun hno => hflat ▸ hprog.leaves_complete hno, hprog.requested_eq, hprog.account hsel hd,
    fun hk => ?_⟩
  obtain ⟨hnodup, hperm⟩ := hprog.requested_perm (hsel.keys_nodup hk)
  refine ⟨hperm, fun key htr hfail => ?_⟩
  exact (List.nodup_append.1 (hperm.nodup_iff.2 hnodup)).2.2 key htr key hfail rfl

/-- A service that answers its first batch with one result too many and breaks down after that. -/
def onceThenDown : Provider Bool :=
  ⟨"once", fun down rs =>
    if down then ⟨.error (.client "down"), [], true⟩
    else ⟨.ok (rs.map (fun r => ⟨"Hallo", r.text, true, none⟩) ++ [⟨"extra", [], true, none⟩]), [],
      true⟩⟩

/-- The leaf of the first batch is translated, the surplus result goes nowhere, and the leaf of the
second batch fails: the text that stands in its way in the target is kept. -/
theorem run_account_onceThenDown :
    ∃ st calls, (run ⟨some (.whole 1), .whole 1, true, false⟩ onceThenDown [] false none "en" "de"
        twoLeaves [("b", "x")]).result = .ok st ∧
      Replies onceThenDown "en" "de" false calls st.service ∧
      Account twoLeaves [("b", "x")] [] (calls.flatMap (Call.translated true))
        (calls.flatMap (Call.failed true)) st ∧
      (st.result.translated ++ st.result.failed.keys).Perm st.result.requested ∧
      st.result.translated = [Text.ofString "a"] ∧
      st.result.failed.keys = [Text.ofString "b.c"] ∧
      (st.result.data.at? [Text.ofString "b"]).bind Json.text? = some (Text.ofString "x") := by
  obtain ⟨st, h⟩ : ∃ st, (run ⟨some (.whole 1), .whole 1, true, false⟩ onceThenDown [] false none
      "en" "de" twoLeaves [("b", "x")]).result = .ok st :=
    exists_run_ok (by decide) nofun (by decide)
  have hseen : ((run ⟨some (.whole 1), .whole 1, true, false⟩ onceThenDown [] false none "en" "de"
      twoLeaves [("b", "x")]).result.toOption.map fun st =>
        (st.result.translated, st.result.failed.keys,
          (st.result.data.at? [Text.ofString "b"]).bind Json.text?)) =
      some ([Text.ofString "a"], [Text.ofString "b.c"], some (Text.ofString "x")) := by
    decide +kernel
  obtain ⟨ps, calls, -, hreplies, -, -, -, haccount, hsplit⟩ := run_account distinct_twoLeaves h
  rw [h] at hseen
  simp only [Except.toOption, Option.map_some, Option.some.injEq, Prod.mk.injEq] at hseen
  obtain ⟨htranslated, hfailed, htext⟩ := hseen
  exact ⟨st, calls, h, hreplies, haccount, (hsplit (by decide)).1, htranslated, hfailed, htext⟩

end Localization.Sync
