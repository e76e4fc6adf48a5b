import Localization.Command.Translate
import Localization.Proofs.Catalog.Clean
import Localization.Proofs.Sync.Writes

/-!
# Syncing a stored locale

A sync that takes a locale up from storage starts with the digests stored beside its catalog, those
of keys that the catalog still has. If nothing fails and nothing stops it, every leaf of the source
that is not blank has a text in the result, with one exception (`run_seeded`): a leaf whose digest
is recorded and whose stored text was emptied counts as translated, and stays empty
(`run_seeded_emptied`).

Digests are recorded by key and texts stand at paths. So this is said of leaves whose key is that of
no other leaf of the stored catalog: a digest that is taken up for such a leaf is there because the
catalog has a text at its path.
-/

namespace Localization

/-- The digests that are taken up from a stored locale are those of keys that its catalog has. -/
theorem Hashes.agree_of_ofLocaleFile {stored : Option LocaleFile} {target : Catalog}
    {hashes : Hashes} (htarget : Command.catalogOf stored = .ok target)
    (hhashes : Hashes.ofLocaleFile stored = .ok hashes) {key digest : Text}
    (h : hashes.agree key digest = true) :
    ∃ file, stored = some file ∧ Hashes.agree file.sourceHashes key digest = true ∧
      key ∈ target.leafKeys := by
  cases stored with
  | none =>
    cases hhashes
    cases h
  | some file =>
    refine ⟨file, rfl, ?_⟩
    have hdata : Catalog.ofJson file.data = .ok target := htarget
    rw [Hashes.ofLocaleFile, hdata] at hhashes
    obtain rfl : (file.sourceHashes.filter fun h => target.leafKeys.contains h.1) = hashes :=
      Except.ok.inj hhashes
    rw [Hashes.agree, Entries.get?_filter _ (target.leafKeys.contains ·)] at h
    split at h
    next r hget =>
      split at hget
      next hkey =>
        refine ⟨?_, by simpa using hkey⟩
        rw [Hashes.agree, hget]
        exact h
      next => cases hget
    next => cases h

namespace Sync

variable {σ : Type}

/-- Every leaf that is not blank is considered. -/
theorem exists_candidate {ls : List (KeyPath × Text)} {cs : List Pending}
    (h : candidates ls = .ok cs) {path : KeyPath} {text : Text} (hleaf : (path, text) ∈ ls)
    (hblank : text.strip ≠ []) : ∃ p ∈ cs, p.path = path ∧ p.text = text := by
  induction ls generalizing cs with
  | nil => cases hleaf
  | cons l rest ih =>
    obtain ⟨path', text'⟩ := l
    unfold candidates at h
    split at h
    next hempty =>
      rcases List.mem_cons.1 hleaf with heq | hleaf
      · cases heq
        exact absurd (List.isEmpty_iff.1 hempty) hblank
      · exact ih h hleaf
    next =>
      obtain ⟨digest, -, h⟩ := bind_eq_ok.1 h
      obtain ⟨cs', hrest, h⟩ := bind_eq_ok.1 h
      cases h
      rcases List.mem_cons.1 hleaf with heq | hleaf
      · cases heq
        exact ⟨_, List.mem_cons_self, rfl, rfl⟩
      · obtain ⟨p, hp, hpath⟩ := ih hrest hleaf
        exact ⟨p, List.mem_cons_of_mem _ hp, hpath⟩

section
variable {check : Bool} {provider : Provider σ} {batches : List (List Pending)} {calls : List Call}
  {hashes : Hashes} {service : σ} {sl tl : Text} {target : Catalog} {skipped : Nat} {st : State σ}

/-- Where nothing failed, every leaf that was sent was translated. -/
theorem Progress.exists_translated
    (h : Progress check provider batches (start hashes service sl tl target skipped) calls st)
    (hfailed : st.result.failed = []) {p : Pending} (hp : p ∈ calls.flatMap Call.batch) :
    ∃ text, (p, text) ∈ calls.flatMap (Call.translated check) := by
  rw [← map_fst_flatMap_answers] at hp
  obtain ⟨⟨q, o⟩, hanswer, rfl⟩ := List.mem_map.1 hp
  rcases written_or_refused check hanswer with ⟨text, hwritten⟩ | ⟨reason, hrefused⟩
  · rw [written_flatMap_answers] at hwritten
    exact ⟨text, hwritten⟩
  · have hkey : q.key ∈ st.result.failed.keys := by
      rw [h.failed_eq, mem_keys_failAll]
      exact .inr (List.mem_map_of_mem (f := fun w : Pending × Text => w.1.key) hrefused)
    rw [hfailed] at hkey
    cases hkey

end

/-- Nothing empty is written. -/
theorem ne_nil_of_translated {check : Bool} {calls : List Call} {w : Pending × Text}
    (h : w ∈ calls.flatMap (Call.translated check)) : w.2 ≠ [] := by
  rw [← written_flatMap_answers] at h
  obtain ⟨o, -, hverdict⟩ := mem_written.1 h
  exact (verdict_eq_ok.1 hverdict).2.2.1

/-- A leaf that is not selected has a text in the target, or its own digest is recorded. -/
theorem held_or_agree_of_not_isOpen {again : Bool} {hashes : Hashes} {target : Catalog}
    {p : Pending} (h : isOpen again hashes target p = false) :
    (∃ text, text ≠ [] ∧ target.at? p.path = some (.str text)) ∨
      hashes.agree p.key p.digest = true := by
  unfold isOpen at h
  split at h
  next htranslated =>
    left
    unfold isTranslated at htranslated
    split at htranslated
    next text hat =>
      rw [Bool.and_eq_true, Bool.not_eq_true', List.isEmpty_eq_false_iff] at htranslated
      exact ⟨text, htranslated.1, hat⟩
    next => cases htranslated
  next => exact .inr (by simpa using h)

/-- **Syncing a stored locale leaves no text out.** Let the names of the source and of the stored
catalog be told apart at every depth, as in every mapping, and let a sync take up a stored locale,
or none, with whatever digests stored beside it. If it comes to its end and nothing failed, then
each leaf of the source that is not blank, and whose key no leaf of the stored catalog has at
another path, has a text in the result that is not empty; or the stored locale holds an empty text
at this very path and has the digest of this very text recorded for it, and then the text stays
empty. -/
theorem run_seeded {s : Settings} {provider : Provider σ} {stored : Option LocaleFile}
    {hashes : Hashes} {service : σ} {checks : Checks} {sl tl : Text} {source target : Catalog}
    {st : State σ} (hd : source.Distinct) (hdt : target.Distinct)
    (htarget : Command.catalogOf stored = .ok target)
    (hhashes : Hashes.ofLocaleFile stored = .ok hashes)
    (h : (run s provider hashes service checks sl tl source target).result = .ok st)
    (hcancelled : st.result.cancelled = false) (hfailed : st.result.failed = [])
    {path : KeyPath} {text : Text} (hleaf : (path, text) ∈ source.leaves)
    (hblank : text.strip ≠ []) (hown : ∀ l ∈ target.leaves, l.1.key = path.key → l.1 = path) :
    (∃ held, held ≠ [] ∧ st.result.data.at? path = some (.str held)) ∨
      ∃ file digest, stored = some file ∧ text.digest = .ok digest ∧
        Hashes.agree file.sourceHashes path.key digest = true ∧
        target.at? path = some (.str []) ∧ st.result.data.at? path = some (.str []) := by
  obtain ⟨ps, batches, calls, hps, hflat, hprog⟩ := run_progress h
  obtain ⟨cs, hcs, hfilter⟩ := pending_eq_ok.1 hps
  have hsel : IsSelection source cs := candidates_isSelection hcs
  have haccount := hprog.account (hflat ▸ pending_isSelection hps) hd
  obtain ⟨p, hp, rfl, rfl⟩ := exists_candidate hcs hleaf hblank
  by_cases hwritten : p.path ∈ (calls.flatMap (Call.translated s.checkPlaceholders)).map (·.1.path)
  · obtain ⟨w, hw, hpath⟩ := List.mem_map.1 hwritten
    exact .inl ⟨w.2, ne_nil_of_translated hw, hpath ▸ haccount.translated_at w hw⟩
  · have hat : st.result.data.at? p.path = target.at? p.path :=
      haccount.other_leaf_at _ hleaf hwritten
    -- Nothing failed, so a leaf that was not translated was not selected in the first place.
    have hclosed : isOpen s.retranslateChanged hashes target p = false := by
      refine Bool.eq_false_iff.2 fun hopen => hwritten ?_
      have hsent : p ∈ calls.flatMap Call.batch := by
        rw [hprog.leaves_complete hcancelled, hflat, hfilter]
        exact List.mem_filter.2 ⟨hp, hopen⟩
      obtain ⟨t, ht⟩ := hprog.exists_translated hfailed hsent
      exact List.mem_map_of_mem (f := fun w : Pending × Text => w.1.path) ht
    rw [hat]
    rcases held_or_agree_of_not_isOpen hclosed with hheld | hagree
    · exact .inl hheld
    · obtain ⟨file, hfile, hrecorded, hkey⟩ :=
        Hashes.agree_of_ofLocaleFile htarget hhashes hagree
      rw [hsel.key_eq p hp] at hrecorded hkey
      -- The key is that of no other stored leaf, so the stored catalog has a text at this path.
      obtain ⟨l, hl, hlkey⟩ := List.mem_map.1 hkey
      have hheld : target.at? p.path = some (.str l.2) :=
        (Catalog.mem_leaves_iff hdt).1 (hown l hl hlkey ▸ hl)
      by_cases hempty : l.2 = []
      · rw [hempty] at hheld
        exact .inr ⟨file, p.digest, hfile, hsel.digest_eq p hp, hrecorded, hheld, hheld⟩
      · exact .inl ⟨l.2, hempty, hheld⟩

/-- A locale whose one text was emptied after it had been translated from "Hello". -/
def emptied : LocaleFile :=
  ⟨"es", .obj [("a", "")], "", "", [("a", "8b1a9953c4611296a827abf8c47804d7")]⟩

/-- The digest of a text that was emptied is still recorded, so the text stays empty: the sync asks
for nothing and reports no failure. -/
theorem run_seeded_emptied :
    ∃ hashes st, Command.catalogOf (some emptied) = .ok [("a", "")] ∧
      Hashes.ofLocaleFile (some emptied) = .ok hashes ∧
      (run ⟨none, .whole 1, true, false⟩ echoFirst hashes () none "en" "es" [("a", "Hello")]
        [("a", "")]).result = .ok st ∧
      st.result.cancelled = false ∧ st.result.failed = [] ∧
      ([Text.ofString "a"], Text.ofString "Hello") ∈ Catalog.leaves [("a", "Hello")] ∧
      Text.strip "Hello" ≠ [] ∧
      ¬ ∃ held, held ≠ [] ∧ st.result.data.at? [Text.ofString "a"] = some (.str held) := by
  have hhashes : Hashes.ofLocaleFile (some emptied) =
      .ok [("a", "8b1a9953c4611296a827abf8c47804d7")] := rfl
  obtain ⟨st, h⟩ : ∃ st, (run ⟨none, .whole 1, true, false⟩ echoFirst
      [("a", "8b1a9953c4611296a827abf8c47804d7")] () none "en" "es" [("a", "Hello")]
      [("a", "")]).result = .ok st := exists_run_ok nofun nofun (by decide)
  have hseen : ((run ⟨none, .whole 1, true, false⟩ echoFirst
      [("a", "8b1a9953c4611296a827abf8c47804d7")] () none "en" "es" [("a", "Hello")]
      [("a", "")]).result.toOption.map fun st => (st.result.cancelled, st.result.failed,
        (st.result.data.at? [Text.ofString "a"]).bind Json.text?)) = some (false, [], some []) := by
    decide +kernel
  rw [h] at hseen
  simp only [Except.toOption, Option.map_some, Option.some.injEq, Prod.mk.injEq] at hseen
  obtain ⟨hcancelled, hfailed, htext⟩ := hseen
  refine ⟨_, st, rfl, hhashes, h, hcancelled, hfailed, by decide, by decide, ?_⟩
  rintro ⟨held, hne, hat⟩
  rw [hat] at htext
  exact hne (Option.some.inj htext)

/-- A locale that has one of two texts, with a name that is the same in both languages. -/
def halfDone : LocaleFile :=
  ⟨"fr", .obj [("city", "Paris")], "", "", [("city", "e20d37a5d7fcc4c35be6fc18a8e71bfa")]⟩

/-- The name is not asked for again and the other text is; both are there in the end. -/
theorem run_seeded_halfDone :
    ∃ hashes st, Command.catalogOf (some halfDone) = .ok [("city", "Paris")] ∧
      Hashes.ofLocaleFile (some halfDone) = .ok hashes ∧
      (run ⟨none, .whole 1, true, false⟩ echoFirst hashes () none "en" "fr"
        [("city", "Paris"), ("hi", "Hello")] [("city", "Paris")]).result = .ok st ∧
      st.result.requested = [Text.ofString "hi"] ∧
      ∃ held, held ≠ [] ∧ st.result.data.at? [Text.ofString "hi"] = some (.str held) := by
  have hhashes : Hashes.ofLocaleFile (some halfDone) =
      .ok [("city", "e20d37a5d7fcc4c35be6fc18a8e71bfa")] := rfl
  have hdistinct : Catalog.Distinct [("city", "Paris"), ("hi", "Hello")] :=
    ⟨by decide, trivial, by decide, trivial, trivial⟩
  obtain ⟨st, h⟩ : ∃ st, (run ⟨none, .whole 1, true, false⟩ echoFirst
      [("city", "e20d37a5d7fcc4c35be6fc18a8e71bfa")] () none "en" "fr"
      [("city", "Paris"), ("hi", "Hello")] [("city", "Paris")]).result = .ok st :=
    exists_run_ok nofun nofun (by decide)
  have hseen : ((run ⟨none, .whole 1, true, false⟩ echoFirst
      [("city", "e20d37a5d7fcc4c35be6fc18a8e71bfa")] () none "en" "fr"
      [("city", "Paris"), ("hi", "Hello")] [("city", "Paris")]).result.toOption.map fun st =>
        (st.result.cancelled, st.result.failed, st.result.requested)) =
      some (false, [], [Text.ofString "hi"]) := by
    decide +kernel
  rw [h] at hseen
  simp only [Except.toOption, Option.map_some, Option.some.injEq, Prod.mk.injEq] at hseen
  obtain ⟨hcancelled, hfailed, hrequested⟩ := hseen
  have hleaf : ([Text.ofString "hi"], Text.ofString "Hello") ∈
      Catalog.leaves [("city", "Paris"), ("hi", "Hello")] := by decide
  have hstored : Catalog.Distinct [("city", "Paris")] := ⟨by decide, trivial, trivial⟩
  have hheld := run_seeded hdistinct hstored rfl hhashes h hcancelled hfailed hleaf (by decide)
    (by decide)
  refine ⟨_, st, rfl, hhashes, h, hrequested, hheld.resolve_right ?_⟩
  rintro ⟨-, -, -, -, -, hempty, -⟩
  cases hempty

end Sync

end Localization
