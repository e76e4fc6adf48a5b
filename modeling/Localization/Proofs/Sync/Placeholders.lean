import Localization.Proofs.Sync.Writes
import Localization.Proofs.Text.Parts

/-!
# Placeholders of translated texts

A translated text passes the check exactly if it has the placeholders of its source text, each as
often, in whatever order (`survive_iff`). Two counts that differ show in the lengths or in what
stands more often on one side; a change of order alone is a warning, which decides nothing. A sync
that checks placeholders writes no text that does not pass, whatever the service gives back
(`writes_keep_placeholders`).
-/

namespace Localization

namespace Placeholder

/-! ## What differs -/

/-- What stands more often in one list than in another is what has the larger count. -/
theorem mem_surplus {a b : List Text} {p : Text} : p ∈ surplus a b ↔ b.count p < a.count p := by
  have hsorted : ∀ ts : List Text, p ∈ Text.sort ts ↔ p ∈ ts := fun ts =>
    (List.mergeSort_perm ts _).mem_iff
  rw [surplus, hsorted, List.mem_filter, List.mem_eraseDups, decide_eq_true_iff,
    and_iff_right_iff_imp]
  intro h
  exact List.count_pos_iff.1 (Nat.zero_lt_of_lt h)

/-- No placeholder is left over when none occurs more often than on the other side. -/
theorem surplus_eq_nil_iff {a b : List Text} :
    surplus a b = [] ↔ ∀ p, a.count p ≤ b.count p := by
  simp only [List.eq_nil_iff_forall_not_mem, mem_surplus, Nat.not_lt]

/-- The issues that make a translated text unusable. -/
def critical (s u : List Text) : List Issue :=
  (if s.length ≠ u.length then [Issue.countMismatch s.length u.length] else []) ++
    (surplus s u).map .missing ++ (surplus u s).map .extra

/-- There are none exactly if the placeholders are the same in some order. -/
theorem critical_eq_nil_iff {s u : List Text} : critical s u = [] ↔ u.Perm s := by
  have hperm : u.Perm s ↔ surplus s u = [] ∧ surplus u s = [] := by
    rw [List.perm_iff_count, surplus_eq_nil_iff, surplus_eq_nil_iff, ← forall_and]
    exact forall_congr' fun p => by omega
  rw [critical, List.append_eq_nil_iff, List.append_eq_nil_iff, List.map_eq_nil_iff,
    List.map_eq_nil_iff, and_assoc, ← hperm, and_iff_right_iff_imp]
  intro h
  rw [if_neg (not_not.2 h.length_eq.symm)]

/-- The critical issues are critical. -/
theorem isCritical_of_mem_critical {s u : List Text} {i : Issue} (h : i ∈ critical s u) :
    i.isCritical = true := by
  rcases List.mem_append.1 h with h | h
  · rcases List.mem_append.1 h with h | h
    · split at h
      · rw [List.mem_singleton.1 h]
        rfl
      · cases h
    · obtain ⟨p, -, rfl⟩ := List.mem_map.1 h
      rfl
  · obtain ⟨p, -, rfl⟩ := List.mem_map.1 h
    rfl

/-- The warning about a change of order makes no difference to the critical issues. -/
theorem filter_isCritical_issues (source translated : Text) :
    (issues source translated).filter Issue.isCritical =
      critical (find source) (find translated) := by
  have hissues : issues source translated =
      if (critical (find source) (find translated)).isEmpty &&
        positional (find source) ≠ positional (find translated)
      then [.orderChanged] else critical (find source) (find translated) := rfl
  rw [hissues]
  split
  next h =>
    rw [List.isEmpty_iff.1 (Bool.and_eq_true_iff.1 h).1]
    rfl
  next => exact List.filter_eq_self.2 fun i hi => isCritical_of_mem_critical hi

/-- Placeholders survive exactly if no issue is critical. -/
theorem survive_iff_filter {source translated : Text} :
    survive source translated = true ↔
      (issues source translated).filter Issue.isCritical = [] := by
  rw [survive, List.all_eq_true, List.filter_eq_nil_iff]
  exact forall₂_congr fun i _ => by rw [Bool.not_eq_true', Bool.not_eq_true]

/-- The placeholders of a text survive exactly if the translated text has the same ones in some
order. -/
theorem survive_iff {source translated : Text} :
    survive source translated = true ↔ (find translated).Perm (find source) := by
  rw [survive_iff_filter, filter_isCritical_issues, critical_eq_nil_iff]

/-- Every issue has a message. -/
theorem message_ne_nil (i : Issue) : i.message ≠ [] := by
  cases i <;> simp [Issue.message, Text.ofString, Text.ofChars]

/-- There is something to say exactly if an issue is critical. -/
theorem describe_eq_nil_iff {is : List Issue} :
    describe is = [] ↔ is.filter Issue.isCritical = [] := by
  have hlead : ∀ (t : Text) (ts : List Text), ∃ after, Text.join "; " (t :: ts) = t ++ after := by
    intro t ts
    cases ts with
    | nil => exact ⟨[], by rw [Text.join_singleton, List.append_nil]⟩
    | cons u ts =>
      exact ⟨_, (Text.join_cons _ t (List.cons_ne_nil u ts)).trans (List.append_assoc ..)⟩
  rw [describe]
  cases is.filter Issue.isCritical with
  | nil => exact iff_of_true rfl rfl
  | cons i rest =>
    obtain ⟨after, hjoin⟩ := hlead i.message (rest.map Issue.message)
    refine iff_of_false (fun h => ?_) (List.cons_ne_nil i rest)
    rw [List.map_cons, hjoin, List.append_eq_nil_iff] at h
    exact message_ne_nil i h.1

end Placeholder

/-! ## Syncs that check placeholders -/

namespace Sync

open Placeholder (find survive describe issues)

variable {σ : Type}

/-- What is written in a sync that checks placeholders has those of its source text. -/
theorem perm_of_mem_written {answers : List (Pending × Outcome)} {w : Pending × Text}
    (h : w ∈ written true answers) : (find w.2).Perm (find w.1.text) := by
  obtain ⟨o, -, hverdict⟩ := mem_written.1 h
  obtain ⟨-, -, -, hcheck⟩ := verdict_eq_ok.1 hverdict
  exact Placeholder.survive_iff.1 (hcheck rfl)

/-- **Placeholders survive translation.** A translated text passes the check exactly if its
placeholders are those of the source text in some order, and there is something to say about it
exactly if it does not pass. So whatever the service is and does, a sync that checks placeholders
and comes to its end changed its target by writing texts at leaves of the source and nothing else,
and each of them is still there and has the placeholders of its leaf's text; every other leaf of the
source keeps what the target held. The names of the source are told apart, as in every mapping. -/
theorem writes_keep_placeholders :
    (∀ t u : Text, (survive t u = true ↔ (find u).Perm (find t)) ∧
      (describe (issues t u) ≠ [] ↔ survive t u = false)) ∧
    ∀ {σ : Type} {s : Settings} {provider : Provider σ} {hashes : Hashes} {service : σ}
      {checks : Checks} {sl tl : Text} {source target : Catalog} {st : State σ},
      source.Distinct → s.checkPlaceholders = true →
      (run s provider hashes service checks sl tl source target).result = .ok st →
      ∃ ws : List (Pending × Text), st.result.data = writeAll target ws ∧
        st.result.translated = ws.map (·.1.key) ∧
        (∀ w ∈ ws, (w.1.path, w.1.text) ∈ source.leaves ∧
          st.result.data.at? w.1.path = some (.str w.2) ∧ (find w.2).Perm (find w.1.text)) ∧
        ∀ l ∈ source.leaves, l.1 ∉ ws.map (·.1.path) →
          st.result.data.at? l.1 = target.at? l.1 := by
  constructor
  · intro t u
    refine ⟨Placeholder.survive_iff, ?_⟩
    rw [Ne, Placeholder.describe_eq_nil_iff, ← Placeholder.survive_iff_filter, Bool.not_eq_true]
  · intro σ s provider hashes service checks sl tl source target st hd hcheck h
    obtain ⟨ps, batches, calls, hps, hflat, hprog⟩ := run_progress h
    have hsel : IsSelection source batches.flatten := by
      rw [hflat]
      exact pending_isSelection hps
    have haccount := hprog.account hsel hd
    rw [← written_flatMap_answers, hcheck] at haccount
    rw [hcheck] at hprog
    refine ⟨_, hprog.data_eq, haccount.translated_keys, fun w hw => ?_, haccount.other_leaf_at⟩
    have hleaf : (w.1.path, w.1.text) ∈ source.leaves := hsel.leaves.subset
      (List.mem_map_of_mem (f := fun p : Pending => (p.path, p.text)) (hprog.written_mem hw))
    exact ⟨hleaf, haccount.translated_at w hw, perm_of_mem_written hw⟩

/-- Two texts with placeholders. -/
def filledIn : Catalog := [("of", "\x7ba\x7d has %s"), ("count", "\x7bn\x7d")]

/-- A service that gives one text for every other, with placeholders of its own. -/
def sameForAll : Provider Unit :=
  ⟨"same", fun _ rs => ⟨.ok (rs.map fun r => ⟨"%s von \x7b a \x7d", r.text, true, none⟩), [], ()⟩⟩

/-- The text has the placeholders of the first leaf, in another order and with other blanks, and not
those of the second. -/
theorem writes_keep_placeholders_sameForAll :
    survive "\x7ba\x7d has %s" "%s von \x7b a \x7d" = true ∧
    survive "\x7bn\x7d" "%s von \x7b a \x7d" = false ∧
    filledIn.Distinct ∧
    ∃ st ws, (run ⟨some (.whole 2), .whole 1, true, false⟩ sameForAll [] () none "en" "de" filledIn
        []).result = .ok st ∧
      st.result.translated = [Text.ofString "of"] ∧ st.result.translated = ws.map (·.1.key) ∧
      st.result.data = writeAll [] ws ∧
      ∀ w ∈ ws, st.result.data.at? w.1.path = some (.str w.2) ∧
        (find w.2).Perm (find w.1.text) := by
  obtain ⟨hsurvive, hsync⟩ := writes_keep_placeholders
  have hpass : survive "\x7ba\x7d has %s" "%s von \x7b a \x7d" = true :=
    (hsurvive _ _).1.2 (by decide)
  have hlost : survive "\x7bn\x7d" "%s von \x7b a \x7d" = false :=
    Bool.eq_false_iff.2 fun hkept => absurd ((hsurvive _ _).1.1 hkept) (by decide)
  have hdistinct : filledIn.Distinct := ⟨by decide, trivial, by decide, trivial, trivial⟩
  obtain ⟨st, h⟩ : ∃ st, (run ⟨some (.whole 2), .whole 1, true, false⟩ sameForAll [] () none "en"
      "de" filledIn []).result = .ok st :=
    exists_run_ok nofun nofun (by decide)
  have hseen : ((run ⟨some (.whole 2), .whole 1, true, false⟩ sameForAll [] () none "en" "de"
      filledIn []).result.toOption.map fun st => st.result.translated) =
      some [Text.ofString "of"] := by
    decide +kernel
  obtain ⟨ws, hdata, hkeys, htexts, -⟩ := hsync hdistinct rfl h
  rw [h] at hseen
  exact ⟨hpass, hlost, hdistinct, st, ws, h, Option.some.inj hseen, hkeys, hdata,
    fun w hw => (htexts w hw).2⟩

end Sync

end Localization
