import Mathlib.Data.List.Basic
import Mathlib.Data.List.Flatten
import Mathlib.Data.List.Pairwise
import Mathlib.Data.Multiset.Basic
import Localization.Extraction.Scan
import Localization.Extraction.Wrap
import Localization.Proofs.Extraction.Again
import Localization.Proofs.Extraction.Fresh
import Localization.Proofs.Extraction.Kept
import Localization.Proofs.Extraction.ReadBack
import Localization.Proofs.Extraction.Replacements
import Localization.Proofs.Extraction.Spots
import Localization.Proofs.Extraction.Wrap
import Localization.Proofs.Results

/-!
# What a scan finds after wrapping

A scan of a file whose calls can all be read finds the keys that the nodes of its tree mark, in the
order of the walk (`extractAll_eq_ok`). What the new tree marks is known part by part: what the old
tree marked, and the keys of the calls that were put in at its spots. As a pass puts calls at spots
only, and at none twice, the latter are the keys that wrapping reported.
-/

namespace Localization

namespace Extraction

open Syntax Syntax.Tree

/-! ## What a scan finds -/

section
variable {m : Markers} {source : Source} {file : Text}

/-- The key that an element marks does not depend on the file's name. -/
theorem fromElement_key (t : Tree) : (fromElement m source file t).map (·.key) =
    (fromElement m source [] t).map (·.key) := by
  simp only [fromElement]
  split
  · cases runSpan? (elementContent t) with
    | none => rfl
    | some s =>
      dsimp only [Option.bind_some]
      rw [apply_ite (Option.map _), apply_ite (Option.map _)]
      rfl
  · rfl

/-- A node that can be read gives the key that it marks. -/
theorem extract_eq_ok (file : Text) {t : Tree} (h : Legible m source t) :
    ∃ found, extract m source file t = .ok found ∧ found.map (·.key) = keyOf m source t := by
  unfold extract keyOf
  cases t.kind with
  | call =>
    dsimp only [fromCall]
    cases hargument : literalArgument? source m.functionName t with
    | none => exact ⟨none, rfl, rfl⟩
    | some a =>
      obtain ⟨key, hkey⟩ := h a hargument
      refine ⟨some ⟨key, key, file, source.location a.start⟩, ?_, ?_⟩
      · dsimp only
        rw [hkey]
        rfl
      · rw [Option.bind_some, hkey]
        rfl
  | element => exact ⟨_, rfl, fromElement_key t⟩
  | _ => exact ⟨none, rfl, rfl⟩

/-- A walk over nodes that can be read finds the keys that they mark. -/
theorem extractAll_eq_ok (file : Text) {vs : List Visit} (h : ∀ v ∈ vs, Legible m source v.tree) :
    ∃ strings, (extractAll m source file vs).result = .ok strings ∧
      strings.map (·.key) = vs.filterMap fun v => keyOf m source v.tree := by
  induction vs with
  | nil => exact ⟨[], rfl, rfl⟩
  | cons v vs ih =>
    rw [List.forall_mem_cons] at h
    obtain ⟨found, hfound, hkey⟩ := extract_eq_ok file h.1
    obtain ⟨strings, hstrings, hkeys⟩ := ih h.2
    have hlift : (Logged.lift ((extract m source file v.tree).mapError .escape)).result =
        .ok found := by
      rw [hfound]
      rfl
    rw [extractAll, Logged.result_bind, hlift, List.filterMap_cons, ← hkey]
    cases found with
    | none => exact ⟨strings, hstrings, hkeys⟩
    | some s =>
      have hrest : (extractAll m source file vs >>= fun rest => pure (s :: rest)).result =
          .ok (s :: strings) := by
        rw [Logged.result_bind, hstrings]
        rfl
      refine ⟨s :: strings, ?_, congrArg (s.key :: ·) hkeys⟩
      -- A report on a region that could not be read changes no result.
      change Logged.result (if v.inError = true then _ else _) = _
      split
      · rw [Logged.result_bind]
        exact hrest
      · exact hrest

variable {parser : Parser} {root : Tree}

/-- A scan in which every call can be read finds exactly the keys that the walk marks. -/
theorem scanContent_eq_ok (hparse : parser file source = .ok root)
    (h : ∀ v ∈ root.visits, Legible m source v.tree) :
    ∃ found, (scanContent m parser file source).result = .ok found ∧
      (found.strings.map (·.key) : Multiset Text) = keysIn m source root.visits := by
  obtain ⟨strings, hstrings, hkeys⟩ := extractAll_eq_ok file h
  have hwarn : (warnOfErrors source file root).result = .ok () := by
    unfold warnOfErrors
    split
    · rfl
    · rfl
  refine ⟨⟨strings, [], 0, false⟩, ?_, congrArg _ hkeys⟩
  rw [scanContent, hparse]
  dsimp only
  rw [Logged.result_bind, hwarn]
  change (extractAll m source file root.visits >>= _).result = _
  rw [Logged.result_bind, hstrings]
  rfl

end

/-! ## The keys that were put in -/

/-- A table is read in the order of its keys in a list that holds each of them once. -/
theorem filterMap_lookup {α β : Type} [DecidableEq α] {l : List (α × β)} {keys : List α}
    (hsub : (l.map Prod.fst).Sublist keys)
    (h : keys.Pairwise fun a b => a ∈ l.map Prod.fst → a ≠ b) :
    keys.filterMap (fun a => l.lookup a) = l.map Prod.snd := by
  induction keys generalizing l with
  | nil =>
    rw [List.map_eq_nil_iff.1 (List.sublist_nil.1 hsub)]
    rfl
  | cons a keys ih =>
    obtain ⟨hfirst, hrest⟩ := List.pairwise_cons.1 h
    rcases List.sublist_cons_iff.1 hsub with hsub' | ⟨firsts, hfirsts, hsub'⟩
    · have hnone : l.lookup a = none := by
        refine List.lookup_eq_none_iff.2 fun p hp => bne_iff_ne.2 ?_
        rintro rfl
        have hmem : p.1 ∈ l.map Prod.fst := List.mem_map_of_mem hp
        exact hfirst p.1 (hsub'.subset hmem) hmem rfl
      rw [List.filterMap_cons, hnone]
      exact ih hsub' hrest
    · obtain ⟨⟨a', b⟩, l, rfl, rfl, rfl⟩ := List.map_eq_cons_iff.1 hfirsts
      have hsome : ((a', b) :: l).lookup a' = some b := List.lookup_cons_self
      have hother : keys.filterMap (fun a => ((a', b) :: l).lookup a) =
          keys.filterMap fun a => l.lookup a := by
        refine List.filterMap_congr fun c hc => ?_
        have hne : c ≠ a' := (hfirst c hc List.mem_cons_self).symm
        rw [List.lookup_cons, beq_false_of_ne hne]
      rw [List.filterMap_cons, hsome, hother, ih hsub' (hrest.imp ?_), List.map_cons]
      exact fun hne hmem => hne (List.mem_cons_of_mem _ hmem)

section
variable {w : Rewrite} {root : Tree}

/-- At the spots of a tree all calls are found that were put in. -/
theorem Rewrite.Made.callsAt_visits (hm : w.Made root) :
    w.callsAt (root.visits.flatMap (spots w.source)) = w.calls.map Prod.snd := by
  have hsub : (w.calls.map Prod.fst).Sublist (root.visits.flatMap (spots w.source)) := by
    rw [hm.calls, List.map_flatMap]
    exact .flatMap_right _ fun v _ => asked_span_sublist v
  refine congrArg _ (filterMap_lookup hsub ((spots_apart_tree hm.placed hm.grammatical).imp ?_))
  rintro a b hapart ha rfl
  obtain ⟨c, hc, rfl⟩ := List.mem_map.1 ha
  have hpos := hm.span_pos hc
  rcases hapart with hapart | hapart
  · omega
  · omega

variable {o : WrapOptions} {parser : Parser} {file : Text} {source new : Source}
  {root' : Tree} {pass : Pass}

/-- The keys of the calls that were put in are those that the wrap reports, in order. -/
theorem Reopened.keys_eq (h : Reopened o parser file source new root root' pass) :
    pass.calls.map Prod.snd = (wrapContent o parser file source).wrapped.map (·.key) := by
  obtain ⟨pass', hpass, hwrapped, -⟩ := wrapContent_newSource h.parsed h.changed
  rw [h.recorded] at hpass
  cases hpass
  rw [hwrapped]
  exact List.map_snd_zip (by simp [h.length_wrapped])

/-- **Scanning and wrapping agree.** If the parser reads the new file back, a scan of it finds the
keys that a scan of the old file finds, and the keys of the calls that wrapping reported, each as
often. -/
theorem scanContent_wrapped (h : Reopened o parser file source new root root' pass)
    (hname : o.markers.functionName ≠ "require") :
    ∃ before after, (scanContent o.markers parser file source).result = .ok before ∧
      (scanContent o.markers parser file new).result = .ok after ∧
      (after.strings.map (·.key) : Multiset Text) = (before.strings.map (·.key) : Multiset Text) +
        ((wrapContent o parser file source).wrapped.map (·.key) : Multiset Text) := by
  have hlegible : ∀ v ∈ root.visits, Legible o.markers source v.tree := h.made.legible
  have hlegible' : ∀ v ∈ root'.visits, Legible o.markers new v.tree := h.fresh.legible hname
  obtain ⟨before, hbefore, hkeys⟩ := scanContent_eq_ok h.parsed hlegible
  obtain ⟨after, hafter, hkeys'⟩ := scanContent_eq_ok h.reparsed hlegible'
  refine ⟨before, after, hbefore, hafter, ?_⟩
  rw [← h.keys_eq]
  calc (after.strings.map (·.key) : Multiset Text)
    _ = keysIn o.markers new root'.visits := hkeys'
    _ = (pass.rewrite o source new).due root.visits := h.fresh.keys_eq hname
    _ = keysIn o.markers source root.visits + pass.calls.map Prod.snd :=
      congrArg _ h.made.callsAt_visits
    _ = before.strings.map (·.key) + pass.calls.map Prod.snd := by rw [hkeys]

end

/-- After wrapping, the call that was there and the two that were put in are found. -/
theorem scanContent_wrapped_greeting :
    ∃ after, (scanContent plainOptions.markers greetingParser "A.tsx" greetingNew).result =
      .ok after ∧
      (after.strings.map (·.key) : Multiset Text) =
        (["old", "A_hello", "A_save_it"] : List Text) := by
  obtain ⟨pass, hreopened, hcalls, -⟩ := reopened_greeting
  obtain ⟨before, after, hbefore, hafter, hkeys⟩ := scanContent_wrapped hreopened (by decide)
  have hold : ((scanContent plainOptions.markers greetingParser "A.tsx"
      greetingSource).result.toOption.map fun found => found.strings.map (·.key)) =
      some [("old" : Text)] := by
    decide +kernel
  rw [hbefore] at hold
  have hkey : before.strings.map (·.key) = [("old" : Text)] := Option.some.inj hold
  refine ⟨after, hafter, ?_⟩
  rw [hkeys, ← hreopened.keys_eq, hcalls, hkey]
  rfl

end Extraction

end Localization
