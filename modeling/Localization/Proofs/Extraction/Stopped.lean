import Localization.Proofs.Extraction.DryRun
import Localization.Proofs.Extraction.FolderScan

/-!
# Runs that are stopped

A run over the files of a folder asks before each file whether it is to stop. One that is told to
after `n` files gives what the run that is not stopped gives for the first `n` files of the walk.
For a scan that is so because the result of a file is put behind those of the files before it
(`scanFiles_some`). A run of wrapping also writes: a file that both runs come to holds the same
after either of them, since what a run leaves in it depends on what it held at the start and on
nothing else (`Rewritten.readBytes_eq`), and the files it does not come to stand at places that it
did not write to.
-/

namespace Localization.Extraction

open FileTree (SamePlace)

variable {m : Markers} {o : WrapOptions} {parser : Parser} {t t' t'' : FileTree} {p : Path}
  {files : List Path}

/-! ## Scanning -/

/-- A scan that is stopped puts together the results of the first files. -/
theorem scanFiles_some {found : List ScanResult} (h : ScansAll m parser t files found) (n : Nat)
    (total : ScanResult) :
    (scanFiles m parser t (some n) total files).result =
      .ok { (found.take n).foldl ScanResult.append total with
        cancelled := total.cancelled || decide (n < files.length) } := by
  induction h generalizing n total with
  | nil => simp [scanFiles, pure]
  | cons hfirst hrest ih =>
    rw [scanFiles]
    cases n with
    | zero =>
      simp [Checks.step, Logged.result_bind, Logged.record, pure, ok_bind]
    | succ n =>
      change Logged.result (_ >>= _) = _
      rw [Logged.result_bind, hfirst, ok_bind, ih]
      simp [ScanResult.append]

/-- A scan that is not stopped has the texts and errors of all files, one that is stopped has those
of the first files. -/
theorem result_scanFolder_some {w : Walk} {root : Path} {full : ScanResult}
    (hfiles : (w.files t root).result = .ok files)
    (hfull : (scanFolder m parser w t root none).result = .ok full) (n : Nat) :
    ∃ scans, ScansAll m parser t files scans ∧
      full = ⟨scans.flatMap (·.strings), scans.flatMap (·.errors), files.length, false⟩ ∧
      (scanFolder m parser w t root (some n)).result =
        .ok ⟨(scans.take n).flatMap (·.strings), (scans.take n).flatMap (·.errors),
          (files.take n).length, decide (n < files.length)⟩ := by
  have hscan : ∀ checks, (scanFolder m parser w t root checks).result =
      (scanFiles m parser t checks .empty files).result := by
    intro checks
    rw [scanFolder, Logged.result_bind, hfiles, ok_bind]
  rw [hscan, scanFiles_eq_ok] at hfull
  obtain ⟨scans, hscans, rfl⟩ := hfull
  have hfirst : ScansAll m parser t (files.take n) (scans.take n) := List.forall₂_take n hscans
  refine ⟨scans, hscans, ?_, ?_⟩
  · rw [hscans.foldl_append]
    simp [ScanResult.empty]
  · rw [hscan, scanFiles_some hscans, hfirst.foldl_append]
    simp [ScanResult.empty]

/-! ## Wrapping -/

/-- A file without a new source is left as it was, if no other file of the run stands at its place.
-/
theorem Rewritten.readBytes_of_none (h : Rewritten o parser t files t')
    (hapart : ∀ q ∈ files, q ≠ p → ¬ t.SamePlace q p)
    (hnone : (wrapRead o parser p (t.readBytes p)).newSource = none) :
    t'.readBytes p = t.readBytes p := by
  refine h.others p fun q hq hmodified => hapart q hq ?_
  rintro rfl
  rw [WrapResult.modified, hnone] at hmodified
  cases hmodified

/-- Two runs leave the same in a file that both come to. -/
theorem Rewritten.readBytes_eq {files' : List Path} (h : Rewritten o parser t files t')
    (h' : Rewritten o parser t files' t'') (hp : p ∈ files) (hp' : p ∈ files')
    (hapart : ∀ q ∈ files, q ≠ p → ¬ t.SamePlace q p)
    (hapart' : ∀ q ∈ files', q ≠ p → ¬ t.SamePlace q p) :
    t'.readBytes p = t''.readBytes p := by
  cases hnew : (wrapRead o parser p (t.readBytes p)).newSource with
  | none => rw [h.readBytes_of_none hapart hnew, h'.readBytes_of_none hapart' hnew]
  | some new => rw [h.written p hp new hnew, h'.written p hp' new hnew]

/-- What a run that may be stopped leaves behind, dry or not. -/
def LeavesBehind (o : WrapOptions) (parser : Parser) (dryRun : Bool) (t : FileTree)
    (files : List Path) (t' : FileTree) : Prop :=
  if dryRun then t' = t else Rewritten o parser t files t'

/-- The results of a run are those of wrapping each file that it comes to by itself. -/
theorem exists_wrapFiles (o : WrapOptions) (parser : Parser) (dryRun : Bool) (checks : Checks)
    (t : FileTree) (hfiles : files.Pairwise fun p q => ¬ t.SamePlace p q) :
    ∃ t', wrapFiles o parser dryRun checks t files =
        (⟨(reached checks files).map fun p => (wrapFile o parser dryRun t p).1,
          isStopped checks files⟩, t') ∧
      LeavesBehind o parser dryRun t (reached checks files) t' := by
  cases dryRun with
  | true => exact ⟨t, by simp only [wrapFiles_true, wrapFile_true], rfl⟩
  | false =>
    obtain ⟨t', hrun, hrewritten⟩ := exists_wrapFiles_false o parser checks t hfiles
    refine ⟨t', hrun.trans ?_, hrewritten⟩
    rw [List.map_congr_left fun p _ => ?_]
    obtain ⟨u, hwrap, -⟩ := exists_wrapFile_false o parser t p
    rw [hwrap]

section
variable {dryRun : Bool}

/-- A file in no other place than those of the run's files is left as it was. -/
theorem LeavesBehind.others (h : LeavesBehind o parser dryRun t files t') {q : Path}
    (hq : ∀ p ∈ files, ¬ t.SamePlace p q) : t'.readBytes q = t.readBytes q := by
  cases dryRun with
  | true =>
    obtain rfl : t' = t := h
    rfl
  | false => exact Rewritten.others h q fun p hp _ => hq p hp

/-- Two runs leave the same bytes in a file of both whose place no other of their files has. -/
theorem LeavesBehind.readBytes_eq {files' : List Path}
    (h : LeavesBehind o parser dryRun t files t') (h' : LeavesBehind o parser dryRun t files' t'')
    (hp : p ∈ files) (hp' : p ∈ files') (hapart : ∀ q ∈ files, q ≠ p → ¬ t.SamePlace q p)
    (hapart' : ∀ q ∈ files', q ≠ p → ¬ t.SamePlace q p) :
    t'.readBytes p = t''.readBytes p := by
  cases dryRun with
  | true =>
    obtain rfl : t' = t := h
    obtain rfl : t'' = t' := h'
    rfl
  | false => exact Rewritten.readBytes_eq h h' hp hp' hapart hapart'

end

/-! ## Both -/

/-- **A run that is stopped.** Let a tree of files be proper, and let a run over the files of a walk
be told to stop after `n` of them. If the scan that is not stopped gives a result, then so does the
one that is: the texts and errors of the first `n` files, scanned one by one, and their number.
Wrapping, dry or not, gives for each file what wrapping it by itself gives, for all files if it is
not stopped and for the first `n` if it is. These files hold afterwards what they hold after the run
that is not stopped; the files behind them, and whatever else stands at other places, are as they
were. Either run says that it was stopped exactly if the walk has more than `n` files. It makes no
difference to a run of wrapping that it lists a folder only when it comes to it. -/
theorem stopped_keeps_first (ht : t.Proper) (m : Markers) (o : WrapOptions) (parser : Parser)
    (w : Walk) (root : Path) (n : Nat) :
    ∃ files, (w.files t root).result = .ok files ∧
      (∀ full, (scanFolder m parser w t root none).result = .ok full →
        ∃ scans, ScansAll m parser t files scans ∧
          full = ⟨scans.flatMap (·.strings), scans.flatMap (·.errors), files.length, false⟩ ∧
          (scanFolder m parser w t root (some n)).result =
            .ok ⟨(scans.take n).flatMap (·.strings), (scans.take n).flatMap (·.errors),
              (files.take n).length, decide (n < files.length)⟩) ∧
      ∀ dryRun, ∃ full tFull cut tCut,
        (wrapFolder o parser w dryRun t root none).result = .ok (full, tFull) ∧
        (wrapFolder o parser w dryRun t root (some n)).result = .ok (cut, tCut) ∧
        full = ⟨files.map fun p => (wrapFile o parser dryRun t p).1, false⟩ ∧
        cut = ⟨full.results.take n, decide (n < files.length)⟩ ∧
        (∀ p ∈ files.take n, tCut.readBytes p = tFull.readBytes p) ∧
        (∀ p ∈ files.drop n, tCut.readBytes p = t.readBytes p) ∧
        (∀ q, (∀ p ∈ files.take n, ¬ t.SamePlace p q) → tCut.readBytes q = t.readBytes q) ∧
        ∀ r u, Interleaved o parser w dryRun (some n) t (pendingAt t root) r u ↔
          r = cut ∧ u = tCut := by
  obtain ⟨files, hfiles⟩ := w.exists_files t root
  have hplaces := Walk.places_files ht hfiles
  have hsymm : Std.Symm fun p q : Path => ¬ t.SamePlace p q :=
    ⟨fun _ _ h => mt samePlace_comm.1 h⟩
  have hapart : ∀ p ∈ files, ∀ q ∈ files, q ≠ p → ¬ t.SamePlace q p :=
    fun p hp q hq hne => hplaces.forall hq hp hne
  refine ⟨files, hfiles, fun full hfull => result_scanFolder_some hfiles hfull n, fun dryRun => ?_⟩
  obtain ⟨tFull, hfull, hafterFull⟩ := exists_wrapFiles o parser dryRun none t hplaces
  obtain ⟨tCut, hcut, hafterCut⟩ := exists_wrapFiles o parser dryRun (some n) t hplaces
  have hstopped : (wrapFolder o parser w dryRun t root (some n)).result =
      .ok (⟨(files.map fun p => (wrapFile o parser dryRun t p).1).take n,
        decide (n < files.length)⟩, tCut) := by
    rw [result_wrapFolder hfiles, hcut, ← List.map_take]
    rfl
  have hothers : ∀ q, (∀ p ∈ files.take n, ¬ t.SamePlace p q) →
      tCut.readBytes q = t.readBytes q := fun q => hafterCut.others
  refine ⟨_, tFull, _, tCut, (result_wrapFolder hfiles).trans (by rw [hfull]; rfl), hstopped, rfl,
    rfl, fun p hp => ?_, fun p hp => hothers p fun q hq => ?_, hothers, fun r u => ?_⟩
  · have hmem := List.mem_of_mem_take hp
    exact hafterCut.readBytes_eq hafterFull hp hmem
      (fun q hq => hapart p hmem q (List.mem_of_mem_take hq)) (hapart p hmem)
  · rw [← List.take_append_drop n files, List.pairwise_append] at hplaces
    exact hplaces.2.2 q hq p hp
  · rw [interleaved_iff ht, hstopped, Except.ok.injEq, Prod.mk.injEq, eq_comm, eq_comm (a := tCut)]

/-- Two files in two folders: a run that is stopped after one file has come to the first one, and
the second one is as it was. -/
theorem stopped_keeps_first_sameStem :
    sameStem.Proper ∧
    (∃ found, (scanFolder plainOptions.markers standardParser ⟨Walk.standardSuffixes, []⟩ sameStem
        ⟨.relative, []⟩ (some 1)).result = .ok found ∧
      found.filesScanned = 1 ∧ found.cancelled = true) ∧
    ∃ cut tCut, (wrapFolder plainOptions standardParser ⟨Walk.standardSuffixes, []⟩ false sameStem
        ⟨.relative, []⟩ (some 1)).result = .ok (cut, tCut) ∧
      (cut.results.map fun r => requests r.wrapped) =
        [[(Text.ofString "Hello", Text.ofString "index_hello")]] ∧
      cut.cancelled = true ∧
      tCut.readBytes ⟨.relative, ["b", "index.tsx"]⟩ =
        sameStem.readBytes ⟨.relative, ["b", "index.tsx"]⟩ := by
  obtain ⟨files, hfiles, hscan, hwrap⟩ := stopped_keeps_first proper_sameStem plainOptions.markers
    plainOptions standardParser ⟨Walk.standardSuffixes, []⟩ ⟨.relative, []⟩ 1
  cases files_sameStem.symm.trans hfiles
  refine ⟨proper_sameStem, ?_, ?_⟩
  · have hscanned : ∀ f ∈ sameStemFiles, (scanFile plainOptions.markers standardParser sameStem
        f.1).result.toOption.isSome = true := by
      decide +kernel
    obtain ⟨scans, hscans⟩ : ∃ scans, ScansAll plainOptions.markers standardParser sameStem
        (sameStemFiles.map Prod.fst) scans := by
      rw [exists_scansAll_iff, List.forall_mem_map]
      intro f hf
      obtain ⟨found, hfound⟩ := Option.isSome_iff_exists.1 (hscanned f hf)
      exact exists_scanFile_iff.1 ⟨found, eq_ok_of_toOption hfound⟩
    obtain ⟨_, -, -, hstopped⟩ := hscan _ (by
      rw [scanFolder, Logged.result_bind, hfiles, ok_bind]
      exact scanFiles_eq_ok.2 ⟨scans, hscans, rfl⟩)
    exact ⟨_, hstopped, rfl, rfl⟩
  · obtain ⟨full, -, cut, tCut, -, hcut, rfl, rfl, -, hbehind, -⟩ := hwrap false
    refine ⟨_, tCut, hcut, ?_, rfl, hbehind _ (.head _)⟩
    obtain ⟨u, hreal, -⟩ := exists_wrapFile_false plainOptions standardParser sameStem
      ⟨.relative, ["a", "index.tsx"]⟩
    have hwrapped := wrapped_sameStem _ (.head _)
    rw [wrapFile_true] at hwrapped
    change [requests (wrapFile plainOptions standardParser false sameStem
      ⟨.relative, ["a", "index.tsx"]⟩).1.wrapped] = _
    rw [hreal]
    exact congrArg (fun x => [x]) hwrapped

end Localization.Extraction
