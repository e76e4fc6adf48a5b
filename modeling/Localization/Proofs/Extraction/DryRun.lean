import Localization.Extraction.Folder
import Localization.Proofs.Extraction.NewKeys
import Localization.Proofs.Extraction.Walk
import Localization.Proofs.Extraction.Wrap

/-!
# Dry runs

Wrapping a file gives a result that depends on the file's path and on what reading it gives
(`wrapRead`). A real run writes files while it goes on, but every write goes over a file that was
read, so it changes neither the names in the tree nor what other files hold (`Rewritten`). The files
of a walk stand at different places, so each of them is read as it was at the start. Hence a dry run
gives the results of the real one.

The files to wrap are listed at the start. A run that lists every folder when it comes to it, in the
tree as earlier writes have left it, comes to the same files (`interleaved_iff`).
-/

namespace Localization.Extraction

open FileTree (SamePlace)

variable {o : WrapOptions} {parser : Parser} {t t' u : FileTree} {p q : Path} {files : List Path}

/-! ## One file -/

/-- The content that reading a file gives. -/
def readContent (p : Path) (read : Except FileFault (List UInt8)) : Except Text (List Char) := do
  let bytes ← read.mapError fun f => ioFailure p (f.message p.toText)
  (Utf8.decode bytes).mapError fun f => ioFailure p f.message

/-- What wrapping a file gives, from its path and what reading it gives. -/
def wrapRead (o : WrapOptions) (parser : Parser) (p : Path)
    (read : Except FileFault (List UInt8)) : WrapResult :=
  match readContent p read with
  | .error report => { WrapResult.unchanged p.toText with errors := [report] }
  | .ok chars => wrapContent o parser p.toText (.ofChars chars)

/-- A result as a real run gives it. -/
def WrapResult.asWritten (r : WrapResult) : WrapResult := { r with written := r.modified }

/-- A result without a new source is not changed by being marked as written. -/
theorem WrapResult.asWritten_of_none {r : WrapResult} (hnew : r.newSource = none)
    (hwritten : r.written = false) : r.asWritten = r := by
  obtain ⟨file, wrapped, errors, newSource, importAdded, written⟩ := r
  cases hnew
  cases hwritten
  rfl

/-- Wrapping the content of a file does not write it. -/
theorem written_wrapContent (file : Text) (source : Source) :
    (wrapContent o parser file source).written = false := by
  unfold wrapContent
  split
  · rfl
  · split
    next htree =>
      obtain ⟨pass, hpass, -⟩ := bind_eq_ok.1 htree
      rw [wrapTree_eq hpass] at htree
      split at htree
      · cases htree
        rfl
      · obtain ⟨new, -, rfl⟩ := map_eq_ok.1 htree
        rfl
    · rfl

/-- Wrapping what was read writes nothing yet. -/
theorem written_wrapRead (p : Path) (read : Except FileFault (List UInt8)) :
    (wrapRead o parser p read).written = false := by
  unfold wrapRead
  split
  · rfl
  · exact written_wrapContent _ _

/-- A dry run of a file gives what its path and content give. -/
theorem wrapFile_true (o : WrapOptions) (parser : Parser) (t : FileTree) (p : Path) :
    wrapFile o parser true t p = (wrapRead o parser p (t.readBytes p), t) := by
  have hcontent : wrappedContent t p = readContent p (t.readBytes p) := rfl
  rw [wrapFile, hcontent, wrapRead]
  cases readContent p (t.readBytes p) with
  | error report => rfl
  | ok chars =>
    dsimp only
    split
    · rfl
    · rfl

/-- A real run of a file gives the same but for the mark that it was written. If there is a new
source, the file holds it afterwards; nothing else changes. -/
theorem exists_wrapFile_false (o : WrapOptions) (parser : Parser) (t : FileTree) (p : Path) :
    ∃ u, wrapFile o parser false t p = ((wrapRead o parser p (t.readBytes p)).asWritten, u) ∧
      u.bare = t.bare ∧
      (∀ new, (wrapRead o parser p (t.readBytes p)).newSource = some new →
        u.readBytes p = .ok (Utf8.encodeChars new)) ∧
      ∀ q, ((wrapRead o parser p (t.readBytes p)).modified = true → ¬ t.SamePlace p q) →
        u.readBytes q = t.readBytes q := by
  have hcontent : wrappedContent t p = readContent p (t.readBytes p) := rfl
  rw [wrapFile, hcontent, wrapRead]
  cases hread : readContent p (t.readBytes p) with
  | error report => exact ⟨t, rfl, rfl, (fun _ hnew => by cases hnew), fun _ _ => rfl⟩
  | ok chars =>
    dsimp only
    cases hnew : (wrapContent o parser p.toText (.ofChars chars)).newSource with
    | none =>
      refine ⟨t, ?_, rfl, (fun _ hnew => by cases hnew), fun _ _ => rfl⟩
      rw [WrapResult.asWritten_of_none hnew (written_wrapContent _ _)]
    | some new =>
      obtain ⟨old, hold, -⟩ := bind_eq_ok.1 hread
      obtain ⟨u, hwrite, hbare, hself, hothers⟩ :=
        FileTree.writeBytes_of_readBytes (mapError_eq_ok.1 hold) (Utf8.encodeChars new)
      refine ⟨u, ?_, hbare, ?_, fun q hq => hothers q (hq ?_)⟩
      · dsimp only
        rw [if_neg Bool.false_ne_true, writeBack, hwrite, WrapResult.asWritten,
          WrapResult.modified, hnew, Option.isSome_some]
      · intro new' hnew'
        cases hnew'
        exact hself
      · rw [WrapResult.modified, hnew, Option.isSome_some]

/-! ## All files -/

/-- The files that a run comes to before it is told to stop. -/
def reached (checks : Checks) (files : List Path) : List Path :=
  match checks with
  | none => files
  | some n => files.take n

/-- Whether a run is told to stop before its last file. -/
def isStopped (checks : Checks) (files : List Path) : Bool :=
  match checks with
  | none => false
  | some n => n < files.length

/-- A check that lets the walk go on adds its file to those reached. -/
theorem reached_cons {checks checks' : Checks} (h : checks.step = some checks') (p : Path)
    (files : List Path) : reached checks (p :: files) = p :: reached checks' files := by
  match checks, h with
  | none, h => cases h; rfl
  | some (n + 1), h => cases h; rfl

/-- A check that lets the walk go on leaves the stop to the files behind. -/
theorem isStopped_cons {checks checks' : Checks} (h : checks.step = some checks') (p : Path)
    (files : List Path) : isStopped checks (p :: files) = isStopped checks' files := by
  match checks, h with
  | none, h => cases h; rfl
  | some (n + 1), h =>
    cases h
    simp [isStopped]

/-- Only listed files are reached. -/
theorem mem_of_mem_reached {checks : Checks} (h : p ∈ reached checks files) : p ∈ files := by
  cases checks with
  | none => exact h
  | some n => exact List.mem_of_mem_take h

/-- Checks that refuse a step are used up. -/
theorem eq_zero_of_step {checks : Checks} (h : checks.step = none) : checks = some 0 := by
  match checks, h with
  | some 0, _ => rfl

/-- A dry run gives what the paths and contents of its files give, and changes nothing. -/
theorem wrapFiles_true (o : WrapOptions) (parser : Parser) (checks : Checks) (t : FileTree)
    (files : List Path) : wrapFiles o parser true checks t files =
      (⟨(reached checks files).map fun p => wrapRead o parser p (t.readBytes p),
        isStopped checks files⟩, t) := by
  induction files generalizing checks with
  | nil => cases checks <;> simp [wrapFiles, reached, isStopped]
  | cons p files ih =>
    rw [wrapFiles]
    cases hstep : checks.step with
    | none =>
      rw [eq_zero_of_step hstep]
      simp [reached, isStopped]
    | some checks' =>
      rw [reached_cons hstep, isStopped_cons hstep]
      dsimp only
      rw [wrapFile_true, ih]
      rfl

/-- What a run that writes leaves behind: every file with a new source holds it, all others are as
they were, and so are the names in the tree. -/
structure Rewritten (o : WrapOptions) (parser : Parser) (t : FileTree) (files : List Path)
    (t' : FileTree) : Prop where
  bare : t'.bare = t.bare
  written : ∀ p ∈ files, ∀ new, (wrapRead o parser p (t.readBytes p)).newSource = some new →
    t'.readBytes p = .ok (Utf8.encodeChars new)
  others : ∀ q, (∀ p ∈ files, (wrapRead o parser p (t.readBytes p)).modified = true →
    ¬ t.SamePlace p q) → t'.readBytes q = t.readBytes q

/-- No file written leaves the tree as it is. -/
theorem Rewritten.nil : Rewritten o parser t [] t :=
  ⟨rfl, fun _ hp => absurd hp List.not_mem_nil, fun _ _ => rfl⟩

/-- Standing for one place is symmetric. -/
theorem samePlace_comm : t.SamePlace p q ↔ t.SamePlace q p := by
  simp only [SamePlace, and_comm]

/-- Whether two paths stand for one place does not depend on what the files hold. -/
theorem samePlace_congr (h : u.bare = t.bare) : u.SamePlace p q ↔ t.SamePlace p q := by
  simp only [SamePlace, FileTree.follow_congr h]

/-- A file is rewritten, and then files at other places are: each of them was read as it stood at
the start. -/
theorem Rewritten.cons (hbare : u.bare = t.bare)
    (hwritten : ∀ new, (wrapRead o parser p (t.readBytes p)).newSource = some new →
      u.readBytes p = .ok (Utf8.encodeChars new))
    (hothers : ∀ q, ((wrapRead o parser p (t.readBytes p)).modified = true →
      ¬ t.SamePlace p q) → u.readBytes q = t.readBytes q)
    (hapart : ∀ q ∈ files, ¬ t.SamePlace p q) (h : Rewritten o parser u files t') :
    Rewritten o parser t (p :: files) t' := by
  have hsame : ∀ q ∈ files, u.readBytes q = t.readBytes q :=
    fun q hq => hothers q fun _ => hapart q hq
  refine ⟨h.bare.trans hbare, ?_, fun q hq => ?_⟩
  · rintro q hq new hnew
    rcases List.mem_cons.1 hq with rfl | hq
    · rw [h.others q fun r hr _ hplace => ?_]
      · exact hwritten new hnew
      · exact hapart r hr (samePlace_comm.1 ((samePlace_congr hbare).1 hplace))
    · exact h.written q hq new (by rwa [hsame q hq])
  · obtain ⟨hp, hfiles⟩ := List.forall_mem_cons.1 hq
    rw [h.others q fun r hr hmodified hplace => ?_, hothers q hp]
    rw [hsame r hr] at hmodified
    exact hfiles r hr hmodified ((samePlace_congr hbare).1 hplace)

/-- A real run of files at different places gives what their paths and contents gave at the start,
each result with its mark. -/
theorem exists_wrapFiles_false (o : WrapOptions) (parser : Parser) (checks : Checks)
    (t : FileTree) (hfiles : files.Pairwise fun p q => ¬ t.SamePlace p q) :
    ∃ t', wrapFiles o parser false checks t files =
        (⟨(reached checks files).map fun p => (wrapRead o parser p (t.readBytes p)).asWritten,
          isStopped checks files⟩, t') ∧
      Rewritten o parser t (reached checks files) t' := by
  induction files generalizing checks t with
  | nil =>
    have hnil : reached checks [] = [] := by cases checks <;> simp [reached]
    rw [hnil]
    exact ⟨t, by cases checks <;> simp [wrapFiles, isStopped], .nil⟩
  | cons p files ih =>
    obtain ⟨hp, hfiles⟩ := List.pairwise_cons.1 hfiles
    rw [wrapFiles]
    cases hstep : checks.step with
    | none =>
      rw [eq_zero_of_step hstep]
      exact ⟨t, by simp [reached, isStopped], .nil⟩
    | some checks' =>
      obtain ⟨u, hwrap, hbare, hwritten, hothers⟩ := exists_wrapFile_false o parser t p
      have hfiles' : files.Pairwise fun p q => ¬ u.SamePlace p q :=
        hfiles.imp fun hne => mt (samePlace_congr hbare).1 hne
      obtain ⟨t', hrest, hrewritten⟩ := ih checks' u hfiles'
      have hapart : ∀ q ∈ reached checks' files, ¬ t.SamePlace p q :=
        fun q hq => hp q (mem_of_mem_reached hq)
      have hsame : ∀ q ∈ reached checks' files, u.readBytes q = t.readBytes q :=
        fun q hq => hothers q fun _ => hapart q hq
      rw [reached_cons hstep, isStopped_cons hstep]
      refine ⟨t', ?_, .cons hbare hwritten hothers hapart hrewritten⟩
      dsimp only
      rw [hwrap, hrest, List.map_cons]
      dsimp only
      rw [List.map_congr_left fun q hq => by rw [hsame q hq]]

/-! ## Listing folders on the way -/

/-- An entry that a run has still to come to: its path, and whether it was listed as a folder. -/
structure Pending where
  path : Path
  isFolder : Bool

/-- The entries of a folder, as they are listed, that a run goes on to. -/
def pendingIn (folder : Path) (entries : List (Text × FileTree)) : List Pending :=
  (entries.filter Walk.isEntered).map fun e => ⟨folder.child e.1, e.2.isFolder⟩

/-- What a run has to come to when it starts. -/
def pendingAt (t : FileTree) (root : Path) : List Pending :=
  match t.at? root, t.listing root with
  | .ok (.file _), _ => [⟨root, false⟩]
  | _, .ok entries => pendingIn root entries
  | _, .error _ => []

/-- Whether a path leads to an excluded folder. -/
def Walk.isExcluded (w : Walk) (t : FileTree) (p : Path) : Bool :=
  match t.follow [] p.names with
  | .ok place => w.excluded.contains place
  | .error _ => false

/-- A run that has entries to come to, and lists a folder when it comes to it: what it gives, and
the tree that it leaves. -/
inductive Interleaved (o : WrapOptions) (parser : Parser) (w : Walk) (dryRun : Bool) :
    Checks → FileTree → List Pending → FolderResult → FileTree → Prop
  | done {checks t} : Interleaved o parser w dryRun checks t [] ⟨[], false⟩ t
  | unwanted {checks t p rest r t'} (hwanted : w.isWanted p.name = false)
      (hrest : Interleaved o parser w dryRun checks t rest r t') :
      Interleaved o parser w dryRun checks t (⟨p, false⟩ :: rest) r t'
  | stopped {checks t p rest} (hwanted : w.isWanted p.name = true) (hstep : checks.step = none) :
      Interleaved o parser w dryRun checks t (⟨p, false⟩ :: rest) ⟨[], true⟩ t
  | wrapped {checks checks' t p rest later t'} (hwanted : w.isWanted p.name = true)
      (hstep : checks.step = some checks')
      (hrest : Interleaved o parser w dryRun checks' (wrapFile o parser dryRun t p).2 rest later
        t') :
      Interleaved o parser w dryRun checks t (⟨p, false⟩ :: rest)
        ⟨(wrapFile o parser dryRun t p).1 :: later.results, later.cancelled⟩ t'
  | excluded {checks t p rest r t'} (hexcluded : w.isExcluded t p = true)
      (hrest : Interleaved o parser w dryRun checks t rest r t') :
      Interleaved o parser w dryRun checks t (⟨p, true⟩ :: rest) r t'
  | entered {checks t p entries rest r t'} (hexcluded : w.isExcluded t p = false)
      (hlisting : t.listing p = .ok entries)
      (hrest : Interleaved o parser w dryRun checks t (pendingIn p entries ++ rest) r t') :
      Interleaved o parser w dryRun checks t (⟨p, true⟩ :: rest) r t'
  | unlisted {checks t p f rest r t'} (hexcluded : w.isExcluded t p = false)
      (hlisting : t.listing p = .error f)
      (hrest : Interleaved o parser w dryRun checks t rest r t') :
      Interleaved o parser w dryRun checks t (⟨p, true⟩ :: rest) r t'

section
variable {w : Walk} {dryRun : Bool} {checks : Checks} {place : List Text} {es : Entries FileTree}
  {pending : List Pending}

/-- Such a run has one outcome. -/
theorem Interleaved.unique {r r' : FolderResult}
    (h : Interleaved o parser w dryRun checks t pending r u)
    (h' : Interleaved o parser w dryRun checks t pending r' t') : r' = r ∧ t' = u := by
  induction h generalizing r' t' with
  | done =>
    cases h'
    exact ⟨rfl, rfl⟩
  | unwanted hwanted _ ih =>
    cases h' with
    | unwanted _ hrest => exact ih hrest
    | stopped hwanted' _ | wrapped hwanted' _ _ => exact absurd (hwanted.symm.trans hwanted') nofun
  | stopped hwanted hstep =>
    cases h' with
    | unwanted hwanted' _ => exact absurd (hwanted.symm.trans hwanted') nofun
    | stopped _ _ => exact ⟨rfl, rfl⟩
    | wrapped _ hstep' _ => exact absurd (hstep.symm.trans hstep') nofun
  | wrapped hwanted hstep _ ih =>
    cases h' with
    | unwanted hwanted' _ => exact absurd (hwanted.symm.trans hwanted') nofun
    | stopped _ hstep' => exact absurd (hstep.symm.trans hstep') nofun
    | wrapped _ hstep' hrest =>
      cases hstep.symm.trans hstep'
      obtain ⟨rfl, rfl⟩ := ih hrest
      exact ⟨rfl, rfl⟩
  | excluded hexcluded _ ih =>
    cases h' with
    | excluded _ hrest => exact ih hrest
    | entered hexcluded' _ _ | unlisted hexcluded' _ _ =>
      exact absurd (hexcluded.symm.trans hexcluded') nofun
  | entered hexcluded hlisting _ ih =>
    cases h' with
    | excluded hexcluded' _ => exact absurd (hexcluded.symm.trans hexcluded') nofun
    | entered _ hlisting' hrest =>
      cases hlisting.symm.trans hlisting'
      exact ih hrest
    | unlisted _ hlisting' _ => exact absurd (hlisting.symm.trans hlisting') nofun
  | unlisted hexcluded hlisting _ ih =>
    cases h' with
    | excluded hexcluded' _ => exact absurd (hexcluded.symm.trans hexcluded') nofun
    | entered _ hlisting' _ => exact absurd (hlisting.symm.trans hlisting') nofun
    | unlisted _ _ hrest => exact ih hrest

/-- Wrapping a file changes no names. -/
theorem bare_wrapFile (o : WrapOptions) (parser : Parser) (dryRun : Bool) (t : FileTree)
    (p : Path) : (wrapFile o parser dryRun t p).2.bare = t.bare := by
  cases dryRun with
  | true => rw [wrapFile_true]
  | false =>
    obtain ⟨u, hwrap, hbare, -⟩ := exists_wrapFile_false o parser t p
    rw [hwrap]
    exact hbare

/-- A run comes from its entries to a list of files, whatever was written before. -/
def ComesTo (o : WrapOptions) (parser : Parser) (w : Walk) (dryRun : Bool) (t : FileTree)
    (pending : List Pending) (files : List Path) : Prop :=
  ∀ checks u, u.bare = t.bare → Interleaved o parser w dryRun checks u pending
    (wrapFiles o parser dryRun checks u files).1 (wrapFiles o parser dryRun checks u files).2

/-- With nothing pending the walk comes to no more files. -/
theorem comesTo_nil : ComesTo o parser w dryRun t [] [] := fun _ _ _ => .done

/-- A pending file is one of the files the walk comes to if it is wanted. -/
theorem comesTo_file (h : ComesTo o parser w dryRun t pending files) (p : Path) :
    ComesTo o parser w dryRun t (⟨p, false⟩ :: pending)
      ((if w.isWanted p.name then [p] else []) ++ files) := by
  intro checks u hu
  cases hwanted : w.isWanted p.name with
  | false =>
    rw [if_neg Bool.false_ne_true, List.nil_append]
    exact .unwanted hwanted (h checks u hu)
  | true =>
    rw [if_pos rfl, List.singleton_append, wrapFiles]
    cases hstep : checks.step with
    | none => exact .stopped hwanted hstep
    | some checks' =>
      exact .wrapped hwanted hstep (h checks' _ ((bare_wrapFile o parser dryRun u p).trans hu))

/-- What a run has to come to depends on the names and kinds of entries. -/
theorem pendingIn_bare (p : Path) (entries : List (Text × FileTree)) :
    pendingIn p (entries.map fun e => (e.1, e.2.bare)) = pendingIn p entries := by
  have hkind : ∀ u : FileTree, u.bare.isFolder = u.isFolder := by
    intro u
    cases u <;> rw [FileTree.bare] <;> rfl
  have hentered : ∀ e : Text × FileTree, Walk.isEntered (e.1, e.2.bare) = Walk.isEntered e :=
    fun _ => rfl
  simp only [pendingIn, List.filter_map, List.map_map, Function.comp_def, hentered, hkind]

/-- A folder is still one after its files changed, with entries of the same names. -/
theorem exists_folder_of_bare (hu : u.bare = t.bare) (hfind : t.find place = .ok (.folder es)) :
    ∃ es', u.find place = .ok (.folder es') ∧
      FileTree.bareEntries es' = FileTree.bareEntries es := by
  have hbare : (u.find place).map FileTree.bare = .ok (.folder (FileTree.bareEntries es)) := by
    rw [← FileTree.find_bare, hu, FileTree.find_bare, hfind, Except.map, FileTree.bare]
  obtain ⟨v, hv, hshape⟩ := map_eq_ok.1 hbare
  cases v with
  | file content =>
    rw [FileTree.bare] at hshape
    cases hshape
  | folder es' =>
    rw [FileTree.bare] at hshape
    exact ⟨es', hv, FileTree.folder.inj hshape⟩

/-- A folder is listed with the same names whatever was written before. -/
theorem exists_listing (hu : u.bare = t.bare) (hfollow : t.follow [] p.names = .ok place)
    (hfind : t.find place = .ok (.folder es)) :
    ∃ entries, u.listing p = .ok entries ∧
      pendingIn p entries = pendingIn p (Entries.sorted es) := by
  obtain ⟨es', hfind', hbare⟩ := exists_folder_of_bare hu hfind
  refine ⟨Entries.sorted es', ?_, ?_⟩
  · rw [FileTree.listing, FileTree.at?, FileTree.follow_congr hu, hfollow, ok_bind, hfind']
    rfl
  · rw [← pendingIn_bare p (Entries.sorted es'), ← pendingIn_bare p (Entries.sorted es),
      Entries.map_sorted es' fun e => e.2.bare, Entries.map_sorted es fun e => e.2.bare,
      ← FileTree.bareEntries_eq, ← FileTree.bareEntries_eq, hbare]

/-- If a run comes from every entry of a folder to the files there, it comes from all of them to the
files below the folder. -/
theorem comesTo_entries {entries : List (Text × FileTree)} {found : Text × FileTree → List Path}
    (hentries : ∀ e ∈ entries, ∀ {pending files}, ComesTo o parser w dryRun t pending files →
      ComesTo o parser w dryRun t (⟨p.child e.1, e.2.isFolder⟩ :: pending) (found e ++ files))
    (h : ComesTo o parser w dryRun t pending files) :
    ComesTo o parser w dryRun t
      ((entries.map fun e => ⟨p.child e.1, e.2.isFolder⟩) ++ pending)
      (entries.flatMap found ++ files) := by
  induction entries with
  | nil => exact h
  | cons e entries ih =>
    obtain ⟨he, hentries⟩ := List.forall_mem_cons.1 hentries
    rw [List.map_cons, List.flatMap_cons, List.append_assoc]
    exact he (ih hentries)

/-- What a run comes to from the entry at a path with a tree is what the walk finds there. -/
def EntryFound (o : WrapOptions) (parser : Parser) (w : Walk) (dryRun : Bool) (t sub : FileTree) :
    Prop :=
  ∀ {p place pending files}, t.follow [] p.names = .ok place → t.find place = .ok sub →
    ComesTo o parser w dryRun t pending files →
    ComesTo o parser w dryRun t (⟨p, sub.isFolder⟩ :: pending) (w.filesAt p place sub ++ files)

/-- The walk through a folder comes to the files below it, whatever is written meanwhile. -/
theorem comesTo_below (ht : t.Proper) (hes : ∀ e ∈ es, EntryFound o parser w dryRun t e.2)
    (hfollow : t.follow [] p.names = .ok place) (hfind : t.find place = .ok (.folder es))
    (h : ComesTo o parser w dryRun t pending files) :
    ComesTo o parser w dryRun t (pendingIn p (Entries.sorted es) ++ pending)
      (w.filesBelow p place es ++ files) := by
  have hproper := ht.find hfind
  rw [Walk.filesBelow_eq w p place (FileTree.proper_folder_iff.1 hproper).1]
  refine comesTo_entries (fun e he => ?_) h
  obtain ⟨hmem, hentered⟩ := Walk.mem_of_entered he
  refine hes e hmem ?_ (FileTree.find_entry hfind hproper hmem)
  rw [Path.child, FileTree.follow_append t [] _
    (List.forall_mem_singleton.2 (Walk.ne_dots_of_isEntered hentered)), hfollow]
  rfl

/-- The walk finds the files below any entry, by induction on the tree. -/
theorem entryFound (ht : t.Proper) (sub : FileTree) : EntryFound o parser w dryRun t sub := by
  induction sub using FileTree.induct_entries with
  | file content =>
    intro p place pending files hfollow hfind h
    rw [Walk.filesAt]
    exact comesTo_file h p
  | folder es ih =>
    intro p place pending files hfollow hfind h checks u hu
    have hexcluded : w.isExcluded u p = w.excluded.contains place := by
      rw [Walk.isExcluded, FileTree.follow_congr hu, hfollow]
    rw [Walk.filesAt_folder]
    split
    next hplace => exact .excluded (hexcluded.trans hplace) (h checks u hu)
    next hplace =>
      obtain ⟨entries, hlisting, hpending⟩ := exists_listing hu hfollow hfind
      refine .entered (hexcluded.trans (Bool.eq_false_iff.2 hplace)) hlisting ?_
      rw [hpending]
      exact comesTo_below ht ih hfollow hfind h checks u hu

/-- A run that lists folders on the way comes to the files that are listed at the start. -/
theorem comesTo_files (ht : t.Proper) {root : Path}
    (hfiles : (w.files t root).result = .ok files) :
    ComesTo o parser w dryRun t (pendingAt t root) files := by
  rw [Walk.result_files] at hfiles
  cases hfiles
  rw [pendingAt, FileTree.listing, Walk.at?_eq_startOf]
  cases hstart : Walk.startOf t root with
  | error f => exact comesTo_nil
  | ok start =>
    obtain ⟨place, u⟩ := start
    obtain ⟨hfollow, hfind⟩ := Walk.startOf_eq_ok.1 hstart
    cases u with
    | file content =>
      have hfile : ComesTo o parser w dryRun t _ _ := comesTo_file comesTo_nil root
      rwa [List.append_nil] at hfile
    | folder es =>
      have hbelow : ComesTo o parser w dryRun t _ _ :=
        comesTo_below ht (fun e _ => entryFound ht e.2) hfollow hfind comesTo_nil
      rwa [List.append_nil, List.append_nil] at hbelow

/-- A run that lists folders on the way gives what wrapping the folder gives. -/
theorem interleaved_iff (ht : t.Proper) {root : Path} {r : FolderResult} :
    Interleaved o parser w dryRun checks t (pendingAt t root) r t' ↔
      (wrapFolder o parser w dryRun t root checks).result = .ok (r, t') := by
  obtain ⟨files, hfiles⟩ := w.exists_files t root
  have hrun : Interleaved o parser w dryRun checks t (pendingAt t root) _ _ :=
    comesTo_files ht hfiles checks t rfl
  rw [result_wrapFolder hfiles, Except.ok.injEq, Prod.mk.injEq]
  constructor
  · intro h
    exact h.unique hrun
  · rintro ⟨rfl, rfl⟩
    exact hrun

end

/-- **A dry run predicts the real run.** Let a tree of files be proper, and let a run of wrapping be
told to stop after some files or not at all. The dry run changes nothing, and its results are those
of the real run on the same tree, in the same order, but for the mark that a file was written. Each
of them depends on the path of its file and on what the file holds at the start, and on nothing
else. After the real run every file with a new source holds exactly that, and whatever can be read
at other places is as it was. It makes no difference that a run lists a folder only when it comes
to it, with files written already. -/
theorem wrapFolder_dryRun (ht : t.Proper) (o : WrapOptions) (parser : Parser) (w : Walk)
    (root : Path) (checks : Checks) :
    ∃ (found files : List Path) (dry real : FolderResult) (t' : FileTree),
      (w.files t root).result = .ok found ∧ files = reached checks found ∧
      (wrapFolder o parser w true t root checks).result = .ok (dry, t) ∧
      (wrapFolder o parser w false t root checks).result = .ok (real, t') ∧
      dry.results = files.map (fun p => wrapRead o parser p (t.readBytes p)) ∧
      (∀ r ∈ dry.results, r.written = false) ∧
      real.results = dry.results.map (fun r => { r with written := r.modified }) ∧
      real.cancelled = dry.cancelled ∧
      (∀ p ∈ files, ∀ new, (wrapRead o parser p (t.readBytes p)).newSource = some new →
        t'.readBytes p = .ok (Utf8.encodeChars new)) ∧
      (∀ q, (∀ p ∈ files, (wrapRead o parser p (t.readBytes p)).modified = true →
        ¬ t.SamePlace p q) → t'.readBytes q = t.readBytes q) ∧
      ∀ dryRun r u, Interleaved o parser w dryRun checks t (pendingAt t root) r u ↔
        (wrapFolder o parser w dryRun t root checks).result = .ok (r, u) := by
  obtain ⟨found, hfound⟩ := w.exists_files t root
  obtain ⟨t', hreal, hrewritten⟩ :=
    exists_wrapFiles_false o parser checks t (Walk.places_files ht hfound)
  refine ⟨found, reached checks found,
    ⟨(reached checks found).map fun p => wrapRead o parser p (t.readBytes p),
      isStopped checks found⟩,
    ⟨(reached checks found).map fun p => (wrapRead o parser p (t.readBytes p)).asWritten,
      isStopped checks found⟩, t', hfound, rfl, ?_, ?_, rfl, ?_, ?_, rfl, hrewritten.written,
    hrewritten.others, fun _ _ _ => interleaved_iff ht⟩
  · rw [result_wrapFolder hfound, wrapFiles_true]
  · rw [result_wrapFolder hfound, hreal]
  · exact List.forall_mem_map.2 fun p _ => written_wrapRead p _
  · rw [List.map_map]
    rfl

/-- The tree with two files of one stem is a proper one. -/
theorem proper_sameStem : sameStem.Proper :=
  ⟨by decide, by decide, ⟨by decide, by decide, trivial, trivial⟩, by decide, by decide,
    ⟨by decide, by decide, trivial, trivial⟩, trivial⟩

/-- Two files in two folders: the dry run finds the text of each, and so does the real run, which
marks the files that it has changed. -/
theorem wrapFolder_dryRun_sameStem :
    sameStem.Proper ∧ ∃ dry real t',
      (wrapFolder plainOptions standardParser ⟨Walk.standardSuffixes, []⟩ true sameStem
        ⟨.relative, []⟩ none).result = .ok (dry, sameStem) ∧
      (wrapFolder plainOptions standardParser ⟨Walk.standardSuffixes, []⟩ false sameStem
        ⟨.relative, []⟩ none).result = .ok (real, t') ∧
      (real.results.map fun r => requests r.wrapped) =
        [[(Text.ofString "Hello", Text.ofString "index_hello")],
          [(Text.ofString "HELLO", Text.ofString "index_hello")]] ∧
      real.results.map WrapResult.written = dry.results.map WrapResult.modified := by
  obtain ⟨found, _, dry, real, t', hfound, rfl, hdry, hreal, hresults, -, hsame, -⟩ :=
    wrapFolder_dryRun proper_sameStem plainOptions standardParser ⟨Walk.standardSuffixes, []⟩
      ⟨.relative, []⟩ none
  cases files_sameStem.symm.trans hfound
  refine ⟨proper_sameStem, dry, real, t', hdry, hreal, ?_, ?_⟩
  · have hwrapped : ∀ f ∈ sameStemFiles, requests (wrapRead plainOptions standardParser f.1
        (sameStem.readBytes f.1)).wrapped = [(f.2.2, Text.ofString "index_hello")] := by
      intro f hf
      rw [← wrapped_sameStem f hf, wrapFile_true]
    rw [hsame, hresults, List.map_map, List.map_map, List.map_map]
    exact List.map_congr_left hwrapped
  · rw [hsame, List.map_map]
    rfl

end Localization.Extraction
