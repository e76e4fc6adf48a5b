import Mathlib.Data.List.Perm.Subperm
import Mathlib.Order.Nat
import Localization.Proofs.Files
import Localization.Proofs.Results
import Localization.Store.Operations

/-!
# What writing a locale's file does to the storage folder

Seen from the storage folder, writing a file as a whole sets one entry and leaves all others as they
were: the new file that is written first has a name of its own, which no locale's file has, and it
is gone at the end. There is always such a name, since the names that are tried are all different
and one more of them is tried than the folder has entries.
-/

namespace Localization.Store

open FileTree

/-! ## Names of files -/

/-- Different locales have different files. -/
theorem fileName_injective {l l' : Text} (h : fileName l = fileName l') : l = l' :=
  List.append_cancel_right h

@[simp] theorem name_child (p : Path) (name : Text) : (p.child name).name = name := by
  simp [Path.name, Path.child]

/-- The file of a locale is never the folder above. -/
theorem fileName_ne_dots (l : Text) : fileName l ≠ Text.ofString ".." := by
  intro h
  have hlength := congrArg List.length h
  simp [fileName, Text.ofString, Text.ofChars] at hlength

/-- What the name of a new file looks like: it is hidden, it starts with the stem of the file whose
place it is to take, and it has an ending of its own. -/
def IsScratch (stem name : Text) : Prop :=
  ∃ middle, name = Text.ofString "." ++ stem ++ Text.ofString "." ++ middle ++ Text.ofString ".tmp"

/-- A scratch file is never the folder above. -/
theorem IsScratch.ne_dots {stem name : Text} (h : IsScratch stem name) :
    name ≠ Text.ofString ".." := by
  obtain ⟨middle, rfl⟩ := h
  intro heq
  have hlength := congrArg List.length heq
  simp [Text.ofString, Text.ofChars] at hlength
  omega

/-- A new file's name ends as no locale's file does. -/
theorem IsScratch.ne_fileName {stem name : Text} (h : IsScratch stem name) (l : Text) :
    name ≠ fileName l := by
  obtain ⟨middle, rfl⟩ := h
  intro heq
  have hlast := congrArg List.getLast? heq
  rw [fileName, List.getLast?_append_of_ne_nil _ (by decide),
    List.getLast?_append_of_ne_nil _ (by decide)] at hlast
  exact absurd hlast (by decide)

/-- The digits of a new file's name are those of its number behind zeros. -/
theorem scratchName_eq (stem : Text) (n : Nat) :
    ∃ zeros, scratchName stem n = Text.ofString "." ++ stem ++ Text.ofString "." ++
      Text.ofChars (List.replicate zeros '0' ++ Nat.toDigits 10 n) ++ Text.ofString ".tmp" := by
  refine ⟨8 - (Text.ofNumber n).length, ?_⟩
  simp [scratchName, Text.ofNumber, Text.ofChars]

/-- A name made with a number is a scratch name. -/
theorem isScratch_scratchName (stem : Text) (n : Nat) : IsScratch stem (scratchName stem n) := by
  obtain ⟨zeros, hname⟩ := scratchName_eq stem n
  exact ⟨_, hname⟩

/-- A name made with a number is never the folder above. -/
theorem scratchName_ne_dots (stem : Text) (n : Nat) : scratchName stem n ≠ Text.ofString ".." :=
  (isScratch_scratchName stem n).ne_dots

/-- A scratch file is never the file of a locale. -/
theorem scratchName_ne_fileName (stem l : Text) (n : Nat) : scratchName stem n ≠ fileName l :=
  (isScratch_scratchName stem n).ne_fileName l

/-- The names of new files are all different: each gives its number back. -/
theorem scratchName_injective (stem : Text) : Function.Injective (scratchName stem) := by
  intro m n h
  obtain ⟨zeros, hm⟩ := scratchName_eq stem m
  obtain ⟨zeros', hn⟩ := scratchName_eq stem n
  rw [hm, hn] at h
  have hdigits := List.map_injective_iff.2 (fun _ _ => CodePoint.scalar.inj)
    (List.append_cancel_left (List.append_cancel_right h))
  have hvalue : ∀ k zeros,
      Nat.ofDigitChars 10 (List.replicate zeros '0' ++ Nat.toDigits 10 k) 0 = k := by
    intro k zeros
    rw [Nat.ofDigitChars_append, Nat.ofDigitChars_replicate_zero, Nat.mul_zero,
      Nat.ofDigitChars_ten_toDigits]
  rw [← hvalue m zeros, hdigits, hvalue n zeros']

/-! ## The name of the new file -/

section

variable {stem : Text} {es es' : Entries FileTree} {m n tries : Nat}

/-- The first new name that a folder does not have. -/
def FirstFree (stem : Text) (es : Entries FileTree) (m : Nat) : Prop :=
  Entries.has es (scratchName stem m) = false ∧
    ∀ j < m, Entries.has es (scratchName stem j) = true

/-- The names tried are all different, so one of them is not among the entries. -/
theorem exists_firstFree (stem : Text) (es : Entries FileTree) :
    ∃ m ≤ es.length, FirstFree stem es m := by
  classical
  have hfree : ∃ m ≤ es.length, Entries.has es (scratchName stem m) = false := by
    by_contra hall
    push Not at hall
    have hsubset : (List.range (es.length + 1)).map (scratchName stem) ⊆ es.keys := by
      intro name hname
      obtain ⟨j, hj, rfl⟩ := List.mem_map.1 hname
      have hhas := hall j (Nat.le_of_lt_succ (List.mem_range.1 hj))
      obtain ⟨t, ht⟩ := Option.isSome_iff_exists.1 (eq_true_of_ne_false hhas)
      exact Entries.mem_keys_of_mem (Entries.mem_of_get? ht)
    have hnodup : ((List.range (es.length + 1)).map (scratchName stem)).Nodup :=
      List.nodup_range.map (scratchName_injective stem)
    have hlength := (hnodup.subperm hsubset).length_le
    rw [List.length_map, List.length_range, Entries.keys, List.length_map] at hlength
    exact Nat.not_succ_le_self _ hlength
  obtain ⟨k, hk, hkfree⟩ := hfree
  have hex : ∃ m, Entries.has es (scratchName stem m) = false := ⟨k, hkfree⟩
  refine ⟨Nat.find hex, (Nat.find_min' hex hkfree).trans hk, Nat.find_spec hex, fun j hj => ?_⟩
  exact eq_true_of_ne_false (Nat.find_min hex hj)

/-- The search gives the first free name if it gets that far. -/
theorem freeName_eq (h : FirstFree stem es m) (hn : n ≤ m) (htries : m < n + tries) :
    freeName stem es tries n = scratchName stem m := by
  induction tries generalizing n with
  | zero => omega
  | succ tries ih =>
    rw [freeName]
    by_cases hnm : n = m
    · rw [if_neg (by simp [hnm, h.1]), hnm]
    · rw [if_pos (h.2 n (by omega))]
      exact ih (by omega) (by omega)

/-- Folders that have the same of the names tried have one first free name. -/
theorem FirstFree.unique (h : FirstFree stem es m) (h' : FirstFree stem es' n)
    (hsame : ∀ j, Entries.has es (scratchName stem j) = Entries.has es' (scratchName stem j)) :
    m = n := by
  rcases Nat.lt_trichotomy m n with hlt | heq | hlt
  · have hused := h'.2 m hlt
    rw [← hsame, h.1] at hused
    cases hused
  · exact heq
  · have hused := h.2 n hlt
    rw [hsame, h'.1] at hused
    cases hused

end

section

variable {s : Store} {d : Disk} {es : Entries FileTree} {stem l : Text}

/-- The name of the new file is one that the folder does not have. -/
theorem exists_freshName (hbase : s.base.Plain) {t : FileTree}
    (h : t.find s.base.names = .ok (.folder es)) (stem : Text) :
    ∃ m, FirstFree stem es m ∧ s.freshName stem t = scratchName stem m := by
  obtain ⟨m, hm, hfree⟩ := exists_firstFree stem es
  refine ⟨m, hfree, ?_⟩
  rw [freshName, at?_of_plain t hbase, h]
  exact freeName_eq hfree (Nat.zero_le m) (by omega)

/-- The name of the new file depends on the entries whose names are tried only. -/
theorem freshName_congr (hbase : s.base.Plain) {t t' : FileTree} {es' : Entries FileTree}
    (h : t.find s.base.names = .ok (.folder es)) (h' : t'.find s.base.names = .ok (.folder es'))
    (hsame : ∀ j, Entries.has es (scratchName stem j) = Entries.has es' (scratchName stem j)) :
    s.freshName stem t = s.freshName stem t' := by
  obtain ⟨m, hm, hname⟩ := exists_freshName hbase h stem
  obtain ⟨n, hn, hname'⟩ := exists_freshName hbase h' stem
  rw [hname, hname', hm.unique hn hsame]

/-! ## Writing -/

/-- What lets a locale's file be written: names that are not too long, and no folder in its place.
-/
structure Writable (s : Store) (t : FileTree) (es : Entries FileTree) (l : Text) : Prop where
  file : isTooLong (fileName l) = false
  scratch : isTooLong (s.freshName (s.base.child (fileName l)).stem t) = false
  free : ∀ below, Entries.get? es (fileName l) ≠ some (.folder below)

/-- A change that the files allow is made. -/
theorem run_change_of_ok {path : Path} {f : FileTree → Except FileFault FileTree} {t : FileTree}
    (h : f d.files = .ok t) : (change path f).run.run d = (.ok (), { d with files := t }) := by
  unfold change
  rw [run_bind_of_ok (x := files) (s := d) rfl, h]
  rfl

/-- A change that the files refuse is reported with its path and changes nothing. -/
theorem run_change_of_error {path : Path} {f : FileTree → Except FileFault FileTree}
    {e : FileFault} (h : f d.files = .error e) :
    (change path f).run.run d = (.error (.files e path.toText), d) := by
  unfold change
  rw [run_bind_of_ok (x := files) (s := d) rfl, h]
  rfl

/-- A change succeeds exactly when the files allow it, and makes nothing but it. -/
theorem run_change_eq_ok {path : Path} {f : FileTree → Except FileFault FileTree} {d' : Disk} :
    (change path f).run.run d = (.ok (), d') ↔
      ∃ t, f d.files = .ok t ∧ d' = { d with files := t } := by
  constructor
  · unfold change
    rw [run_bind_of_ok (x := files) (s := d) rfl]
    cases f d.files with
    | error e => exact nofun
    | ok t =>
      intro h
      cases h
      exact ⟨t, rfl, rfl⟩
  · rintro ⟨t, ht, rfl⟩
    exact run_change_of_ok ht

/-- Where nothing refuses, a file takes the place of another one and is gone itself. -/
theorem replaceFile_child (hbase : s.base.Plain) {t : FileTree} {source target : Text}
    (h : t.find s.base.names = .ok (.folder es)) (hsource : source ≠ Text.ofString "..")
    (htarget : target ≠ Text.ofString "..") (hne : source ≠ target)
    (hsourceFits : isTooLong source = false) (htargetFits : isTooLong target = false)
    {bytes : List UInt8} (hfile : Entries.get? es source = some (.file bytes))
    (hfree : ∀ below, Entries.get? es target ≠ some (.folder below)) :
    ∃ t', replaceFile (s.base.child source) (s.base.child target) t = .ok t' ∧
      t'.find s.base.names =
        .ok (.folder ((Entries.set es target (.file bytes)).filter (·.1 ≠ source))) := by
  obtain ⟨t₁, hwrite, h₁⟩ := writeBytes_child hbase h htarget htargetFits hfree bytes
  have hhas : Entries.has (Entries.set es target (.file bytes)) source = true := by
    rw [Entries.has, Entries.get?_set_of_ne _ _ hne.symm, hfile]
    rfl
  obtain ⟨t₂, hremove, h₂⟩ := remove_child h₁ hhas
  refine ⟨t₂, ?_, h₂⟩
  rw [replaceFile, readBytes_child hbase h hsource hsourceFits hfile]
  show (t.writeBytes _ bytes).bind _ = _
  rw [hwrite]
  exact hremove

/-- A name passes the check when every code point of it can stand in a path. -/
theorem checkName_eq_ok {name : Text} :
    checkName name = .ok () ↔ name.any Path.isUnencodable = false := by
  unfold checkName
  cases name.any Path.isUnencodable <;> simp

/-- A text with a UTF-8 form may be the name of a file. -/
theorem checkName_of_encodable {name : Text} (h : name.Encodable) : checkName name = .ok () := by
  refine checkName_eq_ok.2 (List.any_eq_false.2 fun c hc => ?_)
  have hscalar := h c hc
  cases c with
  | scalar c => exact Bool.false_ne_true
  | surrogate i => cases hscalar

/-- **Writing a file as a whole** sets its entry in the storage folder and no other, and gives no
warning. -/
theorem run_writeWhole (hbase : s.base.Plain) (h : d.files.find s.base.names = .ok (.folder es))
    (hnamed : checkName (fileName l) = .ok ()) (hw : s.Writable d.files es l) {content : Text}
    {bytes : List UInt8} (hbytes : Utf8.encode content = .ok bytes) :
    ∃ t es', (s.writeWhole (s.base.child (fileName l)) content).run.run d =
        (.ok (), { d with files := t }) ∧
      t.find s.base.names = .ok (.folder es') ∧
      ∀ name, Entries.get? es' name =
        if name = fileName l then some (.file bytes) else Entries.get? es name := by
  obtain ⟨hfile, hscratch, hfree⟩ := hw
  obtain ⟨m, hfirst, hfresh⟩ := exists_freshName hbase h (s.base.child (fileName l)).stem
  rw [hfresh] at hscratch
  generalize hS : scratchName (s.base.child (fileName l)).stem m = scratch at hfresh hscratch
  have hdots : scratch ≠ Text.ofString ".." := hS ▸ scratchName_ne_dots _ m
  have hne : scratch ≠ fileName l := hS ▸ scratchName_ne_fileName _ l m
  have hnone : Entries.get? es scratch = none := by
    have hhas : Entries.has es scratch = false := hS ▸ hfirst.1
    exact Option.not_isSome_iff_eq_none.1 (by simpa [Entries.has] using hhas)
  -- The new file is made, then filled, then it takes the place of the locale's file.
  obtain ⟨t₁, hmake, h₁⟩ := writeBytes_child hbase h hdots hscratch (by simp [hnone]) []
  obtain ⟨t₂, hfill, h₂⟩ := writeBytes_child hbase h₁ hdots hscratch (by simp) bytes
  obtain ⟨t₃, hreplace, h₃⟩ := replaceFile_child hbase h₂ hdots (fileName_ne_dots l) hne hscratch
    hfile (Entries.get?_set_self _ _ _) (by
      intro below
      rw [Entries.get?_set_of_ne _ _ hne, Entries.get?_set_of_ne _ _ hne]
      exact hfree below)
  refine ⟨t₃, _, ?_, h₃, fun name => ?_⟩
  · unfold writeWhole
    rw [name_child, hnamed, run_bind_of_ok (run_liftM (.ok ()) d),
      run_bind_of_ok (x := files) (s := d) rfl]
    simp only [hfresh]
    rw [run_bind_of_ok (run_change_of_ok hmake), mapError_eq_ok.2 hbytes,
      run_bind_of_ok (run_liftM (.ok bytes) _),
      run_bind_of_ok (run_change_of_ok (d := { d with files := t₁ }) hfill),
      run_bind_of_ok (x := files) (s := { d with files := t₂ }) rfl]
    simp only [hreplace]
    rfl
  · rw [Entries.get?_filter _ (fun k => k ≠ scratch)]
    by_cases hscr : name = scratch
    · rw [if_neg (by simp [hscr]), if_neg (hscr ▸ hne), hscr, hnone]
    · rw [if_pos (by simpa using hscr)]
      by_cases hname : name = fileName l
      · rw [if_pos hname, hname, Entries.get?_set_self]
      · rw [if_neg hname, Entries.get?_set_of_ne _ _ (Ne.symm hname),
          Entries.get?_set_of_ne _ _ (Ne.symm hscr), Entries.get?_set_of_ne _ _ (Ne.symm hscr)]

/-- A file that was written could be written, and its text has a UTF-8 form. -/
theorem writable_of_run (hbase : s.base.Plain) (h : d.files.find s.base.names = .ok (.folder es))
    {content : Text} {d' : Disk}
    (hrun : (s.writeWhole (s.base.child (fileName l)) content).run.run d = (.ok (), d')) :
    s.Writable d.files es l ∧ ∃ bytes, Utf8.encode content = .ok bytes := by
  obtain ⟨m, -, hfresh⟩ := exists_freshName hbase h (s.base.child (fileName l)).stem
  generalize hS : scratchName (s.base.child (fileName l)).stem m = scratch at hfresh
  have hdots : scratch ≠ Text.ofString ".." := hS ▸ scratchName_ne_dots _ m
  have hne : scratch ≠ fileName l := hS ▸ scratchName_ne_fileName _ l m
  unfold writeWhole at hrun
  obtain ⟨⟨⟩, d₀, hnamed, hrun⟩ := run_bind_eq_ok.1 hrun
  rw [run_liftM, Prod.mk.injEq] at hnamed
  obtain ⟨-, rfl⟩ := hnamed
  rw [run_bind_of_ok (x := files) (s := d) rfl] at hrun
  simp only [hfresh] at hrun
  obtain ⟨⟨⟩, d₁, hfirst, hrun⟩ := run_bind_eq_ok.1 hrun
  obtain ⟨t₁, hmake, rfl⟩ := run_change_eq_ok.1 hfirst
  obtain ⟨hscratch, hempty⟩ := fits_of_writeBytes hbase h hdots hmake
  obtain ⟨bytes, d₂, hbytes, hrun⟩ := run_bind_eq_ok.1 hrun
  rw [run_liftM, Prod.mk.injEq] at hbytes
  obtain ⟨hbytes, rfl⟩ := hbytes
  obtain ⟨⟨⟩, d₃, hsecond, hrun⟩ := run_bind_eq_ok.1 hrun
  obtain ⟨t₂, hfill, rfl⟩ := run_change_eq_ok.1 hsecond
  rw [run_bind_of_ok (x := files) rfl] at hrun
  -- The folder just before the new file takes the place of the locale's file.
  obtain ⟨u₁, hmake', h₁⟩ := writeBytes_child hbase h hdots hscratch hempty []
  obtain rfl : t₁ = u₁ := Except.ok.inj (hmake.symm.trans hmake')
  obtain ⟨u₂, hfill', h₂⟩ := writeBytes_child hbase h₁ hdots hscratch (by simp) bytes
  obtain rfl : t₂ = u₂ := Except.ok.inj (hfill.symm.trans hfill')
  cases hreplace : replaceFile (s.base.child scratch) (s.base.child (fileName l)) t₂ with
  | error e =>
    simp only [hreplace] at hrun
    obtain ⟨⟨⟩, d₄, -, hrun⟩ := run_bind_eq_ok.1 hrun
    cases hrun
  | ok t₃ =>
    obtain ⟨bytes', -, hreplace⟩ := bind_eq_ok.1 hreplace
    obtain ⟨t₄, hwrite, -⟩ := bind_eq_ok.1 hreplace
    obtain ⟨hfile, hfree⟩ := fits_of_writeBytes hbase h₂ (fileName_ne_dots l) hwrite
    refine ⟨⟨hfile, by rwa [hfresh], fun below hget => hfree below ?_⟩, bytes,
      mapError_eq_ok.1 hbytes⟩
    rw [Entries.get?_set_of_ne _ _ hne, Entries.get?_set_of_ne _ _ hne]
    exact hget

end

end Localization.Store
