import Localization.Command.Run
import Localization.Proofs.Command.Translate
import Localization.Proofs.Folders
import Localization.Proofs.Store.Failing
import Localization.Proofs.Store.Names

/-!
# Setting a project up

A command is refused if it stops for something that is foreseen: it aborts, or fails in a way that
is shown. Steps that stop for nothing foreseen can be passed over in search of a refusal
(`Unforeseen.exists_of_bind`): the operating system's refusals and texts without a UTF-8 form are
not foreseen, and a new configuration has no faults (`faults_newConfig`). A locale's file that is
not there can be made unless something unforeseen stops it (`unforeseen_save`). So beside a
configuration that is to be kept, it is the name of the default locale for which a set-up is
refused. That name is looked at by the store, when the configuration is written already
(`refused_setUp`).
-/

namespace Localization.Command

variable {σ α β : Type} {s s' : Session σ} {x : Running σ α} {f : α → Running σ β} {stop : Stop}

/-! ## Refusals -/

/-- Whether a command that stops so is refused: it says why itself, or its failure is shown. -/
def Stop.isForeseen : Stop → Bool
  | .aborted => true
  | .failed f => Command.isForeseen f

/-- A run is aborted because its command is refused, and no file changes after that. -/
theorem exists_stop_of_runCommand {h : Host σ} {c : Command}
    (hrun : runCommand h s c = (.aborted, s')) :
    ∃ stop s₁, (steps h c).run.run { s with records := [] } = (.error stop, s₁) ∧
      stop.isForeseen = true ∧ s'.disk = s₁.disk := by
  obtain ⟨⟨r, s₁⟩, hsteps⟩ : ∃ y, (steps h c).run.run { s with records := [] } = y := ⟨_, rfl⟩
  rw [runCommand, hsteps] at hrun
  cases r with
  | ok a => cases hrun
  | error stop =>
    refine ⟨stop, s₁, hsteps, ?_⟩
    cases stop with
    | aborted =>
      cases hrun
      exact ⟨rfl, rfl⟩
    | failed f =>
      dsimp only [endWith] at hrun
      split at hrun
      next hforeseen =>
        cases hrun
        exact ⟨hforeseen, rfl⟩
      · cases hrun

/-- Nothing that this command stops for is foreseen. -/
def Unforeseen (x : Running σ α) : Prop :=
  ∀ s stop s', x.run.run s = (.error stop, s') → stop.isForeseen = false

/-- A sequence of two is refused by the second one, if nothing the first one stops for is
foreseen. -/
theorem Unforeseen.exists_of_bind (hx : Unforeseen x) (hstop : stop.isForeseen = true)
    (hrun : (x >>= f).run.run s = (.error stop, s')) :
    ∃ a s₁, x.run.run s = (.ok a, s₁) ∧ (f a).run.run s₁ = (.error stop, s') := by
  rcases run_bind_eq_error.1 hrun with hrun | hrun
  · rw [hx s stop s' hrun] at hstop
    cases hstop
  · exact hrun

/-- Going on with a value stops for nothing foreseen if the value fails for nothing foreseen. -/
theorem unforeseen_orFail {y : Except Failure α} (h : ∀ e, y = .error e → isForeseen e = false) :
    Unforeseen (orFail y : Running σ α) := by
  intro s stop s' hrun
  cases y with
  | ok a => cases hrun
  | error e =>
    cases hrun
    exact h e rfl

/-- That a path cannot be resolved is not foreseen. -/
theorem isForeseen_pathFailure (e : PathFault) : isForeseen (Config.pathFailure e) = false := by
  cases e <;> rfl

/-- Resolving a folder stops for nothing foreseen. -/
theorem unforeseen_resolved (h : Host σ) (folder : Text) :
    Unforeseen (orFail (resolved h folder) : Running σ Path) := by
  refine unforeseen_orFail fun e he => ?_
  obtain ⟨fault, -, rfl⟩ := mapError_eq_error.1 he
  exact isForeseen_pathFailure fault

/-- An operation on the store stops for nothing foreseen if it fails for nothing foreseen. -/
theorem unforeseen_withStore {op : Storing α}
    (h : ∀ d e d', op.run.run d = (.error e, d') → isForeseen e = false) :
    Unforeseen (withStore op : Running σ α) := by
  intro s stop s' hrun
  obtain ⟨e, d, hop, rfl, -⟩ := run_withStore_eq_error.1 hrun
  exact h _ _ _ hop

/-! ## Files and folders -/

/-- Changes the files; a refusal ends the command. -/
def changeFiles (p : Path) (g : FileTree → Except FileFault FileTree) : Running σ Unit := do
  match g (← files) with
  | .ok t => putFiles t
  | .error fault => throw (.failed (.files fault p.toText))

/-- A change of the files is made in the session, or ends the command with its fault. -/
theorem run_changeFiles (p : Path) (g : FileTree → Except FileFault FileTree) :
    (changeFiles p g : Running σ Unit).run.run s =
      match g s.disk.files with
      | .ok t => (.ok (), { s with disk := { s.disk with files := t } })
      | .error fault => (.error (.failed (.files fault p.toText)), s) := by
  have hfiles : (files : Running σ FileTree).run.run s = (.ok s.disk.files, s) := rfl
  unfold changeFiles
  rw [run_bind_of_ok hfiles]
  cases g s.disk.files <;> rfl

/-- A change of the files that is made changes nothing else. -/
theorem run_changeFiles_eq_ok {p : Path} {g : FileTree → Except FileFault FileTree} :
    (changeFiles p g : Running σ Unit).run.run s = (.ok (), s') ↔
      ∃ t, g s.disk.files = .ok t ∧ s' = { s with disk := { s.disk with files := t } } := by
  rw [run_changeFiles]
  cases g s.disk.files with
  | error fault => exact ⟨nofun, nofun⟩
  | ok t =>
    constructor
    · intro h
      cases h
      exact ⟨t, rfl, rfl⟩
    · rintro ⟨t', ht, rfl⟩
      cases ht
      rfl

/-- Changing the files stops for nothing foreseen. -/
theorem unforeseen_changeFiles (p : Path) (g : FileTree → Except FileFault FileTree) :
    Unforeseen (changeFiles p g : Running σ Unit) := by
  intro s stop s' hrun
  rw [run_changeFiles] at hrun
  split at hrun <;> cases hrun
  rfl

/-- Making folders is a change of the files. -/
theorem makeFolders_eq (p : Path) :
    (makeFolders p : Running σ Unit) = changeFiles p (·.makePath p) := rfl

/-- Writing a file is encoding its content and a change of the files. -/
theorem writeFile_eq (p : Path) (content : Text) : (writeFile p content : Running σ Unit) =
    orFail ((Utf8.encode content).mapError .encoding) >>= fun bytes =>
      changeFiles p (·.writeBytes p bytes) := rfl

/-- Encoding a content stops for nothing foreseen. -/
theorem unforeseen_encode (content : Text) :
    Unforeseen (orFail ((Utf8.encode content).mapError .encoding) : Running σ (List UInt8)) := by
  refine unforeseen_orFail fun e he => ?_
  obtain ⟨fault, -, rfl⟩ := mapError_eq_error.1 he
  rfl

/-! ## The catalog of the default locale -/

section
variable {store : Store} {d d' : Disk} {e : Failure} {es : Entries FileTree} {l : Text}

/-- A change of the files by the store fails for nothing foreseen. -/
theorem unforeseen_change {path : Path} {g : FileTree → Except FileFault FileTree}
    (hrun : (Store.change path g).run.run d = (.error e, d')) : isForeseen e = false := by
  cases hg : g d.files with
  | ok t =>
    rw [Store.run_change_of_ok hg] at hrun
    cases hrun
  | error fault =>
    rw [Store.run_change_of_error hg] at hrun
    cases hrun
    rfl

/-- Where nothing is in the place of a locale's file, nothing foreseen stops it from being
written. -/
theorem unforeseen_writeWhole (hbase : store.base.Plain)
    (h : d.files.find store.base.names = .ok (.folder es))
    (hfile : FileTree.isTooLong (Store.fileName l) = false)
    (hfree : Entries.get? es (Store.fileName l) = none) {content : Text}
    (hrun : (store.writeWhole (store.base.child (Store.fileName l)) content).run.run d =
      (.error e, d')) : isForeseen e = false := by
  have hsteps := hrun
  unfold Store.writeWhole at hsteps
  rw [Store.name_child] at hsteps
  rcases run_bind_eq_error.1 hsteps with hnamed | ⟨⟨⟩, d₀, hnamed, hsteps⟩
  · rw [run_liftM, Store.checkName] at hnamed
    split at hnamed <;> cases hnamed
    rfl
  rw [run_liftM, Prod.mk.injEq] at hnamed
  obtain ⟨hnamed, rfl⟩ := hnamed
  rw [run_bind_of_ok (x := Store.files) (s := d) rfl] at hsteps
  rcases run_bind_eq_error.1 hsteps with hmake | ⟨⟨⟩, d₁, hmake, hsteps⟩
  · exact unforeseen_change hmake
  rcases run_bind_eq_error.1 hsteps with hbytes | ⟨bytes, d₂, hbytes, -⟩
  · rw [run_liftM] at hbytes
    obtain ⟨fault, -, rfl⟩ := mapError_eq_error.1 (congrArg Prod.fst hbytes)
    rfl
  -- The new file is made and the text has bytes, so nothing is left to refuse.
  rw [run_liftM] at hbytes
  obtain ⟨t₁, hmake, -⟩ := Store.run_change_eq_ok.1 hmake
  have hscratch := ((Store.exists_writeBytes_newFile hbase []).1 ⟨t₁, hmake⟩).2
  rw [Store.newFile, Store.name_child] at hscratch
  obtain ⟨t, es', hdone, -⟩ := Store.run_writeWhole hbase h hnamed
    ⟨hfile, hscratch, by simp [hfree]⟩ (mapError_eq_ok.1 (congrArg Prod.fst hbytes))
  rw [hdone] at hrun
  cases hrun

/-- Saving a locale without a file fails for nothing foreseen, if its name is accepted and short
enough. -/
theorem unforeseen_save {now name : Text} {locale data : Json} {hashes : Entries Json}
    (hbase : store.base.Plain) (h : d.files.find store.base.names = .ok (.folder es))
    (hname : Store.localeName locale = .ok name)
    (hfile : FileTree.isTooLong (Store.fileName name) = false)
    (hfree : Entries.get? es (Store.fileName name) = none)
    (hrun : (store.save now locale data hashes).run.run d = (.error e, d')) :
    isForeseen e = false := by
  cases hhash : Catalog.digest (.obj (Catalog.clean false data)) with
  | ok hash =>
    exact unforeseen_writeWhole hbase h hfile hfree
      ((Store.run_save_of_accepted hname hhash).1 hrun)
  | error fault =>
    unfold Store.save at hrun
    rw [hname, run_bind_of_ok (run_liftM (.ok name) d)] at hrun
    dsimp only at hrun
    rw [hhash, Except.mapError, run_bind_of_error (run_liftM (.error (Failure.encoding fault)) d)]
      at hrun
    cases hrun
    rfl

/-- Asking for a locale looks for its file and changes nothing. -/
theorem run_has {locale : Json} {name : Text} (hname : Store.localeName locale = .ok name)
    (d : Disk) : (store.has locale).run.run d =
      (Store.presence (store.base.child (Store.fileName name))
        (d.files.at? (store.base.child (Store.fileName name))), d) := by
  have hpath : store.filePath locale = .ok (store.base.child (Store.fileName name)) :=
    map_eq_ok.2 ⟨name, hname, rfl⟩
  unfold Store.has
  rw [hpath, run_bind_of_ok (run_liftM (.ok _) d), Store.run_present]

/-- Where a locale is looked for in vain, nothing is in the place of its file. -/
theorem absent_of_presence (hbase : store.base.Plain)
    (h : d.files.find store.base.names = .ok (.folder es)) {name : Text}
    (hpresence : Store.presence (store.base.child (Store.fileName name))
      (d.files.at? (store.base.child (Store.fileName name))) = .ok false) :
    FileTree.isTooLong (Store.fileName name) = false ∧
      Entries.get? es (Store.fileName name) = none := by
  rw [FileTree.at?_child hbase h (Store.fileName_ne_dots name), FileTree.entry] at hpresence
  split at hpresence
  · cases hpresence
  next hfits =>
    split at hpresence
    · cases hpresence
    next hnone => exact ⟨by simpa using hfits, hnone⟩

/-- Looking for a file fails for nothing foreseen. -/
theorem unforeseen_presence {path : Path} {found : Except FileFault FileTree}
    (h : Store.presence path found = .error e) : isForeseen e = false := by
  unfold Store.presence at h
  split at h <;> cases h
  rfl

end

/-- Paths that were resolved have no double dots. -/
theorem ne_dots_of_collapse {names ns : List Text} : ∀ {above : List Text},
    (∀ name ∈ above, name ≠ Text.ofString "..") → Path.collapse above names = .ok ns →
      ∀ name ∈ ns, name ≠ Text.ofString ".." := by
  induction names with
  | nil =>
    intro above habove h
    cases h
    simpa using habove
  | cons name names ih =>
    intro above habove h
    rw [Path.collapse] at h
    split at h
    · exact ih (fun m hm => habove m (List.mem_of_mem_tail hm)) h
    next hdots =>
      split at h
      · cases h
      · split at h
        · cases h
        · exact ih (List.forall_mem_cons.2 ⟨hdots, habove⟩) h

/-- The storage folder of a configuration is reached without a step back. -/
theorem plain_of_outputPath {c : Config} {base : Path} (h : c.outputPath = .ok base) :
    base.Plain := by
  unfold Config.outputPath Config.folder at h
  split at h
  · obtain ⟨ns, hcollapse, rfl⟩ := map_eq_ok.1 (mapError_eq_ok.1 h)
    have hnone : ∀ name ∈ ([] : List Text), name ≠ Text.ofString ".." := nofun
    exact ne_dots_of_collapse hnone hcollapse
  · cases h

/-- Resolving the storage folder stops for nothing foreseen. -/
theorem unforeseen_outputPath (c : Config) : Unforeseen (orFail c.outputPath : Running σ Path) := by
  refine unforeseen_orFail fun e he => ?_
  unfold Config.outputPath Config.folder at he
  split at he
  · obtain ⟨fault, -, rfl⟩ := mapError_eq_error.1 he
    exact isForeseen_pathFailure fault
  · cases he
    rfl

/-- Opening the store stops for nothing foreseen. -/
theorem unforeseen_openStore (c : Config) : Unforeseen (openStore c : Running σ Store) := by
  intro s stop s' hrun
  by_contra hstop
  rw [Bool.not_eq_false] at hstop
  obtain ⟨base, s₁, -, hrun⟩ := (unforeseen_outputPath c).exists_of_bind hstop hrun
  have hcreate : Unforeseen (withStore (Store.create ⟨base⟩) : Running σ Unit) :=
    unforeseen_withStore fun _ _ _ => unforeseen_change
  obtain ⟨⟨⟩, s₂, -, hrun⟩ := hcreate.exists_of_bind hstop hrun
  cases hrun

/-- Opening the store makes its folder, and changes nothing of the service. -/
theorem files_of_openStore {c : Config} {store : Store}
    (hrun : (openStore c : Running σ Store).run.run s = (.ok store, s')) :
    c.outputPath = .ok store.base ∧
      s.disk.files.makeFolder store.base.names = .ok s'.disk.files ∧ s'.service = s.service := by
  obtain ⟨base, s₁, hfirst, hrest⟩ := run_bind_eq_ok.1 hrun
  obtain ⟨hbase, rfl⟩ := run_orFail_eq_ok.1 hfirst
  obtain ⟨u, s₂, hsecond, hrest⟩ := run_bind_eq_ok.1 hrest
  obtain ⟨d, hcreate, rfl⟩ := run_withStore_eq_ok.1 hsecond
  obtain ⟨t, ht, rfl⟩ := Store.run_change_eq_ok.1 hcreate
  cases hrest
  exact ⟨hbase, ht, rfl⟩

/-- Making the catalog of the default locale is refused for the locale's name only, when the storage
folder is there. -/
theorem refused_makeDefault {h : Host σ} {c : Config} {standard : Text}
    (hrun : (makeDefault h c standard).run.run s = (.error stop, s'))
    (hstop : stop.isForeseen = true) :
    ¬ Store.SafeName standard ∧ ∃ base, c.outputPath = .ok base ∧
      s.disk.files.makeFolder base.names = .ok s'.disk.files := by
  obtain ⟨store, s₁, hopen, hrun⟩ := (unforeseen_openStore c).exists_of_bind hstop hrun
  obtain ⟨hbase, hmade, -⟩ := files_of_openStore hopen
  rcases Store.localeName_cases (.str standard) with
    ⟨name, hlocale, -, hname⟩ | ⟨hrefused, message, hname⟩
  · -- A locale that is accepted is found, or nothing stops it from being saved.
    have hplain := plain_of_outputPath hbase
    obtain ⟨es, hfolder⟩ := FileTree.find_makeFolder hmade
    have hhas : Unforeseen (withStore (store.has (.str standard)) : Running σ Bool) := by
      refine unforeseen_withStore fun d e d' hrun => ?_
      rw [run_has hname] at hrun
      exact unforeseen_presence (congrArg Prod.fst hrun)
    obtain ⟨found, s₂, hfound, hrun⟩ := hhas.exists_of_bind hstop hrun
    obtain ⟨d, hop, rfl⟩ := run_withStore_eq_ok.1 hfound
    rw [run_has hname, Prod.mk.injEq] at hop
    obtain ⟨hpresence, rfl⟩ := hop
    cases found with
    | true => cases hrun
    | false =>
      obtain ⟨hfits, hnone⟩ := absent_of_presence hplain hfolder hpresence
      rcases run_bind_eq_error.1 hrun with hsave | ⟨file, s₃, -, hrun⟩
      · obtain ⟨e, d, hop, rfl, -⟩ := run_withStore_eq_error.1 hsave
        rw [Stop.isForeseen, unforeseen_save hplain hfolder hname hfits hnone hop] at hstop
        cases hstop
      · cases hrun
  · refine ⟨hrefused standard rfl, store.base, hbase, ?_⟩
    have hhas := (Store.run_of_refused hname s₁.disk (s := store)).2.2.2.1
    rcases run_bind_eq_error.1 hrun with hrun | ⟨found, s₂, hfound, -⟩
    · obtain ⟨e, d, hd, -, rfl⟩ := run_withStore_eq_error.1 hrun
      rw [hhas] at hd
      cases hd
      exact hmade
    · obtain ⟨d, hd, -⟩ := run_withStore_eq_ok.1 hfound
      rw [hhas] at hd
      cases hd

/-! ## New configurations -/

/-- The configuration that a project is set up with. -/
def newConfig (root : Path) (locales : Text) (chosen : Option Text) : Config :=
  { Config.standard root with
    locales := .arr ((projectLocales locales chosen).1.map .str)
    defaultLocale := .str (projectLocales locales chosen).2 }

/-- The default locale of a new project is one of its locales. -/
theorem mem_projectLocales (locales : Text) (chosen : Option Text) :
    (projectLocales locales chosen).2 ∈ (projectLocales locales chosen).1 := by
  have hmem : ∀ (ls : List Text) (d : Text), d ∈ if ls.contains d then ls else d :: ls := by
    intro ls d
    split
    next h => exact List.contains_iff_mem.1 h
    next => exact List.mem_cons_self
  exact hmem _ _

/-- A new configuration has no faults: its default locale is one of its locales, and all else is
standard. -/
theorem faults_newConfig (characters : Regex.CharacterNames) (root : Path) (locales : Text)
    (chosen : Option Text) : (newConfig root locales chosen).faults characters = .ok [] := by
  have hmem := mem_projectLocales locales chosen
  have hlisted : (newConfig root locales chosen).defaultLocale.isIn
      (newConfig root locales chosen).locales = .ok true := by
    refine congrArg Except.ok (List.any_eq_true.2 ⟨_, List.mem_map_of_mem hmem, ?_⟩)
    rw [newConfig, Json.same]
    exact beq_self_eq_true _
  have hsome : (newConfig root locales chosen).locales.isTruthy = true := by
    rw [newConfig, Json.isTruthy]
    simpa using List.ne_nil_of_mem hmem
  have hfunction : Config.nameFaults "functionName" "identifier" Config.startsFunction
      (newConfig root locales chosen).functionName = .ok [] := by rfl
  have hcomponent : Config.nameFaults "componentName" "component name" CodePoint.isAsciiUpper
      (newConfig root locales chosen).componentName = .ok [] := by rfl
  have hshort : Config.isBelowOne (newConfig root locales chosen).minLength = .ok false := by rfl
  have hpatterns : (newConfig root locales chosen).excludePatterns.members = .ok [] := by rfl
  rw [Config.faults, hlisted, ok_bind, hfunction, ok_bind, hcomponent, ok_bind, hshort, ok_bind,
    hpatterns, ok_bind, Config.allPatternFaults, ok_bind, hsome]
  rfl

/-! ## Setting up -/

/-- Where the configuration of a project is. -/
def configPlace (h : Host σ) (folder : Text) : Path :=
  h.folder.join ((Path.ofText folder).child configName)

/-- What is done once it is known that there is no configuration to be kept. -/
def establish (h : Host σ) (locales : Text) (chosen : Option Text) (folder : Text) :
    Running σ Unit := do
  let c := newConfig (← orFail (resolved h folder)) locales chosen
  refuseFaults (← orFail (c.faults h.characters))
  makeFolders (h.folder.join (Path.ofText folder))
  writeFile (configPlace h folder) ((configDocument c).render .ascii ++ "\n")
  say ("[green]Created:[/green] " ++ ((Path.ofText folder).child configName).toText)
  makeDefault h c (projectLocales locales chosen).2
  present nextSteps

/-- What is there before the catalog of the default locale is made: the folder of the project, its
configuration, and the storage folder. -/
def Prepared (h : Host σ) (folder : Text) (c : Config) (t t' : FileTree) : Prop :=
  ∃ t₁ t₂ bytes base, t.makePath (h.folder.join (Path.ofText folder)) = .ok t₁ ∧
    Utf8.encode ((configDocument c).render .ascii ++ "\n") = .ok bytes ∧
    t₁.writeBytes (configPlace h folder) bytes = .ok t₂ ∧ c.outputPath = .ok base ∧
    t₂.makeFolder base.names = .ok t'

/-- The new configuration can be read, and the storage folder is there. -/
theorem Prepared.left {h : Host σ} {folder : Text} {c : Config} {t t' : FileTree}
    (hp : Prepared h folder c t t') :
    (∃ bytes, Utf8.encode ((configDocument c).render .ascii ++ "\n") = .ok bytes ∧
      t'.readBytes (configPlace h folder) = .ok bytes) ∧
    ∃ base es, c.outputPath = .ok base ∧ t'.find base.names = .ok (.folder es) := by
  obtain ⟨t₁, t₂, bytes, base, -, hbytes, hwrite, hbase, hmake⟩ := hp
  obtain ⟨es, hfolder⟩ := FileTree.find_makeFolder hmake
  have hread := FileTree.readBytes_of_related (FileTree.related_makeFolder hmake)
    (FileTree.readBytes_of_writeBytes hwrite)
  exact ⟨⟨bytes, hbytes, hread⟩, base, es, hbase, hfolder⟩

/-- Once it is known that there is no configuration to be kept, setting up is refused for the name
of the default locale only, and all but its catalog is there then. -/
theorem refused_establish {h : Host σ} {locales folder : Text} {chosen : Option Text}
    (hrun : (establish h locales chosen folder).run.run s = (.error stop, s'))
    (hstop : stop.isForeseen = true) :
    ¬ Store.SafeName (projectLocales locales chosen).2 ∧ ∃ root, resolved h folder = .ok root ∧
      Prepared h folder (newConfig root locales chosen) s.disk.files s'.disk.files := by
  obtain ⟨root, s₁, hroot, hrest⟩ := (unforeseen_resolved h folder).exists_of_bind hstop hrun
  obtain ⟨hresolved, rfl⟩ := run_orFail_eq_ok.1 hroot
  have hfaults : (orFail ((newConfig root locales chosen).faults h.characters) :
      Running σ _).run.run s₁ = (.ok [], s₁) :=
    run_orFail_eq_ok.2 ⟨faults_newConfig h.characters root locales chosen, rfl⟩
  have hrefuse : (refuseFaults [] : Running σ Unit).run.run s₁ = (.ok (), s₁) := rfl
  rw [run_bind_of_ok hfaults, run_bind_of_ok hrefuse] at hrest
  rw [makeFolders_eq, writeFile_eq, bind_assoc] at hrest
  obtain ⟨u, s₂, hfolders, hrest⟩ := (unforeseen_changeFiles _ _).exists_of_bind hstop hrest
  obtain ⟨t₁, hmade, rfl⟩ := run_changeFiles_eq_ok.1 hfolders
  obtain ⟨bytes, s₃, hencode, hrest⟩ := (unforeseen_encode _).exists_of_bind hstop hrest
  obtain ⟨hbytes, rfl⟩ := run_orFail_eq_ok.1 hencode
  obtain ⟨u', s₄, hfile, hrest⟩ := (unforeseen_changeFiles _ _).exists_of_bind hstop hrest
  obtain ⟨t₂, hwrite, rfl⟩ := run_changeFiles_eq_ok.1 hfile
  rw [run_bind_of_ok (run_say _)] at hrest
  rcases run_bind_eq_error.1 hrest with hcatalog | ⟨u'', s₅, -, hrest⟩
  · obtain ⟨hrefused, base, hbase, hstorage⟩ := refused_makeDefault hcatalog hstop
    exact ⟨hrefused, root, hresolved, t₁, t₂, bytes, base, hmade, mapError_eq_ok.1 hbytes, hwrite,
      hbase, hstorage⟩
  · cases hrest

/-- Setting up is a look for a configuration that is to be kept, and then the rest. -/
theorem setUp_eq (h : Host σ) (locales : Text) (chosen : Option Text) (folder : Text)
    (force : Bool) : setUp h locales chosen folder force =
      withStore (Store.present (configPlace h folder)) >>= fun there =>
        if there && !force then
          say ("[yellow]" ++ ((Path.ofText folder).child configName).toText ++
            " already exists[/yellow] (use --force to overwrite)") >>= fun _ =>
          (abort : Running σ PUnit) >>= fun _ => establish h locales chosen folder
        else establish h locales chosen folder := rfl

/-- **What a refused set-up leaves behind.** For every host, all options and every state of the
files: when setting a project up is refused, then there was a configuration that must not be
overwritten, and nothing has changed; or the default locale has a name that the store refuses. The
store looks at the name last, so the folder of the project, its new configuration and the storage
folder stay behind then, and the configuration can be read. -/
theorem refused_setUp {h : Host σ} {locales folder : Text} {chosen : Option Text} {force : Bool}
    (hrun : runCommand h s (.init locales chosen folder force) = (.aborted, s')) :
    (force = false ∧ (∃ t, s.disk.files.at? (configPlace h folder) = .ok t) ∧ s'.disk = s.disk) ∨
    (¬ Store.SafeName (projectLocales locales chosen).2 ∧ ∃ root bytes,
      resolved h folder = .ok root ∧
      Prepared h folder (newConfig root locales chosen) s.disk.files s'.disk.files ∧
      Utf8.encode ((configDocument (newConfig root locales chosen)).render .ascii ++ "\n") =
        .ok bytes ∧
      s'.disk.files.readBytes (configPlace h folder) = .ok bytes) := by
  obtain ⟨stop, s₁, hsteps, hstop, hdisk⟩ := exists_stop_of_runCommand hrun
  have hpresent : Unforeseen
      (withStore (Store.present (configPlace h folder)) : Running σ Bool) := by
    refine unforeseen_withStore fun d e d' hop => ?_
    rw [Store.run_present] at hop
    exact unforeseen_presence (congrArg Prod.fst hop)
  rw [steps, setUp_eq] at hsteps
  obtain ⟨there, s₂, hthere, hrest⟩ := hpresent.exists_of_bind hstop hsteps
  obtain ⟨d, hop, rfl⟩ := run_withStore_eq_ok.1 hthere
  rw [Store.run_present, Prod.mk.injEq] at hop
  obtain ⟨hpresence, rfl⟩ := hop
  split at hrest
  next hkeep =>
    rw [Bool.and_eq_true, Bool.not_eq_true'] at hkeep
    obtain ⟨rfl, rfl⟩ := hkeep
    cases hrest
    unfold Store.presence at hpresence
    split at hpresence
    next t hat => exact .inl ⟨rfl, ⟨t, hat⟩, hdisk⟩
    next => cases hpresence
    next => cases hpresence
  next =>
    obtain ⟨hrefused, root, hroot, hprepared⟩ := refused_establish hrest hstop
    obtain ⟨⟨bytes, hbytes, hread⟩, -⟩ := hprepared.left
    rw [← hdisk] at hprepared hread
    exact .inr ⟨hrefused, root, bytes, hroot, hprepared, hbytes, hread⟩

/-- A folder with another file in it. -/
def otherFile : Session Unit := .fresh (.folder [("lokal.txt", .file [0x78])]) [] ()

/-- A project is set up with one locale. -/
def initWith (locale : Text) : Command := .init locale none "." false

/-- The name of the locale leads out of the storage folder. -/
theorem exists_aborted : ∃ s', runCommand (hostAt "2024") otherFile (initWith "../x") =
    (.aborted, s') := by
  obtain ⟨⟨ending, s'⟩, hrun⟩ :
    ∃ y, runCommand (hostAt "2024") otherFile (initWith "../x") = y := ⟨_, rfl⟩
  have hended : (runCommand (hostAt "2024") otherFile (initWith "../x")).1.ctorIdx = 1 := by
    decide +kernel
  rw [hrun] at hended
  cases ending with
  | aborted => exact ⟨s', hrun⟩
  | done | misused _ | failed _ => cases hended

/-- The configuration for a locale that cannot be stored stays behind. -/
theorem refused_setUp_parent : ∃ s', runCommand (hostAt "2024") otherFile (initWith "../x") =
      (.aborted, s') ∧
    ∃ bytes, s'.disk.files.readBytes ⟨.root, ["lokal.config.json"]⟩ = .ok bytes := by
  obtain ⟨s', hrun⟩ := exists_aborted
  refine ⟨s', hrun, ?_⟩
  rcases refused_setUp hrun with ⟨-, ⟨t, hat⟩, -⟩ | ⟨-, root, bytes, -, -, -, hread⟩
  · have habsent : (otherFile.disk.files.at? (configPlace (hostAt "2024") ".")).toOption.isSome =
      false := by decide
    rw [hat] at habsent
    cases habsent
  · exact ⟨bytes, hread⟩

/-- Not every set-up that is refused leaves the files as they were. -/
theorem setUp_changes_files :
    ¬ ∀ (h : Host Unit) (s s' : Session Unit) (locales : Text) (chosen : Option Text)
      (folder : Text) (force : Bool),
      runCommand h s (.init locales chosen folder force) = (.aborted, s') →
        s'.disk.files = s.disk.files := by
  intro hall
  obtain ⟨s', hrun⟩ := exists_aborted
  have hthere : ((runCommand (hostAt "2024") otherFile (initWith "../x")).2.disk.files.at?
      ⟨.root, ["lokal.config.json"]⟩).toOption.isSome = true := by
    decide +kernel
  rw [hrun, hall _ _ _ _ _ _ _ hrun] at hthere
  exact absurd hthere (by decide)

end Localization.Command
