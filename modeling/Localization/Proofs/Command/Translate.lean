import Localization.Command.Translate
import Localization.Proofs.Store.Documents
import Localization.Proofs.Sync.Resume

/-!
# Translating again

A command is read step by step: what it loads, what it saves, and what it leaves to the service
(`does_translateLocale`). What a run saves, a later run loads (`Stored.after_save`), with the
digests that the locale's own leaves need; so the later run takes up where the first one ended. The
main statement is that it asks for the texts that failed, and for nothing else (`translate_again`).
-/

namespace Localization.Command

variable {σ α : Type} {s s' : Session σ}

/-! ## Steps -/

/-- A value that had to be there is there, and the session is as it was. -/
theorem run_orFail_eq_ok {x : Except Failure α} {a : α} :
    (orFail x : Running σ α).run.run s = (.ok a, s') ↔ x = .ok a ∧ s' = s := by
  cases x with
  | error e => exact ⟨nofun, nofun⟩
  | ok b =>
    constructor
    · intro h
      cases h
      exact ⟨rfl, rfl⟩
    · rintro ⟨hb, rfl⟩
      cases hb
      rfl

/-- What comes after a value that had to be there runs with it in the same session. -/
theorem run_orFail_bind_eq_ok {β : Type} {x : Except Failure α} {f : α → Running σ β} {b : β} :
    (orFail x >>= f).run.run s = (.ok b, s') ↔ ∃ a, x = .ok a ∧ (f a).run.run s = (.ok b, s') := by
  rw [run_bind_eq_ok]
  constructor
  · rintro ⟨a, s₁, hx, hf⟩
    obtain ⟨rfl, rfl⟩ := run_orFail_eq_ok.1 hx
    exact ⟨a, rfl, hf⟩
  · rintro ⟨a, rfl, hf⟩
    exact ⟨a, s, rfl, hf⟩

/-- Refusing no faults changes nothing. -/
theorem run_refuseFaults_eq_ok {faults : List Text} :
    (refuseFaults faults : Running σ Unit).run.run s = (.ok (), s') ↔ faults = [] ∧ s' = s := by
  cases faults with
  | nil =>
    constructor
    · intro hrun
      cases hrun
      exact ⟨rfl, rfl⟩
    · rintro ⟨-, rfl⟩
      rfl
  | cons fault rest =>
    refine ⟨fun hrun => ?_, nofun⟩
    obtain ⟨_, s₁, -, hrun⟩ := run_bind_eq_ok.1 hrun
    obtain ⟨_, s₂, -, hrun⟩ := run_bind_eq_ok.1 hrun
    cases hrun

/-- A computation that writes records gives its result and adds them. -/
theorem run_keepRecords_eq_ok {x : Logged α} {a : α} :
    (keepRecords x : Running σ α).run.run s = (.ok a, s') ↔
      x.result = .ok a ∧ s' = { s with records := s.records ++ x.records } := by
  have hrun : (keepRecords x : Running σ α).run.run s =
      (orFail x.result : Running σ α).run.run { s with records := s.records ++ x.records } := rfl
  rw [hrun, run_orFail_eq_ok]

/-- An operation on the store changes the disk; the warnings it gives are recorded. -/
theorem run_withStore_eq_ok {op : Storing α} {a : α} :
    (withStore op : Running σ α).run.run s = (.ok a, s') ↔
      ∃ d, op.run.run s.disk = (.ok a, d) ∧ s' = { s with
        disk := d
        records := s.records ++
          (d.warnings.drop s.disk.warnings.length).map (⟨.warning, ·⟩) } := by
  obtain ⟨⟨result, d⟩, hop⟩ : ∃ y, op.run.run s.disk = y := ⟨_, rfl⟩
  have hrun : (withStore op : Running σ α).run.run s =
      (orFail (op.run.run s.disk).1 : Running σ α).run.run { s with
        disk := (op.run.run s.disk).2
        records := s.records ++
          ((op.run.run s.disk).2.warnings.drop s.disk.warnings.length).map (⟨.warning, ·⟩) } := rfl
  rw [hrun, hop, run_orFail_eq_ok]
  constructor
  · rintro ⟨hresult, rfl⟩
    exact ⟨d, by rw [← hresult], rfl⟩
  · rintro ⟨d', hd, rfl⟩
    cases hd
    exact ⟨rfl, rfl⟩

/-- An operation on the store that fails ends the command, and the disk is as it left it. -/
theorem run_withStore_eq_error {op : Storing α} {stop : Stop} :
    (withStore op : Running σ α).run.run s = (.error stop, s') ↔
      ∃ e d, op.run.run s.disk = (.error e, d) ∧ stop = .failed e ∧ s' = { s with
        disk := d
        records := s.records ++
          (d.warnings.drop s.disk.warnings.length).map (⟨.warning, ·⟩) } := by
  obtain ⟨⟨result, d⟩, hop⟩ : ∃ y, op.run.run s.disk = y := ⟨_, rfl⟩
  have hrun : (withStore op : Running σ α).run.run s =
      (orFail (op.run.run s.disk).1 : Running σ α).run.run { s with
        disk := (op.run.run s.disk).2
        records := s.records ++
          ((op.run.run s.disk).2.warnings.drop s.disk.warnings.length).map (⟨.warning, ·⟩) } := rfl
  rw [hrun, hop]
  cases result with
  | ok a => exact ⟨nofun, nofun⟩
  | error e =>
    constructor
    · intro h
      cases h
      exact ⟨e, d, rfl, rfl, rfl⟩
    · rintro ⟨e', d', hd, rfl, rfl⟩
      cases hd
      rfl

/-- A line is shown behind what was shown before. -/
theorem run_say (line : Text) : (say line : Running σ Unit).run.run s =
    (.ok (), { s with shown := s.shown ++ [.line line] }) := rfl

/-- Lines are shown behind what was shown before, in their order. -/
theorem run_sayEach (line : Text → Text) (ts : List Text) :
    (sayEach line ts : Running σ Unit).run.run s =
      (.ok (), { s with shown := s.shown ++ ts.map fun t => .line (line t) }) := by
  induction ts generalizing s with
  | nil =>
    rw [List.map_nil, List.append_nil]
    rfl
  | cons t ts ih =>
    rw [sayEach, run_bind_of_ok (run_say (line t)), ih]
    simp

/-- Warnings are shown once. -/
theorem run_showWarnings : ∃ lines, (showWarnings : Running σ Unit).run.run s =
    (.ok (), { s with shown := s.shown ++ lines, disk := { s.disk with warnings := [] } }) :=
  ⟨_, run_bind_of_ok (run_sayEach _ s.disk.warnings)⟩

/-- What became of a locale is shown, and that is all. -/
theorem run_showSync (locale : Text) (r : Sync.Result) : ∃ lines,
    (showSync locale r : Running σ Unit).run.run s =
      (.ok (), { s with shown := s.shown ++ lines }) := by
  unfold showSync
  split
  · exact ⟨_, rfl⟩
  · rw [run_bind_of_ok (run_say _), run_sayEach]
    simp only [List.append_assoc]
    exact ⟨_, rfl⟩

/-! ## What a command does -/

/-- What a command that gives a result does to the files and the service. -/
def Does (x : Running σ α) (s : Session σ) (a : α) (d : Disk) (v : σ) : Prop :=
  ∃ s', x.run.run s = (.ok a, s') ∧ s'.disk = d ∧ s'.service = v

variable {β : Type} {x : Running σ α} {f : α → Running σ β} {b : β} {d : Disk} {v : σ}

/-- A sequence of two does what the second one does after the first one. -/
theorem does_bind : Does (x >>= f) s b d v ↔
    ∃ a s', x.run.run s = (.ok a, s') ∧ Does (f a) s' b d v := by
  constructor
  · rintro ⟨t, hrun, hd, hv⟩
    obtain ⟨a, s', hx, hf⟩ := run_bind_eq_ok.1 hrun
    exact ⟨a, s', hx, t, hf, hd, hv⟩
  · rintro ⟨a, s', hx, t, hf, hd, hv⟩
    exact ⟨t, run_bind_eq_ok.2 ⟨a, s', hx, hf⟩, hd, hv⟩

/-- Behind a step that gave a value, a command does what is left of it. -/
theorem does_bind_of_ok {a : α} (h : x.run.run s = (.ok a, s')) :
    Does (x >>= f) s b d v ↔ Does (f a) s' b d v := by
  rw [Does, run_bind_of_ok h, Does]

/-- Loading the default locale leaves the service alone; the warnings are shown. -/
theorem does_loadSource {store : Store} {c : Config} {source : Catalog} :
    Does (loadSource store c) s source d v ↔
      ∃ file d₁, (store.load c.defaultLocale).run.run s.disk = (.ok (some file), d₁) ∧
        Catalog.ofJson file.data = .ok source ∧ d = { d₁ with warnings := [] } ∧ v = s.service := by
  unfold loadSource
  rw [does_bind]
  constructor
  · rintro ⟨found, s₁, hstore, hrest⟩
    obtain ⟨d₁, hload, rfl⟩ := run_withStore_eq_ok.1 hstore
    obtain ⟨lines, hwarn⟩ := run_showWarnings (σ := σ)
    rw [does_bind_of_ok hwarn] at hrest
    obtain ⟨s₂, hrun, rfl, rfl⟩ := hrest
    cases found with
    | none => cases hrun
    | some file =>
      obtain ⟨hsource, rfl⟩ := run_orFail_eq_ok.1 hrun
      exact ⟨file, d₁, hload, hsource, rfl, rfl⟩
  · rintro ⟨file, d₁, hload, hsource, rfl, rfl⟩
    refine ⟨some file, _, run_withStore_eq_ok.2 ⟨d₁, hload, rfl⟩, ?_⟩
    obtain ⟨lines, hwarn⟩ := run_showWarnings (σ := σ)
    rw [does_bind_of_ok hwarn]
    exact ⟨_, run_orFail_eq_ok.2 ⟨hsource, rfl⟩, rfl, rfl⟩

/-- A locale is saved unless there was nothing to ask for and it was there. -/
def isSaved (target : Option LocaleFile) (r : Sync.Result) : Bool :=
  !r.requested.isEmpty || target.isNone

/-- Showing what became of a locale changes neither files nor service. -/
theorem does_showSync {locale : Text} {r r' : Sync.Result} :
    Does (do showSync locale r; return r) s r' d v ↔ r' = r ∧ v = s.service ∧ d = s.disk := by
  obtain ⟨lines, hshow⟩ := run_showSync (s := s) locale r
  rw [does_bind_of_ok hshow]
  constructor
  · rintro ⟨t, ht, rfl, rfl⟩
    cases ht
    exact ⟨rfl, rfl, rfl⟩
  · rintro ⟨rfl, rfl, rfl⟩
    exact ⟨_, rfl, rfl, rfl⟩

/-- The last steps: a locale is saved if it has to be, and what became of it is shown. -/
theorem does_finish {saved : Bool} {op : Storing LocaleFile} {locale : Text} {r r' : Sync.Result} :
    Does (if saved then do let _ ← withStore op; showSync locale r; return r
      else do showSync locale r; return r) s r' d v ↔
    r' = r ∧ v = s.service ∧
      if saved then ∃ file, op.run.run s.disk = (.ok file, d) else d = s.disk := by
  cases saved with
  | false => exact does_showSync
  | true =>
    simp only [if_true]
    rw [does_bind]
    constructor
    · rintro ⟨file, s₁, hstore, hrest⟩
      obtain ⟨d₁, hop, rfl⟩ := run_withStore_eq_ok.1 hstore
      obtain ⟨hr, hv, rfl⟩ := does_showSync.1 hrest
      exact ⟨hr, hv, file, hop⟩
    · rintro ⟨hr, hv, file, hop⟩
      exact ⟨file, _, run_withStore_eq_ok.2 ⟨d, hop, rfl⟩, does_showSync.2 ⟨hr, hv, rfl⟩⟩

/-- What bringing a locale up to date does, step by step. -/
theorem does_translateLocale {h : Host σ} {store : Store} {service : ServiceConfig}
    {provider : Provider σ} {sl : Text} {source : Catalog} {locale : Text} {r : Sync.Result} :
    Does (translateLocale h store service provider sl source locale) s r d v ↔
      ∃ target d₁ hashes settings catalog st,
        (store.load (.str locale)).run.run s.disk = (.ok target, d₁) ∧
        Hashes.ofLocaleFile target = .ok hashes ∧
        Sync.Settings.ofJson service.batchSize service.maxConcurrency true false = .ok settings ∧
        catalogOf target = .ok catalog ∧
        (Sync.run settings provider hashes s.service none sl locale source catalog).result =
          .ok st ∧
        r = st.result ∧ v = st.service ∧
        (if isSaved target r then
          ∃ file, (store.save h.now (.str locale) (.obj r.data) st.hashes).run.run
            { d₁ with warnings := [] } = (.ok file, d)
        else d = { d₁ with warnings := [] }) := by
  unfold translateLocale
  rw [does_bind]
  constructor
  · rintro ⟨target, s₁, hstore, hrest⟩
    obtain ⟨d₁, hload, rfl⟩ := run_withStore_eq_ok.1 hstore
    obtain ⟨lines, hwarn⟩ := run_showWarnings (σ := σ)
    rw [does_bind_of_ok hwarn] at hrest
    obtain ⟨hashes, s₂, hfirst, hrest⟩ := does_bind.1 hrest
    obtain ⟨hhashes, rfl⟩ := run_orFail_eq_ok.1 hfirst
    obtain ⟨settings, s₃, hsecond, hrest⟩ := does_bind.1 hrest
    obtain ⟨hsettings, rfl⟩ := run_orFail_eq_ok.1 hsecond
    obtain ⟨catalog, s₄, hthird, hrest⟩ := does_bind.1 hrest
    obtain ⟨hcatalog, rfl⟩ := run_orFail_eq_ok.1 hthird
    rw [does_bind_of_ok (x := get) rfl] at hrest
    obtain ⟨st, s₅, hfourth, hrest⟩ := does_bind.1 hrest
    obtain ⟨hst, rfl⟩ := run_keepRecords_eq_ok.1 hfourth
    rw [does_bind_of_ok (x := modify _) rfl] at hrest
    obtain ⟨rfl, rfl, hsaved⟩ := does_finish.1 hrest
    exact ⟨target, d₁, hashes, settings, catalog, st, hload, hhashes, hsettings, hcatalog, hst,
      rfl, rfl, hsaved⟩
  · rintro ⟨target, d₁, hashes, settings, catalog, st, hload, hhashes, hsettings, hcatalog, hst,
      rfl, rfl, hsaved⟩
    refine ⟨target, _, run_withStore_eq_ok.2 ⟨d₁, hload, rfl⟩, ?_⟩
    obtain ⟨lines, hwarn⟩ := run_showWarnings (σ := σ)
    rw [does_bind_of_ok hwarn, does_bind_of_ok (run_orFail_eq_ok.2 ⟨hhashes, rfl⟩),
      does_bind_of_ok (run_orFail_eq_ok.2 ⟨hsettings, rfl⟩),
      does_bind_of_ok (run_orFail_eq_ok.2 ⟨hcatalog, rfl⟩), does_bind_of_ok (x := get) rfl,
      does_bind_of_ok (run_keepRecords_eq_ok.2 ⟨hst, rfl⟩), does_bind_of_ok (x := modify _) rfl]
    exact does_finish.2 ⟨rfl, rfl, hsaved⟩

/-! ## What is stored -/

/-- Translates the stored default locale into another one: what the command does for one locale. -/
def translateInto (h : Host σ) (store : Store) (c : Config) (service : ServiceConfig)
    (provider : Provider σ) (locale : Text) : Running σ Sync.Result := do
  let source ← loadSource store c
  translateLocale h store service provider c.defaultLocale.bare source locale

/-- The catalog of a stored locale; one that cannot be loaded has none. -/
def storedCatalog (store : Store) (files : FileTree) (locale : Json) : Catalog :=
  match ((store.load locale).run.run ⟨files, []⟩).1 with
  | .ok (some ⟨_, .obj fields, _, _, _⟩) => fields
  | _ => []

/-- Loading the default locale gives a catalog, whatever was warned of before. -/
def Sourced (store : Store) (c : Config) (files : FileTree) (source : Catalog) : Prop :=
  ∀ warnings, ∃ file warnings',
    (store.load c.defaultLocale).run.run ⟨files, warnings⟩ = (.ok (some file), ⟨files, warnings'⟩) ∧
      file.data = .obj source ∧ file.Sound

/-- What loading the default locale and another one gives, from the same files. -/
structure Stored (store : Store) (c : Config) (locale : Text) (files : FileTree) (source : Catalog)
    (target : Option LocaleFile) : Prop where
  loadSource : Sourced store c files source
  loadTarget : ∀ warnings, ∃ warnings',
    (store.load (.str locale)).run.run ⟨files, warnings⟩ = (.ok target, ⟨files, warnings'⟩)
  sound : ∀ file, target = some file → file.Sound

/-- Only a text is accepted as a locale's name, and as it is. -/
theorem localeName_eq_ok {locale : Json} {name : Text} (h : Store.localeName locale = .ok name) :
    locale = .str name := by
  unfold Store.localeName at h
  split at h
  · split at h
    · cases h
    · split at h
      · cases h
      · split at h
        · cases h
        · cases h
          rfl
  · cases h

/-- A locale can only be loaded under a name that is accepted. -/
theorem localeName_of_load {store : Store} {locale : Json} {d d' : Disk} {found : Option LocaleFile}
    (h : (store.load locale).run.run d = (.ok found, d')) :
    ∃ name, Store.localeName locale = .ok name := by
  unfold Store.load at h
  obtain ⟨name, d₁, hname, -⟩ := run_bind_eq_ok.1 h
  rw [run_liftM] at hname
  exact ⟨name, (Prod.mk.inj hname).1⟩

/-- A locale can only be saved under a name that is accepted. -/
theorem localeName_of_save {store : Store} {locale data : Json} {now : Text} {hashes : Entries Json}
    {d d' : Disk} {file : LocaleFile}
    (h : (store.save now locale data hashes).run.run d = (.ok file, d')) :
    ∃ name, Store.localeName locale = .ok name := by
  unfold Store.save at h
  obtain ⟨name, d₁, hname, -⟩ := run_bind_eq_ok.1 h
  rw [run_liftM] at hname
  exact ⟨name, (Prod.mk.inj hname).1⟩

/-- What was loaded once is loaded again from the same files, whatever was warned of, and it is
sound. -/
theorem load_again {store : Store} {locale : Json} {d d' : Disk} {found : Option LocaleFile}
    (h : (store.load locale).run.run d = (.ok found, d')) :
    d'.files = d.files ∧ (∀ file, found = some file → file.Sound) ∧
      ∀ warnings, ∃ warnings',
        (store.load locale).run.run ⟨d.files, warnings⟩ = (.ok found, ⟨d.files, warnings'⟩) := by
  obtain ⟨name, hname⟩ := localeName_of_load h
  rw [Store.run_load store hname d rfl, Prod.mk.injEq] at h
  obtain ⟨hfound, rfl⟩ := h
  refine ⟨rfl, ?_, fun warnings => ?_⟩
  · rintro file rfl
    exact Store.sound_of_loading hfound
  · rw [Store.run_load store hname ⟨d.files, warnings⟩ rfl, hfound]
    exact ⟨_, rfl⟩

/-- Only an object is taken for a catalog, and as it is. -/
theorem ofJson_eq_ok {j : Json} {catalog : Catalog} (h : Catalog.ofJson j = .ok catalog) :
    j = .obj catalog := by
  unfold Catalog.ofJson at h
  split at h
  · cases h
    rfl
  · cases h

variable {h : Host σ} {store : Store} {c : Config} {service : ServiceConfig} {provider : Provider σ}
  {locale : Text} {r : Sync.Result} {source : Catalog} {target : Option LocaleFile}

/-- The default locale that was loaded once is loaded again; the service is as it was. -/
theorem sourced_of_loadSource (hrun : Does (loadSource store c) s source d v) :
    Sourced store c s.disk.files source ∧ d.files = s.disk.files ∧ v = s.service := by
  obtain ⟨file, d₁, hload, hdata, rfl, rfl⟩ := does_loadSource.1 hrun
  obtain ⟨hfiles, hsound, hagain⟩ := load_again hload
  refine ⟨fun warnings => ?_, hfiles, rfl⟩
  obtain ⟨warnings', hload'⟩ := hagain warnings
  exact ⟨file, warnings', hload', ofJson_eq_ok hdata, hsound file rfl⟩

/-- Bringing a locale up to date loads it. -/
theorem Sourced.exists_stored (hsource : Sourced store c s.disk.files source)
    (hrun : Does (translateLocale h store service provider c.defaultLocale.bare source locale) s r d
      v) : ∃ target, Stored store c locale s.disk.files source target := by
  obtain ⟨target, d₁, -, -, -, -, hload, -⟩ := does_translateLocale.1 hrun
  obtain ⟨-, hsound, hagain⟩ := load_again hload
  exact ⟨target, hsource, hagain, hsound⟩

/-- A run that gave a result loaded both locales. -/
theorem exists_stored (hrun : Does (translateInto h store c service provider locale) s r d v) :
    ∃ source target, Stored store c locale s.disk.files source target := by
  obtain ⟨source, s₁, hsource, hrest⟩ := does_bind.1 hrun
  obtain ⟨hsourced, hfiles, -⟩ := sourced_of_loadSource ⟨s₁, hsource, rfl, rfl⟩
  rw [← hfiles] at hsourced ⊢
  exact ⟨source, hsourced.exists_stored hrest⟩

/-- What a run does, by what is stored. -/
theorem does_translateInto (hs : Stored store c locale s.disk.files source target) :
    Does (translateInto h store c service provider locale) s r d v ↔
      ∃ hashes settings catalog st,
        Hashes.ofLocaleFile target = .ok hashes ∧
        Sync.Settings.ofJson service.batchSize service.maxConcurrency true false = .ok settings ∧
        catalogOf target = .ok catalog ∧
        (Sync.run settings provider hashes s.service none c.defaultLocale.bare locale source
          catalog).result = .ok st ∧
        r = st.result ∧ v = st.service ∧
        (if isSaved target r then
          ∃ file, (store.save h.now (.str locale) (.obj r.data) st.hashes).run.run
            ⟨s.disk.files, []⟩ = (.ok file, d)
        else d = ⟨s.disk.files, []⟩) := by
  obtain ⟨file, warnings, hload, hdata, -⟩ := hs.loadSource s.disk.warnings
  obtain ⟨warnings', hloadTarget⟩ := hs.loadTarget []
  unfold translateInto
  rw [does_bind]
  constructor
  · rintro ⟨source', s₁, hsource, hrest⟩
    obtain ⟨file', d₁, hload', hdata', hdisk, hservice⟩ :=
      does_loadSource.1 ⟨s₁, hsource, rfl, rfl⟩
    cases hload.symm.trans hload'
    cases hdata.symm.trans (ofJson_eq_ok hdata')
    obtain ⟨target', d₂, hashes, settings, catalog, st, hload₂, hhashes, hsettings, hcatalog, hst,
      hr, hv, hsaved⟩ := does_translateLocale.1 hrest
    rw [hdisk] at hload₂
    cases hloadTarget.symm.trans hload₂
    rw [hservice] at hst
    exact ⟨hashes, settings, catalog, st, hhashes, hsettings, hcatalog, hst, hr, hv, hsaved⟩
  · rintro ⟨hashes, settings, catalog, st, hhashes, hsettings, hcatalog, hst, hr, hv, hsaved⟩
    have hofJson : Catalog.ofJson file.data = .ok source := by rw [hdata]; rfl
    obtain ⟨s₁, hsource, hdisk, hservice⟩ := does_loadSource.2 ⟨file, _, hload, hofJson, rfl, rfl⟩
    refine ⟨source, s₁, hsource, does_translateLocale.2 ⟨target, ⟨s.disk.files, warnings'⟩, hashes,
      settings, catalog, st, ?_, hhashes, hsettings, hcatalog, ?_, hr, hv, hsaved⟩⟩
    · rw [hdisk]
      exact hloadTarget
    · rw [hservice]
      exact hst

/-! ## What saving leaves behind -/

/-- What a locale's catalog and digests are like when they are taken up. -/
theorem Stored.taken_up {files : FileTree} (hs : Stored store c locale files source target)
    {catalog : Catalog} {hashes : Hashes} (hcatalog : catalogOf target = .ok catalog)
    (hhashes : Hashes.ofLocaleFile target = .ok hashes) :
    (catalog.Distinct ∧ Catalog.areClean catalog = true) ∧
      ((Entries.keys hashes).Nodup ∧ ∀ h ∈ hashes, h.2.isText = true) ∧
      ∀ key, Entries.get? hashes key ≠ none → key ∈ catalog.leafKeys := by
  cases target with
  | none =>
    cases hcatalog
    cases hhashes
    exact ⟨⟨trivial, rfl⟩, ⟨List.nodup_nil, nofun⟩, fun key hkey => absurd rfl hkey⟩
  | some file =>
    obtain ⟨⟨hclean, hdistinct⟩, hnodup, htexts⟩ := hs.sound file rfl
    have hdata := ofJson_eq_ok hcatalog
    rw [hdata] at hclean hdistinct
    obtain rfl : hashes = file.sourceHashes.filter fun h => catalog.leafKeys.contains h.1 := by
      rw [Hashes.ofLocaleFile, hdata] at hhashes
      exact (Except.ok.inj hhashes).symm
    refine ⟨⟨hdistinct, hclean⟩, ⟨(List.filter_sublist.map _).nodup hnodup, fun h hh => ?_⟩,
      fun key hkey => ?_⟩
    · exact htexts h (List.mem_filter.1 hh).1
    · rw [Entries.get?_filter _ (catalog.leafKeys.contains ·)] at hkey
      split at hkey
      next hmem => simpa using hmem
      next => exact absurd rfl hkey

/-- The storage folder of a store from which something was loaded is there. -/
theorem Stored.folder (hbase : store.base.Plain) {files : FileTree}
    (hs : Stored store c locale files source target) :
    ∃ es, files.find store.base.names = .ok (.folder es) := by
  obtain ⟨file, warnings, hload, -⟩ := hs.loadSource []
  obtain ⟨name, hname⟩ := localeName_of_load hload
  rw [Store.run_load store hname ⟨files, []⟩ rfl, Prod.mk.injEq] at hload
  obtain ⟨bytes, document, hfound, -⟩ := Store.exists_file_of_loading hload.1
  rw [FileTree.at?_of_plain files (hbase.child (Store.fileName_ne_dots name))] at hfound
  obtain ⟨es, hes, -⟩ := FileTree.find_of_find_child hfound
  exact ⟨es, hes⟩

/-- What is loaded for a locale depends on its entry in the storage folder. -/
theorem load_of_entry (hbase : store.base.Plain) {files files' : FileTree}
    {es es' : Entries FileTree} (h : files.find store.base.names = .ok (.folder es))
    (h' : files'.find store.base.names = .ok (.folder es')) {l : Json} {name : Text}
    (hname : Store.localeName l = .ok name)
    (hsame : Entries.get? es' (Store.fileName name) = Entries.get? es (Store.fileName name))
    {found : Option LocaleFile} {d : Disk} {warnings : List Text}
    (hload : (store.load l).run.run ⟨files, warnings⟩ = (.ok found, d)) (warnings' : List Text) :
    ∃ warnings'', (store.load l).run.run ⟨files', warnings'⟩ =
      (.ok found, ⟨files', warnings''⟩) := by
  have hdots := Store.fileName_ne_dots name
  have hat : files'.at? (store.base.child (Store.fileName name)) =
      files.at? (store.base.child (Store.fileName name)) := by
    rw [FileTree.at?_child hbase h' hdots, FileTree.at?_child hbase h hdots, FileTree.entry, hsame]
    rfl
  rw [Store.run_load store hname ⟨files, warnings⟩ rfl, Prod.mk.injEq] at hload
  rw [Store.run_load store hname ⟨files', warnings'⟩ rfl]
  dsimp only at hload ⊢
  rw [hat, hload.1]
  exact ⟨_, rfl⟩

/-- After a locale was saved, another one is loaded as before. -/
theorem load_after_save (hbase : store.base.Plain) {files : FileTree} {es : Entries FileTree}
    (hes : files.find store.base.names = .ok (.folder es)) {now : Text} {data : Json}
    {hashes : Entries Json} {file : LocaleFile} {d d' : Disk}
    (hsave : (store.save now (.str locale) data hashes).run.run ⟨files, []⟩ = (.ok file, d))
    {l : Json} (hne : l ≠ .str locale) {found : Option LocaleFile} {warnings : List Text}
    (hload : (store.load l).run.run ⟨files, warnings⟩ = (.ok found, d')) (warnings' : List Text) :
    ∃ warnings'', (store.load l).run.run ⟨d.files, warnings'⟩ =
      (.ok found, ⟨d.files, warnings''⟩) := by
  obtain ⟨saved, hsaved⟩ := localeName_of_save hsave
  obtain ⟨name, hname⟩ := localeName_of_load hload
  obtain ⟨hash, bytes, hw, hhash, hbytes⟩ :=
    Store.writable_of_save (d := ⟨files, []⟩) hbase hes hsaved hsave
  obtain ⟨t, es', hrun, hfind, hget⟩ :=
    Store.run_save (d := ⟨files, []⟩) hbase hes hsaved hw hhash hbytes
  obtain rfl : d = ⟨t, []⟩ := (Prod.mk.inj (hsave.symm.trans hrun)).2
  have hother : Store.fileName name ≠ Store.fileName saved := by
    intro heq
    rw [localeName_eq_ok hname, localeName_eq_ok hsaved, Store.fileName_injective heq] at hne
    exact hne rfl
  exact load_of_entry hbase hes hfind hname (by rw [hget, if_neg hother]) hload warnings'

/-- After a locale was saved, the default locale is loaded as before and the locale as it was saved;
and it can be saved again, at another time and with fewer digests. -/
theorem Stored.after_save (hbase : store.base.Plain) (hne : c.defaultLocale ≠ .str locale)
    {files : FileTree} (hs : Stored store c locale files source target) {now : Text}
    {data : Catalog} {hashes : Entries Json} (hdata : data.Distinct ∧ Catalog.areClean data = true)
    (hhashes : hashes.keys.Nodup ∧ ∀ h ∈ hashes, h.2.isText = true) {file : LocaleFile} {d : Disk}
    (hsave : (store.save now (.str locale) (.obj data) hashes).run.run ⟨files, []⟩ =
      (.ok file, d)) :
    d.warnings = [] ∧
    (∃ hash, Stored store c locale d.files source
      (some ⟨.str locale, .obj data, .str hash, .str now, Entries.sorted hashes⟩)) ∧
    ∀ {now' : Text} (kept : Entries Json), now'.Encodable → kept.keys.Nodup →
      (∀ h ∈ kept, h ∈ hashes) →
      ∃ file' d', (store.save now' (.str locale) (.obj data) kept).run.run ⟨d.files, []⟩ =
        (.ok file', d') := by
  obtain ⟨es, hes⟩ := hs.folder hbase
  have hname : Store.localeName (.str locale) = .ok locale := by
    obtain ⟨name, hname⟩ := localeName_of_save hsave
    rw [hname, Json.str.inj (localeName_eq_ok hname)]
  obtain ⟨hash, bytes, hw, hhash, hbytes⟩ :=
    Store.writable_of_save (d := ⟨files, []⟩) hbase hes hname hsave
  obtain ⟨t, es', hrun, hfind, hget⟩ :=
    Store.run_save (d := ⟨files, []⟩) hbase hes hname hw hhash hbytes
  obtain rfl : d = ⟨t, []⟩ := (Prod.mk.inj (hsave.symm.trans hrun)).2
  have hclean : Catalog.clean false (.obj data) = data := Catalog.cleanFields_of_areClean hdata.2
  have hstorable := Store.storable_savedFile locale now hash (.obj data) hdata.1 hhashes.1 hhashes.2
  refine ⟨rfl, ⟨hash, ⟨fun warnings => ?_, fun warnings => ?_, ?_⟩⟩, ?_⟩
  · obtain ⟨file', warnings', hload, hrest⟩ := hs.loadSource []
    obtain ⟨warnings'', hload'⟩ := load_after_save hbase hes hsave hne hload warnings
    exact ⟨file', warnings'', hload', hrest⟩
  · have hloading := Store.loading_savedFile hstorable hbytes
      (store.base.child (Store.fileName locale))
    rw [Store.savedFile, hclean] at hloading
    rw [Store.run_load store hname ⟨t, warnings⟩ rfl]
    dsimp only
    rw [FileTree.at?_child hbase hfind (Store.fileName_ne_dots locale), FileTree.entry,
      if_neg (by simp [hw.file]), hget, if_pos rfl]
    dsimp only
    rw [hloading]
    exact ⟨_, rfl⟩
  · rintro file' heq
    cases heq
    exact ⟨⟨hdata.2, hdata.1⟩, hstorable.sorted_hashes⟩
  · intro now' kept hnow hkept hsub
    have hstorable' := Store.storable_savedFile locale now' hash (.obj data) hdata.1 hkept
      fun p hp => hhashes.2 p (hsub p hp)
    obtain ⟨hlocale, htexts, hdigest, -, hkeys⟩ := (LocaleFile.textsAt_toDocument_iff _).1
      ((Store.exists_encode_documentText_iff hstorable).1 ⟨bytes, hbytes⟩)
    obtain ⟨bytes', hbytes'⟩ := (Store.exists_encode_documentText_iff hstorable').2
      ((LocaleFile.textsAt_toDocument_iff _).2 ⟨hlocale, htexts, hdigest, hnow,
        Json.textsIn_iff.2 fun p hp => Json.textsIn_iff.1 hkeys p (hsub p hp)⟩)
    have hw' : store.Writable t es' locale := by
      refine ⟨hw.file, ?_, fun below hbelow => ?_⟩
      · rw [← Store.freshName_congr hbase hes hfind fun j => ?_]
        · exact hw.scratch
        · rw [Entries.has, Entries.has, hget, if_neg (Store.scratchName_ne_fileName _ _ _)]
      · rw [hget, if_pos rfl] at hbelow
        cases hbelow
    obtain ⟨t', es'', hrun', -⟩ :=
      Store.run_save (d := ⟨t, []⟩) hbase hfind hname hw' hhash hbytes'
    exact ⟨_, _, hrun'⟩

/-! ## Translating again -/

/-- The catalogs that are stored are those that a run loads. -/
theorem Stored.storedCatalog_eq {files : FileTree}
    (hs : Stored store c locale files source target) {catalog : Catalog}
    (hcatalog : catalogOf target = .ok catalog) :
    storedCatalog store files c.defaultLocale = source ∧
      storedCatalog store files (.str locale) = catalog := by
  obtain ⟨file, warnings, hload, hdata, -⟩ := hs.loadSource []
  obtain ⟨warnings', hload'⟩ := hs.loadTarget []
  constructor
  · rw [storedCatalog, hload]
    obtain ⟨l, data, hash, lastUpdated, hashes⟩ := file
    obtain rfl : data = .obj source := hdata
    rfl
  · rw [storedCatalog, hload']
    cases target with
    | none =>
      cases hcatalog
      rfl
    | some file' =>
      obtain ⟨l, data, hash, lastUpdated, hashes⟩ := file'
      obtain rfl : data = .obj catalog := ofJson_eq_ok hcatalog
      rfl

/-- A run that finds nothing to ask for, with a locale that is there, gives the same result with
every service: it asks for nothing, and leaves the service and the files as they are. -/
theorem exists_run_of_pending_nil {h : Host σ}
    (hs : Stored store c locale s.disk.files source target) (htarget : target.isNone = false)
    {hashes : Hashes} {settings : Sync.Settings} {catalog : Catalog}
    (hhashes : Hashes.ofLocaleFile target = .ok hashes)
    (hsettings :
      Sync.Settings.ofJson service.batchSize service.maxConcurrency true false = .ok settings)
    (hcatalog : catalogOf target = .ok catalog)
    (hpending : Sync.pending settings.retranslateChanged hashes source catalog = .ok []) :
    ∃ r : Sync.Result, r.requested = [] ∧ ∀ provider : Provider σ, ∃ s',
      (translateInto h store c service provider locale).run.run s = (.ok r, s') ∧
        s'.service = s.service ∧ s'.disk.files = s.disk.files := by
  refine ⟨(Sync.start hashes s.service c.defaultLocale.bare locale catalog
    source.leaves.length).result, rfl, fun provider => ?_⟩
  obtain ⟨s', hrun, hdisk, hservice⟩ : Does (translateInto h store c service provider locale) s
      _ _ _ := (does_translateInto hs).2
    ⟨hashes, settings, catalog, _, hhashes, hsettings, hcatalog,
      by rw [Sync.run_of_pending_nil hpending], rfl, rfl,
      by rw [if_neg (by simp [isSaved, Sync.start, htarget])]⟩
  exact ⟨s', hrun, hservice, by rw [hdisk]⟩

/-- **Translating again repeats only failures.** Let a service answer every request by itself and
always in the same way, and let keys tell the paths of leaves in the stored source and target
together. If a locale was translated, whatever its file was like before, then translating it again
gives a result, and asks for exactly the keys that failed, in their order. If none failed it turns
to no service, whichever there is, and leaves all files as they are. -/
theorem translate_again {h h' : Host σ} {f : Localization.Request → Outcome} {s₀ s₁ : Session σ}
    (hf : ∀ a rs, (provider.answer a rs).outcomes = .ok (rs.map f)) (hbase : store.base.Plain)
    (hne : c.defaultLocale ≠ .str locale)
    (hkeys : Catalog.KeysTell (storedCatalog store s₀.disk.files c.defaultLocale)
      (storedCatalog store s₀.disk.files (.str locale)))
    (hnow : h'.now.Encodable)
    (hrun : (translateInto h store c service provider locale).run.run s₀ = (.ok r, s₁)) :
    ∃ r' s₂, (translateInto h' store c service provider locale).run.run s₁ = (.ok r', s₂) ∧
      r'.requested = r.failed.keys ∧
      (r.failed = [] → ∀ provider' : Provider σ, ∃ s₃,
        (translateInto h' store c service provider' locale).run.run s₁ = (.ok r', s₃) ∧
          s₃.service = s₁.service ∧ s₃.disk.files = s₁.disk.files) := by
  have hdoes : Does (translateInto h store c service provider locale) s₀ r s₁.disk s₁.service :=
    ⟨s₁, hrun, rfl, rfl⟩
  obtain ⟨source, target, hs⟩ := exists_stored hdoes
  obtain ⟨hashes, settings, catalog, st, hhashes, hsettings, hcatalog, hst, rfl, hservice,
    hsaved⟩ := (does_translateInto hs).1 hdoes
  obtain ⟨hsource, htarget⟩ := hs.storedCatalog_eq hcatalog
  rw [hsource, htarget] at hkeys
  obtain ⟨⟨hdt, hclean⟩, ⟨hnodup, htexts⟩, hhas⟩ := hs.taken_up hcatalog hhashes
  obtain ⟨file, -, -, hdata, hsound⟩ := hs.loadSource []
  have hd : source.Distinct := by
    have hdistinct := hsound.data.2
    rwa [hdata] at hdistinct
  -- What the first run selected decides what it asked for and what failed.
  obtain ⟨ps, hps, hseen⟩ := Sync.seen_of_run hf hst
  rw [Sync.settle_eq] at hseen
  obtain ⟨hresult, hrecorded⟩ := Prod.mk.inj hseen
  cases hsave : isSaved target st.result with
  | false =>
    rw [hsave, if_neg Bool.false_ne_true] at hsaved
    obtain ⟨hrequested, htarget⟩ : st.result.requested = [] ∧ target.isNone = false := by
      simpa [isSaved] using hsave
    have hnil : ps = [] := by
      rw [hresult] at hrequested
      simpa [Sync.start, Sync.answersOf] using hrequested
    have hfailed : st.result.failed = [] := by
      rw [hresult, hnil]
      rfl
    rw [hnil] at hps
    have hs₁ : Stored store c locale s₁.disk.files source target := by rwa [hsaved]
    obtain ⟨r', hnone, hall⟩ := exists_run_of_pending_nil (h := h') hs₁ htarget hhashes
      hsettings hcatalog hps
    obtain ⟨s₂, hrun₂, -⟩ := hall provider
    exact ⟨r', s₂, hrun₂, by rw [hnone, hfailed]; rfl, fun _ => hall⟩
  | true =>
    rw [hsave, if_pos rfl] at hsaved
    obtain ⟨file, hsaved⟩ := hsaved
    have hstored : (st.result.data.Distinct ∧ Catalog.areClean st.result.data = true) ∧
        (Entries.keys st.hashes).Nodup ∧ ∀ h ∈ st.hashes, h.2.isText = true := by
      rw [hresult, hrecorded]
      exact ⟨⟨Sync.distinct_writeAll hdt _, Sync.areClean_writeAll hclean _⟩,
        Sync.recordAll_texts hnodup htexts _⟩
    obtain ⟨hwarnings, ⟨hash, hs₁⟩, hagain⟩ := hs.after_save hbase hne hstored.1 hstored.2 hsaved
    have hkept : Sync.KeptWith st.result.data st.hashes
        ((Entries.sorted st.hashes).filter fun h => st.result.data.leafKeys.contains h.1) := by
      intro key
      rw [Entries.get?_filter _ (st.result.data.leafKeys.contains ·),
        Entries.get?_of_perm hstored.2.1 (Entries.perm_sorted st.hashes)]
      simp
    obtain ⟨ps₂, hpending, hfailed, hsecond⟩ :=
      Sync.run_again hf hd hdt hkeys hhas hst hkept
    by_cases hnil : ps₂ = []
    · subst hnil
      obtain ⟨r', hnone, hall⟩ := exists_run_of_pending_nil (h := h') hs₁ rfl rfl hsettings rfl
        hpending
      obtain ⟨s₂, hrun₂, -⟩ := hall provider
      exact ⟨r', s₂, hrun₂, by rw [hnone, ← hfailed]; rfl, fun _ => hall⟩
    · obtain ⟨st', hst', hrequested, hdata', hhashes'⟩ := hsecond s₁.service
      have hsome : st'.result.requested ≠ [] := by
        rw [hrequested, ← hfailed]
        exact fun hmap => hnil (List.map_eq_nil_iff.1 hmap)
      obtain ⟨file', d', hsaved'⟩ := hagain
        ((Entries.sorted st.hashes).filter fun h => st.result.data.leafKeys.contains h.1) hnow
        ((List.filter_sublist.map _).nodup
          (Entries.nodup_keys_sorted hstored.2.1))
        fun p hp => (Entries.perm_sorted st.hashes).symm.subset (List.mem_filter.1 hp).1
      obtain ⟨s₂, hrun₂, -⟩ : Does (translateInto h' store c service provider locale) s₁ _ _ _ :=
        (does_translateInto hs₁).2
        ⟨_, settings, _, st', rfl, hsettings, rfl, hst', rfl, rfl, by
          rw [if_pos (by simp [isSaved, hsome]), hdata', hhashes']
          exact ⟨file', hsaved'⟩⟩
      refine ⟨st'.result, s₂, hrun₂, hrequested, fun hnone => absurd hrequested ?_⟩
      rw [hnone]
      exact hsome

/-- A service that gives short texts back as they are and fails for the others. -/
def shortOnly : Provider Unit :=
  ⟨"short", fun s rs => ⟨.ok (rs.map fun r =>
    if r.text.length ≤ 2 then ⟨r.text, r.text, true, none⟩ else .failure r.text "too long"), [], s⟩⟩

/-- A folder with a default locale and a locale whose file is no document. -/
def brokenLocale : FileTree :=
  .folder [("locales", .folder [
    ("en.json", .file (Utf8.encodeChars (("\x7b\"data\": \x7b\"a\": \"No\", " ++
      "\"b\": \x7b\"c\": \"Yes\"\x7d\x7d\x7d").toList))),
    ("de.json", .file (Utf8.encodeChars "\x7b".toList))])]

/-- A host at some time. -/
def hostAt (now : Text) : Host Unit :=
  ⟨"translate", ⟨.root, []⟩, [], now, fun _ => .ok shortOnly, Extraction.standardParser, .unnamed⟩

/-- Translates a locale with that service. -/
def translateShort (now locale : Text) : Running Unit Sync.Result :=
  translateInto (hostAt now) ⟨⟨.root, ["locales"]⟩⟩ (.standard ⟨.root, []⟩)
    ⟨"short", .null, .null, .int 2, .int 1⟩ shortOnly locale

/-- The locale whose file is no document is translated; of its two leaves the one that failed is
asked for again. -/
theorem translate_again_brokenLocale :
    ∃ r s₁ r' s₂,
      (translateShort "2024" "de").run.run ⟨⟨brokenLocale, []⟩, [], [], [], [], ()⟩ = (.ok r, s₁) ∧
      r.requested = [Text.ofString "a", Text.ofString "b.c"] ∧
      r.failed.keys = [Text.ofString "b.c"] ∧
      (translateShort "2025" "de").run.run s₁ = (.ok r', s₂) ∧ r'.requested = r.failed.keys := by
  have hfirst : ((translateShort "2024" "de").run.run
      ⟨⟨brokenLocale, []⟩, [], [], [], [], ()⟩).1.toOption.map
        (fun r => (r.requested, r.failed.keys)) =
      some ([Text.ofString "a", Text.ofString "b.c"], [Text.ofString "b.c"]) := by
    decide +kernel
  obtain ⟨⟨result, s₁⟩, hrun⟩ : ∃ y, (translateShort "2024" "de").run.run
      ⟨⟨brokenLocale, []⟩, [], [], [], [], ()⟩ = y := ⟨_, rfl⟩
  rw [hrun] at hfirst
  obtain ⟨r, hr, hkeys⟩ := Option.map_eq_some_iff.1 hfirst
  obtain ⟨hrequests, hfailed⟩ := Prod.mk.inj hkeys
  obtain rfl : result = .ok r := eq_ok_of_toOption hr
  have hbase : (⟨.root, ["locales"]⟩ : Path).Plain := List.forall_mem_singleton.2 (by decide)
  have hnow : (hostAt "2025").now.Encodable := by decide
  obtain ⟨r', s₂, hagain, hrequested, -⟩ := translate_again (fun _ _ => rfl) hbase
    (fun h => absurd (Json.str.inj h) (by decide)) (by unfold Catalog.KeysTell; decide +kernel) hnow
    hrun
  exact ⟨r, s₁, r', s₂, hrun, hrequests, hfailed, hagain, hrequested⟩

end Localization.Command
