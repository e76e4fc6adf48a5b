import Localization.Proofs.Command.SetUp

/-!
# Translating into several locales

A run of the command loads the default locale once and brings the other locales up to date one after
another. Saving one of them leaves the default locale as it is, so each is translated as by itself
(`run_translateInto`), from the files and with the service that the one before it left
(`translateLocales_inTurn`). For a single locale the whole command is one such step
(`translateLocales_single`), so what is proved of `translateInto` holds of the command.
-/

namespace Localization.Command

variable {σ : Type} {s s' : Session σ} {h : Host σ} {store : Store} {c : Config}
  {service : ServiceConfig} {provider : Provider σ} {source : Catalog} {locale : Text}
  {r : Sync.Result} {d : Disk} {v : σ}

/-! ## One locale -/

/-- A command gives a result from the files and the service; what else is in the session does not
matter. -/
def Gives (x : Running σ Sync.Result) (t : FileTree) (v : σ) (r : Sync.Result) (t' : FileTree)
    (v' : σ) : Prop :=
  ∀ s : Session σ, s.disk.files = t → s.service = v →
    ∃ s', x.run.run s = (.ok r, s') ∧ s'.disk.files = t' ∧ s'.service = v'

/-- Bringing a locale up to date, with the default locale loaded before, is what translating into
that locale alone gives. -/
theorem Sourced.run_translateInto (hsource : Sourced store c s.disk.files source)
    (hrun : Does (translateLocale h store service provider c.defaultLocale.bare source locale) s r d
      v) :
    Gives (translateInto h store c service provider locale) s.disk.files s.service r d.files v := by
  obtain ⟨target, hs⟩ := hsource.exists_stored hrun
  obtain ⟨target', d₁, hashes, settings, catalog, st, hload, hhashes, hsettings, hcatalog, hst, hr,
    hv, hsaved⟩ := does_translateLocale.1 hrun
  obtain ⟨warnings, hload'⟩ := hs.loadTarget s.disk.warnings
  cases hload'.symm.trans hload
  intro s₂ hfiles hservice
  rw [← hfiles] at hs hsaved
  rw [← hservice] at hst
  obtain ⟨s₃, hrun₃, rfl, rfl⟩ : Does (translateInto h store c service provider locale) s₂ r d v :=
    (does_translateInto hs).2
      ⟨hashes, settings, catalog, st, hhashes, hsettings, hcatalog, hst, hr, hv, hsaved⟩
  exact ⟨s₃, hrun₃, rfl, rfl⟩

/-- Bringing a locale up to date leaves the default locale as it is. -/
theorem Sourced.after_translateLocale (hbase : store.base.Plain)
    (hne : c.defaultLocale ≠ .str locale) (hsource : Sourced store c s.disk.files source)
    (hrun : Does (translateLocale h store service provider c.defaultLocale.bare source locale) s r d
      v) : Sourced store c d.files source := by
  obtain ⟨target, hs⟩ := hsource.exists_stored hrun
  obtain ⟨target', d₁, -, -, -, st, hload, -, -, -, -, -, -, hsaved⟩ := does_translateLocale.1 hrun
  obtain ⟨hfiles, -⟩ := load_again hload
  split at hsaved
  next =>
    obtain ⟨file, hsave⟩ := hsaved
    rw [hfiles] at hsave
    obtain ⟨es, hes⟩ := hs.folder hbase
    intro warnings
    obtain ⟨file', warnings', hload', hrest⟩ := hsource []
    obtain ⟨warnings'', hload''⟩ := load_after_save hbase hes hsave hne hload' warnings
    exact ⟨file', warnings'', hload'', hrest⟩
  next =>
    rw [hsaved]
    exact hfiles ▸ hsource

/-! ## One after another -/

/-- Locales are translated one after another, each as by itself, from the files and with the service
that the one before it left. -/
inductive InTurn (h : Host σ) (store : Store) (c : Config) (service : ServiceConfig)
    (provider : Provider σ) :
    FileTree → σ → List Text → List Sync.Result → FileTree → σ → Prop
  | done {t v} : InTurn h store c service provider t v [] [] t v
  | next {t t₁ t₂ v v₁ v₂ locale rest r rs}
      (hfirst : Gives (translateInto h store c service provider locale) t v r t₁ v₁)
      (hrest : InTurn h store c service provider t₁ v₁ rest rs t₂ v₂) :
      InTurn h store c service provider t v (locale :: rest) (r :: rs) t₂ v₂

/-- Bringing locales up to date one after another is translating into each of them in turn, and the
failures of all are counted. -/
theorem inTurn_of_translateEach (hbase : store.base.Plain) {names : List Text} {n : Nat}
    (hrun : Does (translateEach h store service provider c.defaultLocale.bare source names) s n d v)
    (hsource : Sourced store c s.disk.files source)
    (hne : ∀ locale ∈ names, c.defaultLocale ≠ .str locale) :
    ∃ rs, InTurn h store c service provider s.disk.files s.service names rs d.files v ∧
      n = (rs.flatMap fun r => r.failed).length := by
  induction names generalizing s n with
  | nil =>
    obtain ⟨s', hrun, rfl, rfl⟩ := hrun
    cases hrun
    exact ⟨[], .done, rfl⟩
  | cons locale names ih =>
    obtain ⟨hlocale, hnames⟩ := List.forall_mem_cons.1 hne
    obtain ⟨r, s₁, hfirst, hrest⟩ := does_bind.1 hrun
    obtain ⟨later, s₂, hlater, hend⟩ := does_bind.1 hrest
    have hdoes : Does (translateLocale h store service provider c.defaultLocale.bare source locale)
        s r s₁.disk s₁.service := ⟨s₁, hfirst, rfl, rfl⟩
    obtain ⟨s₃, hend, rfl, rfl⟩ := hend
    cases hend
    obtain ⟨rs, hrs, rfl⟩ :=
      ih ⟨s₂, hlater, rfl, rfl⟩ (hsource.after_translateLocale hbase hlocale hdoes) hnames
    exact ⟨r :: rs, .next (hsource.run_translateInto hdoes) hrs,
      by rw [List.flatMap_cons, List.length_append]⟩

/-! ## The command -/

/-- The locales that a command translates into: the given ones or all that are configured, without
the default one. -/
def IsTargets (c : Config) (locales : List Text) (all : Bool) (targets : List Json) : Prop :=
  if all then c.targetLocales = .ok targets
  else targets = (locales.map Json.str).filter fun l => !l.same c.defaultLocale

/-- Choosing the locales to translate into changes nothing. -/
theorem run_targetsOf {locales : List Text} {all : Bool} {targets : List Json}
    (hrun : (targetsOf c locales all).run.run s = (.ok targets, s')) :
    IsTargets c locales all targets ∧ s' = s := by
  unfold targetsOf at hrun
  unfold IsTargets
  split at hrun
  next hall =>
    rw [if_pos hall]
    exact run_orFail_eq_ok.1 hrun
  next hall =>
    rw [if_neg hall]
    split at hrun
    next =>
      obtain ⟨_, s₁, -, hrun⟩ := run_bind_eq_ok.1 hrun
      cases hrun
    next =>
      cases hrun
      exact ⟨rfl, rfl⟩

/-- The default locale is none of those to translate into. -/
theorem IsTargets.ne {locales : List Text} {all : Bool} {targets : List Json}
    (ht : IsTargets c locales all targets) (hlocale : .str locale ∈ targets) :
    c.defaultLocale ≠ .str locale := by
  have hother : (!(Json.str locale).same c.defaultLocale) = true := by
    unfold IsTargets at ht
    split at ht
    next =>
      obtain ⟨members, -, rfl⟩ := map_eq_ok.1 ht
      exact (List.mem_filter.1 hlocale).2
    next =>
      rw [ht] at hlocale
      exact (List.mem_filter.1 hlocale).2
  intro heq
  rw [heq, Json.same, beq_self_eq_true] at hother
  cases hother

/-- What is the same as a text is that text. -/
theorem eq_str_of_same {t : Text} {j : Json} (hsame : (Json.str t).same j = true) :
    j = .str t := by
  cases j with
  | str u =>
    rw [Json.same, beq_iff_eq] at hsame
    rw [hsame]
  | null | bool _ | int _ | float _ | arr _ | obj _ => simp [Json.same] at hsame

/-- A single locale is translated into unless it is the default one. -/
theorem IsTargets.single {targets : List Json} (ht : IsTargets c [locale] false targets) :
    targets = [] ∧ c.defaultLocale = .str locale ∨ targets = [.str locale] := by
  have hfilter : targets = [Json.str locale].filter fun l => !l.same c.defaultLocale := ht
  rw [hfilter, List.filter_singleton]
  cases hsame : (Json.str locale).same c.defaultLocale with
  | false => exact .inr rfl
  | true => exact .inl ⟨rfl, eq_str_of_same hsame⟩

/-- Locales with names are texts. -/
theorem localeNames_eq_ok {locales : List Json} {names : List Text}
    (hnames : localeNames locales = .ok names) : locales = names.map Json.str := by
  unfold localeNames at hnames
  generalize 0 = start at hnames
  induction locales generalizing start names with
  | nil =>
    cases hnames
    rfl
  | cons l locales ih =>
    rw [List.zipIdx_cons, List.mapM_cons] at hnames
    obtain ⟨name, hname, hnames⟩ := bind_eq_ok.1 hnames
    obtain ⟨rest, hrest, hnames⟩ := bind_eq_ok.1 hnames
    cases hnames
    rw [List.map_cons, ← ih _ hrest]
    dsimp only at hname
    split at hname
    next =>
      cases hname
      rfl
    next => cases hname

/-- What a run of the command does once its configuration is loaded: with no locale to translate
into, nothing; otherwise it opens the store and translates into each of them in turn. -/
inductive Translates (h : Host σ) (c : Config) (targets : List Json) (t : FileTree) (v : σ)
    (t' : FileTree) (v' : σ) : Prop
  | nothing (hnone : targets = []) (hfiles : t' = t) (hservice : v' = v) :
      Translates h c targets t v t' v'
  | inTurn {service : ServiceConfig} {provider : Provider σ} {base : Path} {names : List Text}
      {opened : FileTree} {rs : List Sync.Result} (hsome : targets ≠ [])
      (hservice : c.service = some service)
      (hprovider : h.service service = .ok provider) (hbase : c.outputPath = .ok base)
      (hnames : targets = names.map Json.str) (hopened : t.makeFolder base.names = .ok opened)
      (hrun : InTurn h ⟨base⟩ c service provider opened v names rs t' v') :
      Translates h c targets t v t' v'

/-- **The command translates locale by locale.** A run of the command that comes to its end loads a
configuration. Into each locale that it was told to translate, and that is not the default one, it
translates as if that were the only one, from the files and with the service that the one before it
left. -/
theorem translateLocales_inTurn {config : Option Text} {locales : List Text} {all : Bool}
    (hrun : (translateLocales h config locales all).run.run s = (.ok (), s')) :
    ∃ c s₁ targets, (loadConfig h config).run.run s = (.ok c, s₁) ∧
      IsTargets c locales all targets ∧
      Translates h c targets s₁.disk.files s₁.service s'.disk.files s'.service := by
  obtain ⟨c, s₁, hconfig, hrest⟩ := run_bind_eq_ok.1 hrun
  obtain ⟨targets, s₂, hchosen, hrest⟩ := run_bind_eq_ok.1 hrest
  obtain ⟨htargets, hsame⟩ := run_targetsOf hchosen
  rw [hsame] at hrest
  refine ⟨c, s₁, targets, hconfig, htargets, ?_⟩
  by_cases hempty : targets = []
  · subst hempty
    cases hrest
    exact .nothing rfl rfl rfl
  rw [if_neg (by simpa using hempty)] at hrest
  obtain ⟨_, s₃, hrefuse, hrest⟩ := run_bind_eq_ok.1 hrest
  obtain ⟨hfaults, hsame⟩ := run_refuseFaults_eq_ok.1 hrefuse
  rw [hsame] at hrest
  obtain ⟨store, s₄, hopen, hrest⟩ := run_bind_eq_ok.1 hrest
  obtain ⟨hbase, hopened, hkept⟩ := files_of_openStore hopen
  obtain ⟨source, s₅, hsource, hrest⟩ := run_bind_eq_ok.1 hrest
  obtain ⟨hsourced, hfiles, hservice⟩ := sourced_of_loadSource ⟨s₅, hsource, rfl, rfl⟩
  rw [← hfiles] at hsourced hopened
  rw [← hkept, ← hservice]
  cases hservice' : c.service with
  | none => simp [Config.serviceFaults, hservice'] at hfaults
  | some service =>
    rw [hservice'] at hrest
    obtain ⟨provider, hprovider, hrest⟩ := run_orFail_bind_eq_ok.1 hrest
    obtain ⟨names, hnames, hrest⟩ := run_orFail_bind_eq_ok.1 hrest
    have htexts := localeNames_eq_ok hnames
    rw [run_bind_of_ok (run_say _)] at hrest
    obtain ⟨n, s₆, heach, hend⟩ := run_bind_eq_ok.1 hrest
    cases hend
    rw [htexts] at htargets
    obtain ⟨rs, hrs, -⟩ := inTurn_of_translateEach (plain_of_outputPath hbase)
      ⟨s₆, heach, rfl, rfl⟩ hsourced fun locale hlocale => htargets.ne (List.mem_map_of_mem hlocale)
    exact .inTurn hempty hservice' hprovider hbase htexts hopened hrs

/-- For a single locale that is not the default one, a run of the command that comes to its end is a
run of `translateInto` from the files that are there when the store is open. -/
theorem translateLocales_single {config : Option Text}
    (hrun : (translateLocales h config [locale] false).run.run s = (.ok (), s')) :
    ∃ c s₁, (loadConfig h config).run.run s = (.ok c, s₁) ∧
      (c.defaultLocale = .str locale ∧ s'.disk.files = s₁.disk.files ∧ s'.service = s₁.service ∨
        ∃ service provider base opened r, c.defaultLocale ≠ .str locale ∧
          c.service = some service ∧ h.service service = .ok provider ∧ c.outputPath = .ok base ∧
          s₁.disk.files.makeFolder base.names = .ok opened ∧
          Gives (translateInto h ⟨base⟩ c service provider locale) opened s₁.service r s'.disk.files
            s'.service) := by
  obtain ⟨c, s₁, targets, hconfig, htargets, htranslates⟩ := translateLocales_inTurn hrun
  refine ⟨c, s₁, hconfig, ?_⟩
  cases htranslates with
  | nothing hnone hfiles hservice =>
    rcases htargets.single with ⟨-, hdefault⟩ | hone
    · exact .inl ⟨hdefault, hfiles, hservice⟩
    · cases hnone.symm.trans hone
  | @inTurn service provider base names opened rs hsome hservice hprovider hbase hnames hopened
      hturn =>
    have hone : targets = [.str locale] := htargets.single.resolve_left fun hnone => hsome hnone.1
    obtain rfl : names = [locale] :=
      List.map_injective_iff.2 (fun _ _ => Json.str.inj) (hnames.symm.trans hone)
    cases hturn with
    | @next _ t₁ _ _ v₁ _ _ _ r rs hfirst hrest =>
      cases hrest
      exact .inr ⟨service, provider, base, opened, r, htargets.ne (hnames ▸ List.mem_cons_self),
        hservice, hprovider, hbase, hopened, hfirst⟩

end Localization.Command
