import Localization.Command.Stats
import Localization.Proofs.Command.MergeKeys
import Localization.Proofs.Store.Listing

/-!
# A report on what is loaded

Loading checks two fields of a document, the catalog and the digests of keys, and takes the others
as they are: the locale's name, the digest of the catalog and the time of the last change may be
anything. A report cuts the time to a day and a time of day, which only a text allows. So there is a
report exactly if all loaded locales have a text for it (`tabulate_iff`), and nothing else about the
documents can keep it from being made.
-/

namespace Localization

open Store (fieldOr)

/-! ## Fields that are not checked -/

/-- The fields that every locale has a text for, if it is one that could have been stored. -/
def LocaleFile.textFields : List Text := ["locale", "hash", "lastUpdated"]

/-- A field that a text stands in for is a text unless something else is there. -/
theorem Store.isText_fieldOr {fields : Entries Json} {key : Text} {other : Json}
    (hother : other.isText = true) :
    (fieldOr fields key other).isText = true ↔
      ∀ v, Entries.get? fields key = some v → v.isText = true := by
  unfold fieldOr
  cases Entries.get? fields key with
  | none => simp [hother]
  | some v => simp

/-- A locale that was read has its fields of the right kinds exactly if these are texts where the
document has them. -/
theorem Store.storable_of_ofDocument {name : Text} {document : Json} {f : LocaleFile}
    (hd : Catalog.DistinctAt document) (h : ofDocument name document = .ok f) :
    ∃ fields, document = .obj fields ∧
      (f.Storable ↔ ∀ key ∈ LocaleFile.textFields, ∀ v,
        Entries.get? fields key = some v → v.isText = true) := by
  have hsound := sound_of_ofDocument hd h
  obtain ⟨fields, data, rfl, -, -, -, rfl⟩ := ofDocument_eq_ok.1 h
  refine ⟨fields, rfl, ?_⟩
  simp only [LocaleFile.textFields, List.forall_mem_cons]
  constructor
  · rintro ⟨-, hlocale, hhash, hupdated⟩
    exact ⟨(isText_fieldOr rfl).1 hlocale, (isText_fieldOr rfl).1 hhash,
      (isText_fieldOr rfl).1 hupdated, nofun⟩
  · rintro ⟨hlocale, hhash, hupdated, -⟩
    exact ⟨hsound, (isText_fieldOr rfl).2 hlocale, (isText_fieldOr rfl).2 hhash,
      (isText_fieldOr rfl).2 hupdated⟩

/-- Whether a failure is that of a value of the wrong type. -/
def Failure.isOfType : Failure → Bool
  | .wrongType _ | .notShowable => true
  | _ => false

namespace Command

/-! ## Locales of a report -/

/-- Texts that were seen already are left out, and nothing else is. -/
theorem mem_foldl_distinct {t : Text} (ts seen : List Text) :
    t ∈ ts.foldl (fun seen t => if seen.contains t then seen else seen ++ [t]) seen ↔
      t ∈ seen ∨ t ∈ ts := by
  induction ts generalizing seen with
  | nil => simp
  | cons u ts ih =>
    rw [List.foldl_cons, ih]
    split
    next h =>
      rw [List.contains_iff_mem] at h
      rw [List.mem_cons]
      constructor
      · exact fun hmem => hmem.imp_right .inr
      · rintro (hseen | rfl | hts)
        · exact .inl hseen
        · exact .inl h
        · exact .inr hts
    next => simp [or_assoc]

/-- Removing what comes again keeps every text. -/
theorem mem_distinct {t : Text} {ts : List Text} : t ∈ distinct ts ↔ t ∈ ts := by
  rw [distinct, mem_foldl_distinct]
  simp

/-- Among values that are texts the same ones are seen as among the texts. -/
theorem foldl_same_texts (ls seen : List Text) :
    (ls.map Json.str).foldl (fun seen l => if seen.any (·.same l) then seen else seen ++ [l])
        (seen.map Json.str) =
      (ls.foldl (fun seen t => if seen.contains t then seen else seen ++ [t]) seen).map
        Json.str := by
  induction ls generalizing seen with
  | nil => rfl
  | cons l ls ih =>
    have hany : (seen.map Json.str).any (·.same (.str l)) = seen.contains l := by
      rw [List.any_map, List.contains_eq_any_beq]
      refine List.any_congr rfl fun a => ?_
      rw [Function.comp_apply, Json.same, Bool.beq_comm]
    rw [List.map_cons, List.foldl_cons, List.foldl_cons, hany]
    split
    · exact ih seen
    · rw [← ih, List.map_append]
      rfl

/-- Where the configured locales are texts, a report has the configured and the stored ones. -/
theorem exists_reportLocales (configured stored : List Text) :
    ∃ names : List Text, reportLocales (configured.map .str) stored = .ok (names.map .str) ∧
      ∀ l, l ∈ names ↔ l ∈ configured ∨ l ∈ stored := by
  have hhashable : (configured.map Json.str).find? (fun l => !isHashable l) = none := by
    simp [isHashable]
  have hothers : ((distinct configured).map Json.str).filter (fun l => !l.isText) = [] := by
    simp [Json.isText]
  have htexts : ((distinct configured).map Json.str).filterMap Json.text? =
      distinct configured := by
    rw [List.filterMap_map]
    exact List.filterMap_some
  refine ⟨Text.sort (distinct (distinct configured ++ stored)), ?_, fun l => ?_⟩
  · have hall := foldl_same_texts configured []
    rw [List.map_nil, ← distinct] at hall
    simp only [reportLocales, hhashable, hall, hothers, htexts]
  · rw [Text.sort, (List.mergeSort_perm _ _).mem_iff, mem_distinct, List.mem_append, mem_distinct]

/-! ## Rows -/

variable {c : Config} {default l : Text} {f : LocaleFile} {loaded : Entries LocaleFile}

/-- A clean catalog has keys. -/
theorem exists_keysOf (h : Catalog.isClean f.data = true) : ∃ keys, keysOf f = .ok keys := by
  unfold keysOf
  cases hdata : f.data with
  | obj fields => exact ⟨_, rfl⟩
  | null | bool _ | int _ | float _ | arr _ | str _ =>
    rw [hdata] at h
    cases h

/-- Only a text has a time to show. -/
theorem timeCell_cases (j : Json) : (∃ t, j = .str t ∧ timeCell j = .ok (t.take 19)) ∨
    j.isText = false ∧ ∃ e, timeCell j = .error e ∧ e.isOfType = true := by
  cases j with
  | str t => exact .inl ⟨t, rfl, rfl⟩
  | null | bool _ | int _ | float _ | arr _ | obj _ => exact .inr ⟨rfl, _, rfl, rfl⟩

/-- What a report shows for a locale that is loaded: its name, how many keys it has, how much of the
default locale's keys it covers, and the time of the last change to the second. -/
def IsRow (l : Text) (f : LocaleFile) (cells : List Text) : Prop :=
  ∃ keys covered t, keysOf f = .ok keys ∧ f.lastUpdated = .str t ∧
    cells = [l, Text.ofNumber keys.length, covered, t.take 19]

/-- A locale with a catalog has a row, unless its time is no text. -/
theorem row_cases (h : Catalog.isClean f.data = true) (l : Text) (isDefault : Bool)
    (sourceKeys : List Text) :
    (∃ cells, row l isDefault sourceKeys f = .ok cells ∧ IsRow l f cells) ∨
      f.lastUpdated.isText = false ∧
        ∃ e, row l isDefault sourceKeys f = .error e ∧ e.isOfType = true := by
  obtain ⟨keys, hkeys⟩ := exists_keysOf h
  unfold row
  rw [hkeys, ok_bind]
  rcases timeCell_cases f.lastUpdated with ⟨t, ht, htime⟩ | ⟨ht, e, htime, he⟩
  · rw [htime]
    exact .inl ⟨_, rfl, keys, _, t, hkeys, ht, rfl⟩
  · rw [htime]
    exact .inr ⟨ht, e, rfl, he⟩

/-- The keys of the default locale are known, whether it is loaded or not. -/
theorem exists_sourceKeysOf (default : Text)
    (hclean : ∀ p ∈ loaded, Catalog.isClean p.2.data = true) :
    ∃ keys, sourceKeysOf (.str default) loaded = .ok keys := by
  rw [sourceKeysOf]
  cases hget : Entries.get? loaded default with
  | none => exact ⟨[], rfl⟩
  | some f => exact exists_keysOf (hclean _ (Entries.mem_of_get? hget))

/-- Rows are made for all locales, or a time that is no text keeps them from being made. -/
theorem reportRows_cases {configured : List Text}
    (hlocales : c.locales = .arr (configured.map .str)) (hdefault : c.defaultLocale = .str default)
    (hget : ∀ p ∈ loaded, Entries.get? loaded p.1 = some p.2)
    (hclean : ∀ p ∈ loaded, Catalog.isClean p.2.data = true) :
    (∃ rows, reportRows c loaded = .ok rows ∧
      ∀ p ∈ loaded, ∃ cells ∈ rows, IsRow p.1 p.2 cells) ∨
    (∃ p ∈ loaded, p.2.lastUpdated.isText = false) ∧
      ∃ e, reportRows c loaded = .error e ∧ e.isOfType = true := by
  obtain ⟨keys, hkeys⟩ := exists_sourceKeysOf default hclean
  obtain ⟨names, hnames, hmem⟩ := exists_reportLocales configured loaded.keys
  have hrows : reportRows c loaded =
      (names.map .str).mapM (rowOf (.str default) loaded keys) := by
    rw [reportRows, hdefault, hkeys, ok_bind, hlocales, Json.members, ok_bind, hnames, ok_bind]
  rw [hrows]
  cases hmap : (names.map .str).mapM (rowOf (.str default) loaded keys) with
  | ok rows =>
    refine .inl ⟨rows, rfl, fun p hp => ?_⟩
    have hname : .str p.1 ∈ names.map Json.str :=
      List.mem_map_of_mem ((hmem p.1).2 (.inr (List.mem_map_of_mem hp)))
    obtain ⟨cells, hcells, hrow⟩ := exists_of_mem_of_mapM hmap hname
    rw [rowOf, hget p hp] at hrow
    rcases row_cases (hclean p hp) p.1 _ keys with ⟨cells', hcells', hrow'⟩ | ⟨-, e, hfail, -⟩
    · cases hcells'.symm.trans hrow
      exact ⟨cells, hcells, hrow'⟩
    · cases hfail.symm.trans hrow
  | error e =>
    obtain ⟨j, hj, hfail⟩ := exists_of_mapM_eq_error hmap
    obtain ⟨l, -, rfl⟩ := List.mem_map.1 hj
    rw [rowOf] at hfail
    cases hf : Entries.get? loaded l with
    | none =>
      rw [hf] at hfail
      cases hfail
    | some f =>
      rw [hf] at hfail
      have hp := Entries.mem_of_get? hf
      rcases row_cases (hclean _ hp) l _ keys with ⟨cells, hcells, -⟩ | ⟨htime, e', hfail', he⟩
      · cases hcells.symm.trans hfail
      · cases hfail'.symm.trans hfail
        exact .inr ⟨⟨_, hp, htime⟩, e, rfl, he⟩

/-! ## Reports -/

variable {σ : Type} {h : Host σ} {chosen : Option Text} {s s₁ s₂ : Session σ} {store : Store}
  {d : Disk}

/-- What is loaded of a storage folder comes from objects and is sound. Only the fields that are not
checked keep it from being storable. -/
theorem fields_of_mem_loadAll (hload : store.loadAll.run.run s.disk = (.ok loaded, d))
    {p : Text × LocaleFile} (hp : p ∈ loaded) :
    p.2.Sound ∧ ∃ fields, documentAt store s.disk.files p.1 = some (.obj fields) ∧
      (p.2.Storable ↔ ∀ key ∈ LocaleFile.textFields, ∀ v,
        Entries.get? fields key = some v → v.isText = true) := by
  have hloading := Store.loading_of_mem_loadAll hload hp
  obtain ⟨bytes, document, hfile, hdocument, hof⟩ := Store.exists_file_of_loading hloading
  obtain ⟨fields, rfl, hiff⟩ :=
    Store.storable_of_ofDocument (Store.distinctAt_documentOf hdocument) hof
  exact ⟨Store.sound_of_loading hloading, fields,
    documentAt_eq_some_iff.2 ⟨bytes, hfile, hdocument⟩, hiff⟩

/-- What a report does after the store was opened. -/
def tabulate (store : Store) (c : Config) : Running σ Unit := do
  let catalogs ← withStore store.loadAll
  showWarnings
  let rows ← orFail (reportRows c catalogs)
  present (.table ("Locales in " ++ store.base.toText)
    ((["Locale", "Keys", "Coverage", "Last updated"] : List String).map Text.ofString) rows)

/-- With a configuration and an open store, the report is its table. -/
theorem run_reportCoverage (hc : (loadConfig h chosen).run.run s = (.ok c, s₁))
    (hopen : (openStore c : Running σ Store).run.run s₁ = (.ok store, s₂)) :
    (reportCoverage h chosen).run.run s = (tabulate store c).run.run s₂ := by
  have hrest : reportCoverage h chosen =
      loadConfig h chosen >>= fun c => openStore c >>= fun store => tabulate store c := rfl
  rw [hrest, run_bind_of_ok hc, run_bind_of_ok hopen]

/-- A report is made once the locales are loaded: it shows the table of the rows that are made, or
fails as making them does. -/
theorem run_tabulate (hload : store.loadAll.run.run s.disk = (.ok loaded, d)) :
    (∀ rows, reportRows c loaded = .ok rows → ∃ s' before title columns,
      (tabulate store c).run.run s = (.ok (), s') ∧
        s'.shown = before ++ [.table title columns rows]) ∧
    ∀ e, reportRows c loaded = .error e → ∃ s',
      (tabulate store c).run.run s = (.error (.failed e), s') := by
  unfold tabulate
  rw [run_bind_of_ok (run_withStore_eq_ok.2 ⟨d, hload, rfl⟩)]
  obtain ⟨lines, hlines⟩ := run_showWarnings (s := { s with
    disk := d
    records := s.records ++ (d.warnings.drop s.disk.warnings.length).map (⟨.warning, ·⟩) })
  rw [run_bind_of_ok hlines]
  constructor
  · intro rows hrows
    rw [hrows]
    exact ⟨_, _, _, _, rfl, rfl⟩
  · intro e he
    rw [he]
    exact ⟨_, rfl⟩

/-- **What a report needs.** Let a configuration name its locales by texts. Whatever is loaded of
the storage folder is sound, and comes from an object. It is storable, with all its fields of their
kinds, exactly if the object has texts for the fields that are not checked, where it has them. The
report shows a row for every loaded locale exactly if the times of all of them are texts; else it
fails over a value of the wrong type. -/
theorem report_needs_times {configured : List Text}
    (hc : (loadConfig h chosen).run.run s = (.ok c, s₁))
    (hopen : (openStore c : Running σ Store).run.run s₁ = (.ok store, s₂))
    (hlocales : c.locales = .arr (configured.map .str)) (hdefault : c.defaultLocale = .str default)
    (hload : store.loadAll.run.run s₂.disk = (.ok loaded, d)) :
    (∀ p ∈ loaded, p.2.Sound ∧
      ∃ fields, documentAt store s₂.disk.files p.1 = some (.obj fields) ∧
        (p.2.Storable ↔ ∀ key ∈ LocaleFile.textFields, ∀ v,
          Entries.get? fields key = some v → v.isText = true)) ∧
    ((∀ p ∈ loaded, p.2.lastUpdated.isText = true) → ∃ s' before title columns rows,
      (reportCoverage h chosen).run.run s = (.ok (), s') ∧
        s'.shown = before ++ [.table title columns rows] ∧
        ∀ p ∈ loaded, ∃ cells ∈ rows, IsRow p.1 p.2 cells) ∧
    ((∃ p ∈ loaded, p.2.lastUpdated.isText = false) → ∃ e s',
      (reportCoverage h chosen).run.run s = (.error (.failed e), s') ∧ e.isOfType = true) := by
  have hfields := fun p (hp : p ∈ loaded) => fields_of_mem_loadAll hload hp
  obtain ⟨hdone, hfail⟩ := run_tabulate (c := c) hload
  rw [run_reportCoverage hc hopen]
  refine ⟨hfields, ?_⟩
  rcases reportRows_cases hlocales hdefault (fun _ => Store.get?_of_mem_loadAll hload)
    (fun p hp => (hfields p hp).1.data.1) with
    ⟨rows, hrows, hcells⟩ | ⟨⟨p, hp, htime⟩, e, he, hkind⟩
  · obtain ⟨s', before, title, columns, hrun, hshown⟩ := hdone rows hrows
    refine ⟨fun _ => ⟨s', before, title, columns, rows, hrun, hshown, hcells⟩, ?_⟩
    rintro ⟨p, hp, htime⟩
    obtain ⟨cells, -, keys, covered, t, -, ht, -⟩ := hcells p hp
    rw [ht] at htime
    cases htime
  · refine ⟨fun htexts => ?_, fun _ => ?_⟩
    · rw [htexts p hp] at htime
      cases htime
    · obtain ⟨s', hrun⟩ := hfail e he
      exact ⟨e, s', hrun, hkind⟩

/-- A session in a project without a configuration, with one locale. -/
def sessionWith (document : String) : Session Unit := ⟨localeWith document, [], [], [], [], ()⟩

/-- A locale with the time of its last change. -/
def timedLocale : String :=
  "\x7b\"data\": \x7b\"a\": \"A\"\x7d, \"lastUpdated\": \"2024-05-01T10:20:30.5\"\x7d"

/-- A locale with a number for the time. -/
def numberedLocale : String := "\x7b\"data\": \x7b\x7d, \"lastUpdated\": 5\x7d"

/-- Where nothing is configured, the usual storage folder is opened. -/
theorem exists_opened (document : String) : ∃ s₁ s₂,
    (loadConfig (hostAt "2024") none).run.run (sessionWith document) =
      (.ok (.standard ⟨.root, []⟩), s₁) ∧
    (openStore (.standard ⟨.root, []⟩) : Running Unit Store).run.run s₁ =
      (.ok localesStore, s₂) ∧ s₂.disk = localeWith document :=
  ⟨_, _, rfl, rfl, rfl⟩

/-- One locale is loaded, whose time is a text or is none. -/
theorem exists_loadAll (document : String) (time : Option Text)
    (h : (localesStore.loadAll.run.run (localeWith document)).1.toOption.map
      (·.map fun p => (p.1, p.2.lastUpdated.text?)) = some [(Text.ofString "en", time)]) :
    ∃ f d, localesStore.loadAll.run.run (localeWith document) =
      (.ok [(Text.ofString "en", f)], d) ∧ f.lastUpdated.text? = time := by
  obtain ⟨loaded, hloaded, htimes⟩ := Option.map_eq_some_iff.1 h
  obtain ⟨⟨l, f⟩, rfl, htime⟩ := List.map_eq_singleton_iff.1 htimes
  obtain ⟨rfl, rfl⟩ := Prod.mk.inj htime
  exact ⟨f, _, Prod.ext (eq_ok_of_toOption hloaded) rfl, rfl⟩

/-- A locale whose time is a text is reported. -/
theorem report_needs_times_timed : ∃ s' before title columns rows,
    (reportCoverage (hostAt "2024") none).run.run (sessionWith timedLocale) = (.ok (), s') ∧
      s'.shown = before ++ [.table title columns rows] ∧
      ∃ keys covered, [Text.ofString "en", Text.ofNumber keys, covered,
        Text.ofString "2024-05-01T10:20:30"] ∈ rows := by
  obtain ⟨s₁, s₂, hc, hopen, hdisk⟩ := exists_opened timedLocale
  obtain ⟨f, d, hload, htime⟩ := exists_loadAll timedLocale (some "2024-05-01T10:20:30.5")
    (by decide +kernel)
  have hupdated : f.lastUpdated = .str "2024-05-01T10:20:30.5" := by
    cases hf : f.lastUpdated with
    | str t =>
      rw [hf] at htime
      exact congrArg Json.str (Option.some.inj htime)
    | null | bool _ | int _ | float _ | arr _ | obj _ =>
      rw [hf] at htime
      cases htime
  rw [← hdisk] at hload
  have hlocales : (Config.standard ⟨.root, []⟩).locales =
      .arr ((["en"] : List Text).map .str) := rfl
  have hdefault : (Config.standard ⟨.root, []⟩).defaultLocale = .str "en" := rfl
  obtain ⟨-, hreport, -⟩ := report_needs_times hc hopen hlocales hdefault hload
  obtain ⟨s', before, title, columns, rows, hrun, hshown, hrows⟩ := hreport fun p hp => by
    rw [List.mem_singleton.1 hp, hupdated]
    rfl
  obtain ⟨cells, hcells, keys, covered, t, -, ht, rfl⟩ := hrows _ List.mem_cons_self
  cases hupdated.symm.trans ht
  exact ⟨s', before, title, columns, rows, hrun, hshown, keys.length, covered, hcells⟩

/-- What is loaded need not have its fields of their kinds, and then there need not be a report. -/
theorem report_fails_numbered : ¬ ∀ (h : Host Unit) (chosen : Option Text) (s s₁ s₂ : Session Unit)
    (c : Config) (store : Store) (configured : List Text) (default : Text)
    (loaded : Entries LocaleFile) (d : Disk), (loadConfig h chosen).run.run s = (.ok c, s₁) →
      (openStore c : Running Unit Store).run.run s₁ = (.ok store, s₂) →
      c.locales = .arr (configured.map .str) → c.defaultLocale = .str default →
      store.loadAll.run.run s₂.disk = (.ok loaded, d) →
      (∀ p ∈ loaded, p.2.Storable) ∨
        ∃ s', (reportCoverage h chosen).run.run s = (.ok (), s') := by
  intro hall
  obtain ⟨s₁, s₂, hc, hopen, hdisk⟩ := exists_opened numberedLocale
  obtain ⟨f, d, hload, htime⟩ := exists_loadAll numberedLocale none (by decide +kernel)
  have hfails : ((reportCoverage (hostAt "2024") none).run.run
      (sessionWith numberedLocale)).1.toOption = none := by
    decide +kernel
  rw [← hdisk] at hload
  rcases hall _ _ _ _ _ _ _ ["en"] "en" _ _ hc hopen rfl rfl hload with hstorable | ⟨s', hrun⟩
  · have htext := (hstorable _ List.mem_cons_self).lastUpdated
    cases hf : f.lastUpdated with
    | str t =>
      rw [hf] at htime
      cases htime
    | null | bool _ | int _ | float _ | arr _ | obj _ =>
      dsimp only at htext
      rw [hf] at htext
      cases htext
  · rw [hrun] at hfails
    cases hfails

end Command

end Localization
