import Localization.Proofs.Path
import Localization.Proofs.Store.Writing

/-!
# No locale leads out of the storage folder

The names of locales that are accepted are known without the checks that accept them (`SafeName`,
`localeName_eq_ok`). Such a name with its ending stands for itself in the text of a path, so joining
it to the storage folder, reading the text and taking double dots out of it leads to an entry of the
folder, and asking whether the folder is the parent of that path refuses nothing that was accepted
(`checkedPath_eq`). A name that is refused is refused by every operation before anything is read or
written.
-/

namespace Localization.Store

/-- What the name of a locale must be: not blank all through, without two dots in a row, and without
a slash, a backslash or a null. -/
structure SafeName (name : Text) : Prop where
  not_blank : ∃ c ∈ name, c.isBlank = false
  no_dots : ¬ [.scalar '.', .scalar '.'] <:+: name
  no_slash : .scalar '/' ∉ name
  no_backslash : .scalar '\\' ∉ name
  no_null : .scalar '\x00' ∉ name

/-! ## Which names are accepted -/

/-- Something is left of a trimmed name exactly when it has more than blanks. -/
theorem strip_isEmpty_eq_false {name : Text} :
    name.strip.isEmpty = false ↔ ∃ c ∈ name, c.isBlank = false := by
  rw [← Bool.not_eq_true, List.isEmpty_iff, Text.strip_eq_nil]
  simp

/-- A name does not lead out when it has neither a slash nor a backslash nor a null. -/
theorem leadsOut_eq_false {name : Text} : leadsOut name = false ↔
    .scalar '/' ∉ name ∧ .scalar '\\' ∉ name ∧ .scalar '\x00' ∉ name := by
  simp [leadsOut, and_assoc]

/-- A name holds no two dots when they are nowhere in it. -/
theorem holds_dots {name : Text} :
    name.holds ".." = false ↔ ¬ [.scalar '.', .scalar '.'] <:+: name := by
  rw [← Bool.not_eq_true, Text.holds_iff]
  rfl

/-- A locale is accepted under a name exactly if the name is a safe one, and refused as a breach of
the storage folder otherwise. -/
theorem localeName_cases (locale : Json) :
    (∃ name, locale = .str name ∧ SafeName name ∧ localeName locale = .ok name) ∨
      (∀ name, locale = .str name → ¬ SafeName name) ∧
        ∃ message, localeName locale = .error (.security message) := by
  cases locale with
  | str name =>
    rw [localeName]
    split
    next hblank =>
      refine .inr ⟨?_, _, rfl⟩
      rintro _ ⟨rfl⟩ hsafe
      rw [strip_isEmpty_eq_false.2 hsafe.not_blank] at hblank
      cases hblank
    next hblank =>
      split
      next hdots =>
        refine .inr ⟨?_, _, rfl⟩
        rintro _ ⟨rfl⟩ hsafe
        rw [holds_dots.2 hsafe.no_dots] at hdots
        cases hdots
      next hdots =>
        split
        next hout =>
          refine .inr ⟨?_, _, rfl⟩
          rintro _ ⟨rfl⟩ hsafe
          rw [leadsOut_eq_false.2 ⟨hsafe.no_slash, hsafe.no_backslash, hsafe.no_null⟩] at hout
          cases hout
        next hout =>
          obtain ⟨hslash, hbackslash, hnull⟩ := leadsOut_eq_false.1 (eq_false_of_ne_true hout)
          exact .inl ⟨name, rfl, ⟨strip_isEmpty_eq_false.1 (eq_false_of_ne_true hblank),
            holds_dots.1 (eq_false_of_ne_true hdots), hslash, hbackslash, hnull⟩, rfl⟩
  | null | bool _ | int _ | float _ | arr _ | obj _ => exact .inr ⟨nofun, _, rfl⟩

/-- A locale is accepted exactly when it is a text that is a safe name. -/
theorem localeName_eq_ok {locale : Json} {name : Text} :
    localeName locale = .ok name ↔ locale = .str name ∧ SafeName name := by
  rcases localeName_cases locale with ⟨m, rfl, hsafe, hok⟩ | ⟨hrefused, message, herror⟩
  · rw [hok]
    constructor
    · rintro ⟨rfl⟩
      exact ⟨rfl, hsafe⟩
    · rintro ⟨⟨rfl⟩, -⟩
      rfl
  · rw [herror]
    exact ⟨nofun, fun h => absurd h.2 (hrefused name h.1)⟩

/-! ## Where their files are -/

/-- The file of a locale, found by way of texts: the file's name is joined to the storage folder,
the text is read as a path, and double dots are taken out of it; the folder must be its parent. -/
def checkedPath (s : Store) (locale : Json) : Except Failure Path := do
  let name ← localeName locale
  let target := (Path.ofText (s.base.joined (fileName name))).normalized
  if target.parent = s.base then return target
  else .error (.security ("Invalid locale path access outside of storage directory: " ++ name))

/-- The name of a locale's file stands for itself. -/
theorem SafeName.isName_fileName {name : Text} (h : SafeName name) :
    Path.IsName (fileName name) where
  ne_nil := by simp [fileName, Text.ofString, Text.ofChars]
  ne_dot heq := by
    have hlength := congrArg List.length heq
    simp [fileName, Text.ofString, Text.ofChars] at hlength
  ne_dots := fileName_ne_dots name
  no_slash hmem := by
    rcases List.mem_append.1 hmem with hmem | hmem
    · exact h.no_slash hmem
    · exact absurd hmem (by decide)

section

variable {s : Store}

@[simp] theorem parent_child (p : Path) (name : Text) : (p.child name).parent = p := by
  simp [Path.parent, Path.child]

/-- A locale has a path exactly when it is a safe name, and the path is the file's in the folder. -/
theorem filePath_eq_ok {locale : Json} {path : Path} : s.filePath locale = .ok path ↔
    ∃ name, locale = .str name ∧ SafeName name ∧ path = s.base.child (fileName name) := by
  rw [filePath, map_eq_ok]
  constructor
  · rintro ⟨name, hname, rfl⟩
    obtain ⟨hlocale, hsafe⟩ := localeName_eq_ok.1 hname
    exact ⟨name, hlocale, hsafe, rfl⟩
  · rintro ⟨name, hlocale, hsafe, rfl⟩
    exact ⟨name, localeName_eq_ok.2 ⟨hlocale, hsafe⟩, rfl⟩

/-- The way by texts leads to the same file, and the last check never fails. -/
theorem checkedPath_eq (hbase : s.base.Normal) (locale : Json) :
    s.checkedPath locale = s.filePath locale := by
  unfold checkedPath filePath
  cases hname : localeName locale with
  | error e => rfl
  | ok name =>
    have hfile := (localeName_eq_ok.1 hname).2.isName_fileName
    have htarget : (Path.ofText (s.base.joined (fileName name))).normalized =
        s.base.child (fileName name) := by
      rw [Path.ofText_joined hbase hfile, (hbase.child hfile).normalized_eq]
    show (if _ then _ else _) = _
    rw [htarget, parent_child, if_pos rfl]
    rfl

/-! ## What is refused -/

/-- A locale whose name is refused is refused by every operation, which leaves the files and the
warnings as they are. -/
theorem run_of_refused {locale : Json} {e : Failure} (h : localeName locale = .error e) (d : Disk) :
    (∀ now data hashes, (s.save now locale data hashes).run.run d = (.error e, d)) ∧
      (s.load locale).run.run d = (.error e, d) ∧
      (∀ incoming keepExisting,
        (s.mergeWith locale incoming keepExisting).run.run d = (.error e, d)) ∧
      (s.has locale).run.run d = (.error e, d) ∧ (s.delete locale).run.run d = (.error e, d) := by
  have hname : (liftM (localeName locale) : Storing Text).run.run d = (.error e, d) := by
    rw [run_liftM, h]
  have hpath : (liftM (s.filePath locale) : Storing Path).run.run d = (.error e, d) := by
    rw [run_liftM, filePath, map_eq_error.2 h]
  have hload : (s.load locale).run.run d = (.error e, d) := run_bind_of_error hname
  exact ⟨fun _ _ _ => run_bind_of_error hname, hload, fun _ _ => run_bind_of_error hload,
    run_bind_of_error hpath, run_bind_of_error hpath⟩

/-- **No locale leads out of the storage folder.** Let the storage folder have an absolute path in
normal form. The file of a locale is found as by way of texts: by joining its name to the folder,
reading and normalizing the path, and comparing the parent. A locale that is accepted has its file
directly in the folder, under its name with the ending, and no two of them have one file. Accepted
are the safe names and nothing else. For everything else, be it a text or not, saving, loading,
merging, looking and deleting all fail with a breach of the folder, whatever the files are, and
change neither the files nor the warnings. -/
theorem filePath_confined (hbase : s.base.Normal) :
    (∀ locale, s.checkedPath locale = s.filePath locale) ∧
    (∀ name path, s.filePath (.str name) = .ok path →
      path.Normal ∧ path.parent = s.base ∧ path.name = name ++ Text.ofString ".json") ∧
    (∀ name name' path, s.filePath (.str name) = .ok path → s.filePath (.str name') = .ok path →
      name = name') ∧
    (∀ name, (∃ path, s.filePath (.str name) = .ok path) ↔ SafeName name) ∧
    (∀ locale, (∀ name, locale = .str name → ¬ SafeName name) → ∃ message,
      s.filePath locale = .error (.security message) ∧
      ∀ d : Disk,
        (∀ now data hashes,
          (s.save now locale data hashes).run.run d = (.error (.security message), d)) ∧
        (s.load locale).run.run d = (.error (.security message), d) ∧
        (∀ incoming keepExisting, (s.mergeWith locale incoming keepExisting).run.run d =
          (.error (.security message), d)) ∧
        (s.has locale).run.run d = (.error (.security message), d) ∧
        (s.delete locale).run.run d = (.error (.security message), d)) := by
  refine ⟨checkedPath_eq hbase, fun name path hpath => ?_, fun name name' path hpath hpath' => ?_,
    fun name => ⟨?_, fun hsafe => ?_⟩, fun locale hrefused => ?_⟩
  · obtain ⟨_, ⟨rfl⟩, hsafe, rfl⟩ := filePath_eq_ok.1 hpath
    exact ⟨hbase.child hsafe.isName_fileName, parent_child _ _, name_child _ _⟩
  · obtain ⟨_, ⟨rfl⟩, -, rfl⟩ := filePath_eq_ok.1 hpath
    obtain ⟨_, ⟨rfl⟩, -, hchild⟩ := filePath_eq_ok.1 hpath'
    have hfile := congrArg Path.name hchild
    rw [name_child, name_child] at hfile
    exact fileName_injective hfile
  · rintro ⟨path, hpath⟩
    obtain ⟨_, ⟨rfl⟩, hsafe, -⟩ := filePath_eq_ok.1 hpath
    exact hsafe
  · exact ⟨_, filePath_eq_ok.2 ⟨name, rfl, hsafe, rfl⟩⟩
  · rcases localeName_cases locale with ⟨name, hlocale, hsafe, -⟩ | ⟨-, message, herror⟩
    · exact absurd hsafe (hrefused name hlocale)
    · exact ⟨message, map_eq_error.2 herror, run_of_refused herror⟩

/-- A storage folder two folders below the root. -/
def nestedFolder : Store := ⟨⟨.root, ["srv", "locales"]⟩⟩

/-- The folder of the example has a normal path. -/
theorem normal_nestedFolder : nestedFolder.base.Normal where
  absolute := by decide
  names := by
    simp only [nestedFolder, List.forall_mem_cons]
    exact ⟨⟨by decide, by decide, by decide, by decide⟩,
      ⟨by decide, by decide, by decide, by decide⟩, nofun⟩

/-- A lone dot followed by a blank is a safe name: its file is `. .json` in the folder. Two dots
between letters are refused, and so is a locale without a text. -/
theorem filePath_confined_nestedFolder :
    nestedFolder.base.Normal ∧
    SafeName (Text.ofString ". ") ∧
    (∃ path, nestedFolder.filePath (.str (Text.ofString ". ")) = .ok path ∧
      path.parent = nestedFolder.base ∧ path.name = Text.ofString ". .json") ∧
    ¬ SafeName (Text.ofString "a..b") ∧
    (∃ message, ∀ d : Disk, (nestedFolder.delete (.str (Text.ofString "a..b"))).run.run d =
      (.error (.security message), d)) ∧
    ∃ message, ∀ d : Disk,
      (nestedFolder.load .null).run.run d = (.error (.security message), d) := by
  obtain ⟨-, hchild, -, haccepts, hrefuses⟩ := filePath_confined normal_nestedFolder
  have hsafe : SafeName (Text.ofString ". ") := by constructor <;> decide
  have hrefused : ¬ SafeName (Text.ofString "a..b") := fun h => absurd (by decide) h.no_dots
  obtain ⟨path, hpath⟩ := (haccepts _).2 hsafe
  obtain ⟨-, hparent, hname⟩ := hchild _ _ hpath
  obtain ⟨message, -, hfails⟩ := hrefuses (.str (Text.ofString "a..b")) <| by
    rintro _ ⟨rfl⟩
    exact hrefused
  obtain ⟨message', -, hfails'⟩ := hrefuses .null nofun
  exact ⟨normal_nestedFolder, hsafe, ⟨path, hpath, hparent, hname⟩, hrefused,
    ⟨message, fun d => (hfails d).2.2.2.2⟩, message', fun d => (hfails' d).2.1⟩

end

end Localization.Store
