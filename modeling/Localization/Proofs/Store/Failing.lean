import Localization.Proofs.Store.Documents

/-!
# Saves that fail

Whatever refuses a save leaves the files as they were: before there is a new file nothing has
changed, and when the new file cannot take the place of the locale's file it is removed again, which
undoes what was done (`FileTree.remove_of_put`). There is one exception (`Strands`). A document
without a UTF-8 form is noticed when the new file is there already, and then the new file stays
behind, empty. So a save that fails leaves the files as they were unless its document is such a one
(`failed_save`).
-/

namespace Localization.Store

open FileTree
open Json (TextsAt TextsIn)

variable {s : Store} {d d' : Disk} {t t' : FileTree} {stem l content : Text} {e : Failure}

/-! ## The new file -/

/-- A free name for a new file is a scratch name. -/
theorem isScratch_freeName (stem : Text) (es : Entries FileTree) (tries n : Nat) :
    IsScratch stem (freeName stem es tries n) := by
  induction tries generalizing n with
  | zero => exact isScratch_scratchName stem n
  | succ tries ih =>
    rw [freeName]
    split
    · exact ih (n + 1)
    · exact isScratch_scratchName stem n

/-- The name that a save gives its new file is a scratch name. -/
theorem isScratch_freshName (s : Store) (stem : Text) (t : FileTree) :
    IsScratch stem (s.freshName stem t) := by
  unfold freshName
  split
  · exact isScratch_freeName stem _ _ _
  · exact isScratch_scratchName stem 0

/-- The new file beside a locale's file. -/
def newFile (s : Store) (l : Text) (t : FileTree) : Path :=
  s.base.child (s.freshName (s.base.child (fileName l)).stem t)

/-- The path of a new file is plain. -/
theorem plain_newFile (hbase : s.base.Plain) (l : Text) (t : FileTree) : (s.newFile l t).Plain :=
  hbase.child (isScratch_freshName s _ t).ne_dots

/-- A new file can only be written in the storage folder, under a name that the folder does not
have; when it is removed, the files are as they were. -/
theorem removeFile_newFile (hbase : s.base.Plain) {bytes : List UInt8}
    (h : t.writeBytes (s.newFile l t) bytes = .ok t') :
    (∃ es, t.find s.base.names = .ok (.folder es)) ∧
      t.at? (s.newFile l t) = .error .notFound ∧ t'.at? (s.newFile l t) = .ok (.file bytes) ∧
      removeFile (s.newFile l t) t' = .ok t := by
  have hplain := plain_newFile hbase l t
  have hput := put_of_writeBytes hplain h
  obtain ⟨es, hfind⟩ := find_of_put_child hput
  obtain ⟨m, hfirst, hname⟩ := exists_freshName hbase hfind (s.base.child (fileName l)).stem
  have hdots := (isScratch_freshName s (s.base.child (fileName l)).stem t).ne_dots
  have hfits := (fits_of_writeBytes hbase hfind hdots h).1
  have hnone := Option.isNone_iff_eq_none.1 (Option.isSome_eq_false_iff.1 hfirst.1)
  rw [← hname] at hnone
  have hat : t'.at? (s.newFile l t) = .ok (.file bytes) :=
    (at?_of_plain t' hplain).trans (find_put hput)
  refine ⟨⟨es, hfind⟩, ?_, hat, ?_⟩
  · rw [newFile, at?_child hbase hfind hdots, entry, hfits, hnone]
    rfl
  · rw [removeFile, hat]
    exact remove_of_put hfind (fun hmem => Entries.get?_ne_none hmem hnone) hput

/-- A new file can be written if the storage folder is there and the file's name is not too long. -/
theorem exists_writeBytes_newFile (hbase : s.base.Plain) (bytes : List UInt8) :
    (∃ t', t.writeBytes (s.newFile l t) bytes = .ok t') ↔
      (∃ es, t.find s.base.names = .ok (.folder es)) ∧ isTooLong (s.newFile l t).name = false := by
  have hdots := (isScratch_freshName s (s.base.child (fileName l)).stem t).ne_dots
  rw [newFile, name_child]
  constructor
  · rintro ⟨t', h⟩
    obtain ⟨⟨es, hfind⟩, -⟩ := removeFile_newFile hbase h
    exact ⟨⟨es, hfind⟩, (fits_of_writeBytes hbase hfind hdots h).1⟩
  · rintro ⟨⟨es, hfind⟩, hfits⟩
    obtain ⟨m, hfirst, hname⟩ := exists_freshName hbase hfind (s.base.child (fileName l)).stem
    have hnone := Option.isNone_iff_eq_none.1 (Option.isSome_eq_false_iff.1 hfirst.1)
    rw [← hname] at hnone
    obtain ⟨t', h, -⟩ := writeBytes_child hbase hfind hdots hfits (by simp [hnone]) bytes
    exact ⟨t', h⟩

/-! ## Writing -/

/-- What leaves a new file behind: it can be made, and the text that it is to hold has no UTF-8
form. -/
structure Strands (s : Store) (t : FileTree) (l content : Text) : Prop where
  named : checkName (fileName l) = .ok ()
  folder : ∃ es, t.find s.base.names = .ok (.folder es)
  fits : isTooLong (s.newFile l t).name = false
  unwritable : ¬ content.Encodable

/-- What is left behind: a new file for a locale, which is empty and without which the files are as
they were. -/
structure LeftBehind (s : Store) (l : Text) (t t' : FileTree) (path : Path) : Prop where
  scratch : ∃ name, IsScratch (s.base.child (fileName l)).stem name ∧ path = s.base.child name
  free : t.at? path = .error .notFound
  empty : t'.at? path = .ok (.file [])
  rest : removeFile path t' = .ok t

/-- The files with a new one differ from those without it. -/
theorem LeftBehind.ne {path : Path} (h : s.LeftBehind l t t' path) : t' ≠ t := by
  rintro rfl
  have hempty := h.empty
  rw [h.free] at hempty
  cases hempty

/-- A text without a UTF-8 form is refused when the new file is there, which stays. -/
theorem run_writeWhole_of_strands (hbase : s.base.Plain) (h : s.Strands d.files l content) :
    ∃ fault t', (s.writeWhole (s.base.child (fileName l)) content).run.run d =
        (.error (.encoding fault), { d with files := t' }) ∧
      s.LeftBehind l d.files t' (s.newFile l d.files) := by
  obtain ⟨t', hmake⟩ := (exists_writeBytes_newFile hbase []).2 ⟨h.folder, h.fits⟩
  obtain ⟨-, hfree, hempty, hrest⟩ := removeFile_newFile hbase hmake
  cases hencode : Utf8.encode content with
  | ok bytes => exact absurd (Text.exists_encode_iff.1 ⟨bytes, hencode⟩) h.unwritable
  | error fault =>
    refine ⟨fault, t', ?_, ⟨_, isScratch_freshName s _ _, rfl⟩, hfree, hempty, hrest⟩
    unfold writeWhole
    rw [name_child, h.named, run_bind_of_ok (run_liftM (.ok ()) d),
      run_bind_of_ok (x := files) (s := d) rfl]
    dsimp only
    rw [run_bind_of_ok (run_change_of_ok hmake), hencode]
    exact run_bind_of_error (run_liftM (Except.mapError Failure.encoding (.error fault)) _)

/-- Nothing else that refuses to write a file as a whole leaves anything changed. -/
theorem eq_of_run_writeWhole (hbase : s.base.Plain) (h : ¬ s.Strands d.files l content)
    (hrun : (s.writeWhole (s.base.child (fileName l)) content).run.run d = (.error e, d')) :
    d' = d := by
  unfold writeWhole at hrun
  rw [name_child] at hrun
  rcases run_bind_eq_error.1 hrun with hrun | ⟨⟨⟩, d₀, hnamed, hrun⟩
  · rw [run_liftM] at hrun
    exact (congrArg Prod.snd hrun).symm
  rw [run_liftM, Prod.mk.injEq] at hnamed
  obtain ⟨hnamed, rfl⟩ := hnamed
  rw [run_bind_of_ok (x := files) (s := d) rfl] at hrun
  have hpath : s.base.child (s.freshName (s.base.child (fileName l)).stem d.files) =
    s.newFile l d.files := rfl
  simp only [hpath] at hrun
  cases hmake : d.files.writeBytes (s.newFile l d.files) [] with
  | error f =>
    rw [run_bind_of_error (run_change_of_error hmake)] at hrun
    exact (congrArg Prod.snd hrun).symm
  | ok t₁ =>
    obtain ⟨hfolder, hfits⟩ := (exists_writeBytes_newFile hbase []).1 ⟨t₁, hmake⟩
    obtain ⟨bytes, hbytes⟩ : ∃ bytes, Utf8.encode content = .ok bytes := by
      by_contra hnone
      exact h ⟨hnamed, hfolder, hfits, fun henc => hnone (Text.exists_encode_iff.2 henc)⟩
    -- The new file is made and filled, so it is its place that was refused, and it is removed.
    obtain ⟨t₂, hfill⟩ := (exists_writeBytes_newFile hbase bytes).2 ⟨hfolder, hfits⟩
    obtain ⟨-, -, -, hremove⟩ := removeFile_newFile hbase hfill
    rw [← writeBytes_again (plain_newFile hbase l d.files) hmake] at hfill
    rw [run_bind_of_ok (run_change_of_ok hmake), mapError_eq_ok.2 hbytes,
      run_bind_of_ok (run_liftM (.ok bytes) _),
      run_bind_of_ok (run_change_of_ok (d := { d with files := t₁ }) hfill),
      run_bind_of_ok (x := files) (s := { d with files := t₂ }) rfl] at hrun
    split at hrun
    · cases hrun
    next f hreplace =>
      rw [run_bind_of_ok (run_change_of_ok (d := { d with files := t₂ }) hremove)] at hrun
      exact (congrArg Prod.snd hrun).symm

/-! ## Saving -/

section

variable {name now hash : Text} {locale data : Json} {hashes : Entries Json}

/-- A document whose digests of keys are texts has a UTF-8 form exactly if the locale's name, the
time and the digests with their keys have one; the catalog has one where it has a digest. -/
theorem encodable_savedFile_iff (htexts : ∀ p ∈ hashes, p.2.isText = true)
    (hhash : Catalog.digest (.obj (Catalog.clean false data)) = .ok hash) :
    Text.Encodable (documentText (savedFile name now data hash hashes)) ↔
      name.Encodable ∧ now.Encodable ∧ TextsIn Text.Encodable hashes := by
  have hclean := Catalog.areClean_clean false data
  have hcatalog : TextsAt Text.Encodable (.obj (Catalog.clean false data)) :=
    (Catalog.exists_digest_iff hclean).1 ⟨hash, hhash⟩
  have hdigest : hash.Encodable := Text.encodable_digest hhash
  have hdocument : Catalog.isCleanValue (savedFile name now data hash hashes).toDocument = true :=
    LocaleFile.isCleanValue_toDocument hclean htexts rfl rfl rfl
  rw [encodable_documentText_iff hdocument, LocaleFile.textsAt_toDocument_iff]
  simp only [savedFile, TextsAt, hcatalog, hdigest, true_and]

/-- What makes a save leave its new file behind: all goes well up to the new file, and the document
has no UTF-8 form. -/
structure SaveStrands (s : Store) (t : FileTree) (now : Text) (locale data : Json)
    (hashes : Entries Json) (name : Text) : Prop where
  accepted : localeName locale = .ok name
  strands : ∃ hash, Catalog.digest (.obj (Catalog.clean false data)) = .ok hash ∧
    s.Strands t name (documentText (savedFile name now data hash hashes))

/-- A save strands exactly when it comes to its new file and the document has no UTF-8 form. -/
theorem saveStrands_iff (htexts : ∀ p ∈ hashes, p.2.isText = true) :
    s.SaveStrands t now locale data hashes name ↔
      localeName locale = .ok name ∧ checkName (fileName name) = .ok () ∧
      (∃ es, t.find s.base.names = .ok (.folder es)) ∧ isTooLong (s.newFile name t).name = false ∧
      TextsIn Text.Encodable (Catalog.clean false data) ∧
      ¬ (name.Encodable ∧ now.Encodable ∧ TextsIn Text.Encodable hashes) := by
  have hclean := Catalog.areClean_clean false data
  constructor
  · rintro ⟨hname, hash, hhash, hnamed, hfolder, hfits, hunwritable⟩
    rw [encodable_savedFile_iff htexts hhash] at hunwritable
    exact ⟨hname, hnamed, hfolder, hfits, (Catalog.exists_digest_iff hclean).1 ⟨hash, hhash⟩,
      hunwritable⟩
  · rintro ⟨hname, hnamed, hfolder, hfits, hcatalog, hunwritable⟩
    obtain ⟨hash, hhash⟩ := Catalog.exists_digest hclean hcatalog
    rw [← encodable_savedFile_iff htexts hhash] at hunwritable
    exact ⟨hname, hash, hhash, hnamed, hfolder, hfits, hunwritable⟩

/-- Saving is writing the document, once the locale is accepted and the catalog has a digest. -/
theorem run_save_of_accepted (hname : localeName locale = .ok name)
    (hhash : Catalog.digest (.obj (Catalog.clean false data)) = .ok hash) {e : Failure} :
    (s.save now locale data hashes).run.run d = (.error e, d') ↔
      (s.writeWhole (s.base.child (fileName name))
        (documentText (savedFile name now data hash hashes))).run.run d = (.error e, d') := by
  unfold save
  rw [hname, run_bind_of_ok (run_liftM (.ok name) d)]
  dsimp only
  rw [mapError_eq_ok.2 hhash, run_bind_of_ok (run_liftM (.ok hash) d), run_bind_eq_error]
  refine or_iff_left ?_
  rintro ⟨⟨⟩, d₁, -, hreturn⟩
  cases hreturn

/-- A save that strands fails on the encoding and leaves its new file behind. -/
theorem run_save_of_strands (hbase : s.base.Plain)
    (h : s.SaveStrands d.files now locale data hashes name) :
    ∃ fault t' path, (s.save now locale data hashes).run.run d =
        (.error (.encoding fault), { d with files := t' }) ∧
      s.LeftBehind name d.files t' path := by
  obtain ⟨hname, hash, hhash, hstrands⟩ := h
  obtain ⟨fault, t', hrun, hleft⟩ := run_writeWhole_of_strands hbase hstrands
  exact ⟨fault, t', _, (run_save_of_accepted hname hhash).2 hrun, hleft⟩

/-- A save that fails without stranding leaves the disk as it was. -/
theorem eq_of_run_save (hbase : s.base.Plain)
    (h : ∀ name, ¬ s.SaveStrands d.files now locale data hashes name)
    (hrun : (s.save now locale data hashes).run.run d = (.error e, d')) : d' = d := by
  cases hname : localeName locale with
  | error f =>
    unfold save at hrun
    rw [hname, run_bind_of_error (run_liftM (.error f) d)] at hrun
    exact (congrArg Prod.snd hrun).symm
  | ok name =>
    cases hhash : Catalog.digest (.obj (Catalog.clean false data)) with
    | error f =>
      unfold save at hrun
      rw [hname, run_bind_of_ok (run_liftM (.ok name) d)] at hrun
      dsimp only at hrun
      rw [hhash, run_bind_of_error (run_liftM (Except.mapError Failure.encoding (.error f)) d)]
        at hrun
      exact (congrArg Prod.snd hrun).symm
    | ok hash =>
      rw [run_save_of_accepted hname hhash] at hrun
      exact eq_of_run_writeWhole hbase (fun hstrands => h name ⟨hname, hash, hhash, hstrands⟩) hrun

/-- **A save that fails changes nothing, unless its document has no UTF-8 form.** Where the new file
can be made and the document has no UTF-8 form, the save fails for that, and what it leaves behind
is the new file: it is empty, it stands under a name that was free and that is no locale's, and
without it the files are as they were. Every other save that fails, whatever refused it, leaves the
files and the warnings as they were. For digests of keys that are texts the documents without a
UTF-8 form are known: the catalog has one, and the locale's name, the time, or a digest or its key
has none. -/
theorem failed_save (hbase : s.base.Plain) {r : Except Failure LocaleFile}
    (hrun : (s.save now locale data hashes).run.run d = (r, d')) :
    (∀ name, s.SaveStrands d.files now locale data hashes name →
      (∃ fault, r = .error (.encoding fault)) ∧ d'.warnings = d.warnings ∧
        ∃ path, s.LeftBehind name d.files d'.files path) ∧
    ((∀ name, ¬ s.SaveStrands d.files now locale data hashes name) →
      ∀ e, r = .error e → d' = d) ∧
    ((∀ p ∈ hashes, p.2.isText = true) → ∀ name,
      (s.SaveStrands d.files now locale data hashes name ↔
        localeName locale = .ok name ∧ checkName (fileName name) = .ok () ∧
        (∃ es, d.files.find s.base.names = .ok (.folder es)) ∧
        isTooLong (s.newFile name d.files).name = false ∧
        TextsIn Text.Encodable (Catalog.clean false data) ∧
        ¬ (name.Encodable ∧ now.Encodable ∧ TextsIn Text.Encodable hashes))) := by
  refine ⟨fun name hstrands => ?_, fun hnone e he => ?_, fun htexts name => saveStrands_iff htexts⟩
  · obtain ⟨fault, t', path, hfails, hleft⟩ := run_save_of_strands hbase hstrands
    obtain ⟨rfl, rfl⟩ := Prod.mk.inj (hrun.symm.trans hfails)
    exact ⟨⟨fault, rfl⟩, rfl, path, hleft⟩
  · subst he
    exact eq_of_run_save hbase hnone hrun

end

/-- A storage folder in which a folder stands in the place of a locale's file. -/
def blockedLocale : FileTree := .folder [("locales", .folder [("de.json", .folder [])])]

/-- A digest that is half a surrogate pair. -/
def brokenHash : Entries Json := [("title", .str [.ofNat 0xD800])]

/-- The folder of the example has a plain path. -/
theorem plain_blockedLocale : (⟨.root, ["locales"]⟩ : Path).Plain := by
  intro name hname
  rw [List.mem_singleton.1 hname]
  decide

/-- A digest without a UTF-8 form strands every save of its locale. -/
theorem saveStrands_brokenHash (now : Text) :
    SaveStrands ⟨⟨.root, ["locales"]⟩⟩ blockedLocale now "en" (.obj []) brokenHash "en" := by
  have htexts : ∀ p ∈ brokenHash, p.2.isText = true := by
    intro p hp
    rw [List.mem_singleton.1 hp]
    rfl
  refine (saveStrands_iff htexts).2
    ⟨eq_ok_of_toOption (by decide), by rfl, ⟨_, rfl⟩, by decide, trivial, ?_⟩
  rintro ⟨-, -, -, hsurrogate, -⟩
  exact absurd (hsurrogate (.ofNat 0xD800) List.mem_cons_self) (by decide)

/-- A digest without a UTF-8 form leaves an empty file behind; a folder in the place of the locale's
file makes the save fail and leaves everything as it was. -/
theorem failed_save_blockedLocale :
    (∃ fault d' path, ((⟨⟨.root, ["locales"]⟩⟩ : Store).save "2024" "en" (.obj [])
        brokenHash).run.run ⟨blockedLocale, []⟩ = (.error (.encoding fault), d') ∧
      LeftBehind ⟨⟨.root, ["locales"]⟩⟩ "en" blockedLocale d'.files path) ∧
    ∃ e, ((⟨⟨.root, ["locales"]⟩⟩ : Store).save "2024" "de" (.obj []) []).run.run
      ⟨blockedLocale, []⟩ = (.error e, ⟨blockedLocale, []⟩) := by
  constructor
  · obtain ⟨⟨r, d'⟩, hrun⟩ : ∃ y, ((⟨⟨.root, ["locales"]⟩⟩ : Store).save "2024" "en" (.obj [])
      brokenHash).run.run ⟨blockedLocale, []⟩ = y := ⟨_, rfl⟩
    obtain ⟨⟨fault, rfl⟩, -, path, hleft⟩ :=
      (failed_save plain_blockedLocale hrun).1 "en" (saveStrands_brokenHash "2024")
    exact ⟨fault, d', path, hrun, hleft⟩
  · obtain ⟨⟨r, d'⟩, hrun⟩ : ∃ y, ((⟨⟨.root, ["locales"]⟩⟩ : Store).save "2024" "de" (.obj [])
      []).run.run ⟨blockedLocale, []⟩ = y := ⟨_, rfl⟩
    obtain ⟨-, hkept, hknown⟩ := failed_save plain_blockedLocale hrun
    have hname : localeName "de" = .ok "de" := eq_ok_of_toOption (by decide)
    cases r with
    | ok f =>
      -- The new file cannot take the place of a folder.
      have hfind : (⟨blockedLocale, []⟩ : Disk).files.find ["locales"] =
        .ok (.folder [("de.json", .folder [])]) := by rfl
      obtain ⟨-, -, hw, -⟩ := writable_of_save plain_blockedLocale hfind hname hrun
      exact absurd (by rfl) (hw.free [])
    | error e =>
      refine ⟨e, (hrun.trans ?_)⟩
      rw [hkept (fun name hstrands => ?_) e rfl]
      obtain ⟨haccepted, -, -, -, -, hbroken⟩ := (hknown nofun name).1 hstrands
      obtain rfl := Except.ok.inj (hname.symm.trans haccepted)
      exact hbroken ⟨by decide, by decide, trivial⟩

/-- Not every save that fails leaves the files as they were. -/
theorem failed_save_changes_files :
    ¬ ∀ (s : Store) (d d' : Disk) (now : Text) (locale data : Json) (hashes : Entries Json)
      (e : Failure), (s.save now locale data hashes).run.run d = (.error e, d') →
        d'.files = d.files := by
  intro h
  obtain ⟨fault, t', path, hrun, hleft⟩ := run_save_of_strands (d := ⟨blockedLocale, []⟩)
    plain_blockedLocale (saveStrands_brokenHash "2024")
  exact hleft.ne (h _ _ _ _ _ _ _ _ hrun)

end Localization.Store
