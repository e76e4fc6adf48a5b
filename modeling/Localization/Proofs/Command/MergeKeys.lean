import Localization.Command.Session
import Localization.Proofs.Catalog.Preserving
import Localization.Proofs.Command.Translate
import Localization.Proofs.Store.Merge

/-!
# What new keys do to a stored locale

Merging new keys loads the locale, merges, and saves what came out. A text that was loaded stays
(`at?_mergedWith_of_some`), and what is saved is read back (`exists_documentAt_of_save`). But a
document that fails one of the checks counts as not there, although a file is: then the new keys
are saved in its place, and a text of the file is left only if a new key brings the same one. So
whether a text stays depends on the whole document (`mergeKeys_keeps_iff`).
-/

namespace Localization.Command

open Catalog (Mapping isForbidden valueAt)

variable {store : Store} {d d' : Disk} {name : Text} {document : Json}

/-! ## Documents in files -/

/-- The document in a locale's file, whatever it is like. -/
def documentAt (store : Store) (files : FileTree) (name : Text) : Option Json :=
  (files.readBytes (store.base.child (Store.fileName name))).toOption.bind fun bytes =>
    (Store.documentOf bytes).toOption

/-- What a document holds at a path of its catalog. -/
def dataAt (document : Json) (path : KeyPath) : Option Json :=
  valueAt document (Text.ofString "data" :: path)

/-- Whether a document can be loaded: its catalog is clean and its digests are texts. -/
def isUsable : Json → Bool
  | .obj fields => Catalog.isClean ((Entries.get? fields "data").getD .null) &&
      Store.areHashes ((Entries.get? fields "sourceHashes").getD .null)
  | _ => false

/-- The document of a locale is read from its file in the storage folder. -/
theorem documentAt_eq_some_iff {files : FileTree} :
    documentAt store files name = some document ↔
      ∃ bytes, files.at? (store.base.child (Store.fileName name)) = .ok (.file bytes) ∧
        Store.documentOf bytes = .ok document := by
  rw [documentAt, Option.bind_eq_some_iff, FileTree.readBytes]
  constructor
  · rintro ⟨bytes, hbytes, hdocument⟩
    obtain ⟨t, ht, hfile⟩ := bind_eq_ok.1 (eq_ok_of_toOption hbytes)
    cases t with
    | file content =>
      cases hfile
      exact ⟨bytes, ht, eq_ok_of_toOption hdocument⟩
    | folder es => cases hfile
  · rintro ⟨bytes, hat, hdocument⟩
    exact ⟨bytes, by rw [hat]; rfl, by rw [hdocument]; rfl⟩

/-- A document is loaded exactly if it is usable. -/
theorem isUsable_iff (name : Text) {document : Json} : isUsable document = true ↔
    ∃ file, Store.ofDocument name document = .ok file := by
  cases document with
  | null | bool _ | int _ | float _ | str _ | arr _ => simp [isUsable, Store.ofDocument]
  | obj fields =>
    rw [isUsable, Store.ofDocument]
    cases Entries.get? fields "data" with
    | none => simp [Catalog.isClean]
    | some data =>
      rw [Option.getD_some, Bool.and_eq_true]
      dsimp only
      cases Catalog.isClean data with
      | false => simp
      | true =>
        cases Store.areHashes ((Entries.get? fields "sourceHashes").getD .null) with
        | false => simp
        | true => exact ⟨fun _ => ⟨_, rfl⟩, fun _ => ⟨rfl, rfl⟩⟩

/-- What is loaded from a file with a document is what the document gives, if it gives anything. -/
theorem held_of_load (hdocument : documentAt store d.files name = some document)
    {held : Option LocaleFile} (hload : (store.load (.str name)).run.run d = (.ok held, d')) :
    held = (Store.ofDocument name document).toOption := by
  obtain ⟨bytes, hat, hbytes⟩ := documentAt_eq_some_iff.1 hdocument
  obtain ⟨name', hname⟩ := localeName_of_load hload
  cases localeName_eq_ok hname
  rw [Store.run_load store hname d rfl, Prod.mk.injEq, hat, Store.loading] at hload
  have hheld : Store.heldBy name (store.base.child (Store.fileName name)) (.file bytes) =
      Store.ofDocument name document := by
    rw [Store.heldBy, hbytes]
    rfl
  rw [hheld] at hload
  cases hof : Store.ofDocument name document with
  | ok file =>
    rw [hof] at hload
    exact (Except.ok.inj hload.1).symm
  | error fault =>
    rw [hof] at hload
    cases fault with
    | malformed f text =>
      dsimp only at hload
      split at hload
      · exact (Except.ok.inj hload.1).symm
      · cases hload.1
    | unreadable _ _ | undecodable _ | notAnObject | badData | badHashes =>
      exact (Except.ok.inj hload.1).symm

/-- The catalog of a document that is loaded is the one that the document holds. -/
theorem dataAt_eq_of_ofDocument {file : LocaleFile}
    (h : Store.ofDocument name document = .ok file) (path : KeyPath) :
    dataAt document path = valueAt file.data path := by
  obtain ⟨fields, data, rfl, hdata, -, -, rfl⟩ := Store.ofDocument_eq_ok.1 h
  rw [dataAt, Catalog.valueAt_obj_cons]
  exact congrArg (Option.bind · _) hdata

/-- A document that was made of a locale holds the locale's catalog. -/
theorem dataAt_toDocument (file : LocaleFile) (path : KeyPath) :
    dataAt file.toDocument path = valueAt file.data path := by
  obtain ⟨hashes, -, hdoc⟩ := file.toDocument_eq
  rw [dataAt, hdoc, Catalog.valueAt_obj_cons, Entries.get?, if_neg (by decide), Entries.get?,
    if_pos rfl]
  rfl

/-! ## Saving -/

/-- A catalog that was saved is held by the document in the locale's file. -/
theorem exists_documentAt_of_save (hbase : store.base.Plain) {es : Entries FileTree}
    (hfolder : d.files.find store.base.names = .ok (.folder es)) {now : Text} {data : Catalog}
    (hdata : Mapping (.obj data)) {hashes : Entries Json}
    (hhashes : hashes.keys.Nodup ∧ ∀ h ∈ hashes, h.2.isText = true) {file : LocaleFile}
    (hsave : (store.save now (.str name) (.obj data) hashes).run.run d = (.ok file, d')) :
    ∃ document, documentAt store d'.files name = some document ∧
      ∀ path, dataAt document path = data.at? path := by
  obtain ⟨name', hname⟩ := localeName_of_save hsave
  cases localeName_eq_ok hname
  obtain ⟨hash, bytes, hw, hhash, hbytes⟩ := Store.writable_of_save hbase hfolder hname hsave
  obtain ⟨t, es', hrun, hfind, hget⟩ := Store.run_save hbase hfolder hname hw hhash hbytes
  obtain rfl : d' = { d with files := t } := (Prod.mk.inj (hsave.symm.trans hrun)).2
  have hstorable := Store.storable_savedFile name now hash (.obj data) hdata.1 hhashes.1 hhashes.2
  refine ⟨_, documentAt_eq_some_iff.2 ⟨bytes, ?_, Store.documentOf_documentText hstorable hbytes⟩,
    fun path => ?_⟩
  · dsimp only
    rw [FileTree.at?_child hbase hfind (Store.fileName_ne_dots name), FileTree.entry,
      if_neg (by simp [hw.file]), hget, if_pos rfl]
  · rw [dataAt_toDocument, Store.savedFile, Catalog.clean,
      Catalog.cleanFields_of_areClean hdata.2]
    rfl

/-! ## New keys -/

/-- New keys as they come in. -/
def incomingKeys (keys : Entries Text) : Json := .obj (keys.map fun k => (k.1, .str k.2))

/-- The digests that are saved again. -/
def keptHashes : Option LocaleFile → Entries Json
  | some file => file.sourceHashes
  | none => []

/-- New keys are merged into what is loaded, and the outcome is saved. -/
theorem exists_save_of_mergeKeys {now : Text} {locale : Json} {keys : Entries Text}
    {counts : Int × Nat} (h : (mergeKeys store now locale keys).run.run d = (.ok counts, d')) :
    ∃ held d₁ warnings file, (store.load locale).run.run d = (.ok held, d₁) ∧
      (store.save now locale (.obj (Store.mergedWith (incomingKeys keys) true held))
        (keptHashes held)).run.run ⟨d.files, warnings⟩ = (.ok file, d') := by
  unfold mergeKeys at h
  obtain ⟨held, d₁, hload, h⟩ := run_bind_eq_ok.1 h
  obtain ⟨hfiles, -, hagain⟩ := load_again hload
  obtain ⟨warnings, hload'⟩ := hagain d₁.warnings
  have hsame : d₁ = ⟨d.files, d₁.warnings⟩ := by rw [← hfiles]
  rw [← hsame] at hload'
  rw [run_bind_of_ok (Store.run_mergeWith hload' _ true)] at h
  obtain ⟨file, d₂, hsave, h⟩ := run_bind_eq_ok.1 h
  obtain rfl : d₂ = d' := (Prod.mk.inj h).2
  refine ⟨held, d₁, warnings, file, hload, ?_⟩
  cases held with
  | none => exact hsave
  | some file => exact hsave

/-- Keys that come in once each are a mapping. -/
theorem mapping_incomingKeys {keys : Entries Text} (h : keys.keys.Nodup) :
    Mapping (.obj (Catalog.clean true (incomingKeys keys))) := by
  have hdistinct : Catalog.DistinctAt (incomingKeys keys) := by
    refine Catalog.distinctFields_iff.2 ⟨?_, fun f hf => ?_⟩
    · rw [Entries.keys, List.map_map]
      exact h
    · obtain ⟨k, -, rfl⟩ := List.mem_map.1 hf
      trivial
  exact ⟨Catalog.distinct_clean true hdistinct, Catalog.areClean_clean true _⟩

/-- What comes in under a name is the text of the new key, unless the name is forbidden. -/
theorem get?_incomingKeys (keys : Entries Text) {k : Text} (hk : isForbidden k = false) :
    Entries.get? (Catalog.clean true (incomingKeys keys)) k =
      (Entries.get? keys k).map .str := by
  rw [incomingKeys, Catalog.clean]
  induction keys with
  | nil =>
    rw [List.map_nil, Catalog.cleanFields]
    rfl
  | cons key keys ih =>
    rw [List.map_cons, Catalog.cleanFields, Catalog.cleanValue, Entries.get?]
    dsimp only
    by_cases heq : key.1 = k
    · rw [heq, hk, if_pos rfl, Bool.and_false, if_neg Bool.false_ne_true, Entries.get?, if_pos rfl]
      rfl
    · rw [if_neg heq]
      split
      · exact ih
      · rw [Entries.get?, if_neg heq]
        exact ih

/-- New keys hold texts at the paths of one name, and at no others. -/
theorem at?_incomingKeys_iff (keys : Entries Text) {path : KeyPath} {t : Text}
    (hpath : ∀ m ∈ path, isForbidden m = false) :
    Catalog.at? (Catalog.clean true (incomingKeys keys)) path = some (.str t) ↔
      ∃ k, path = [k] ∧ Entries.get? keys k = some t := by
  cases path with
  | nil => exact ⟨nofun, nofun⟩
  | cons k path =>
    rw [Catalog.at?_cons, get?_incomingKeys keys (hpath k List.mem_cons_self)]
    cases path with
    | nil => simp [valueAt]
    | cons next path =>
      refine ⟨fun h => ?_, by rintro ⟨k', hk, -⟩; cases hk⟩
      obtain ⟨j, hj, hat⟩ := Option.bind_eq_some_iff.1 h
      obtain ⟨s, -, rfl⟩ := Option.map_eq_some_iff.1 hj
      cases hat

/-- A text that was loaded is there after the merge. -/
theorem at?_mergedWith_of_some {file : LocaleFile} (hclean : Catalog.isClean file.data = true)
    {keys : Entries Text} (hkeys : keys.keys.Nodup) {path : KeyPath} {t : Text}
    (hpath : ∀ m ∈ path, isForbidden m = false) (hat : valueAt file.data path = some (.str t)) :
    Catalog.at? (Store.mergedWith (incomingKeys keys) true (some file)) path = some (.str t) := by
  obtain ⟨locale, data, hash, lastUpdated, hashes⟩ := file
  cases data with
  | obj existing =>
    have houtcome : Catalog.Outcome existing _ path _ :=
      Catalog.at?_merge (mapping_incomingKeys hkeys).1 hpath
    have hkept := houtcome.eq_of_some hat
    rw [Catalog.joined_of_not_isObject rfl] at hkept
    exact hkept
  | null | bool _ | int _ | float _ | str _ | arr _ => cases hclean

/-- What is saved is a mapping, with texts for digests. -/
theorem mapping_mergedWith {held : Option LocaleFile}
    (hsound : ∀ file, held = some file → file.Sound) {keys : Entries Text}
    (hkeys : keys.keys.Nodup) :
    Mapping (.obj (Store.mergedWith (incomingKeys keys) true held)) ∧
      (keptHashes held).keys.Nodup ∧ ∀ h ∈ keptHashes held, h.2.isText = true := by
  have hincoming := mapping_incomingKeys hkeys
  cases held with
  | none => exact ⟨hincoming, List.nodup_nil, nofun⟩
  | some file =>
    obtain ⟨⟨hclean, hdistinct⟩, hhashes⟩ := hsound file rfl
    refine ⟨?_, hhashes⟩
    obtain ⟨locale, data, hash, lastUpdated, hashes⟩ := file
    cases data with
    | obj existing => exact Catalog.mapping_merge ⟨hdistinct, hclean⟩ hincoming
    | null | bool _ | int _ | float _ | str _ | arr _ => cases hclean

/-- **When a stored text outlives new keys.** Let a locale's file hold a document with a text at a
path without forbidden names. After new keys were merged into the locale and saved, the file holds a
document again. It has the text at the path exactly if the first one could be loaded, with nothing
in its catalog but texts and objects and nothing in its digests but texts; or, by chance, if the
path is the name of a new key with the same text. -/
theorem mergeKeys_keeps_iff {now : Text} {keys : Entries Text} {counts : Int × Nat}
    (hbase : store.base.Plain) (hkeys : keys.keys.Nodup)
    (hdocument : documentAt store d.files name = some document) {path : KeyPath}
    (hpath : ∀ m ∈ path, isForbidden m = false) {t : Text}
    (htext : dataAt document path = some (.str t))
    (hrun : (mergeKeys store now (.str name) keys).run.run d = (.ok counts, d')) :
    ∃ document', documentAt store d'.files name = some document' ∧
      (dataAt document' path = some (.str t) ↔
        isUsable document = true ∨ ∃ k, path = [k] ∧ Entries.get? keys k = some t) := by
  obtain ⟨held, d₁, warnings, file, hload, hsave⟩ := exists_save_of_mergeKeys hrun
  obtain ⟨hdata, hhashes⟩ := mapping_mergedWith (load_again hload).2.1 hkeys
  obtain ⟨bytes, hat, -⟩ := documentAt_eq_some_iff.1 hdocument
  rw [FileTree.at?_of_plain _ (hbase.child (Store.fileName_ne_dots name))] at hat
  obtain ⟨es, hfolder, -⟩ := FileTree.find_of_find_child hat
  obtain ⟨document', hdocument', hheld'⟩ := exists_documentAt_of_save
    (d := ⟨d.files, warnings⟩) hbase hfolder hdata hhashes hsave
  refine ⟨document', hdocument', ?_⟩
  rw [hheld', isUsable_iff name]
  have hheld := held_of_load hdocument hload
  cases hof : Store.ofDocument name document with
  | ok loaded =>
    rw [hof] at hheld
    have hsound := (load_again hload).2.1 loaded hheld
    rw [dataAt_eq_of_ofDocument hof] at htext
    rw [hheld]
    exact iff_of_true (at?_mergedWith_of_some hsound.data.1 hkeys hpath htext)
      (.inl ⟨loaded, rfl⟩)
  | error fault =>
    rw [hof] at hheld
    rw [hheld]
    refine (at?_incomingKeys_iff keys hpath).trans ⟨.inr, ?_⟩
    rintro (⟨loaded, hloaded⟩ | hsame)
    · cases hloaded
    · exact hsame

/-- A store with one locale, whose document is given. -/
def localeWith (document : String) : Disk :=
  ⟨.folder [("locales", .folder [("en.json", .file (Utf8.encodeChars document.toList))])], []⟩

/-- A locale with a number beside a text. -/
def countedLocale : Disk :=
  localeWith "\x7b\"data\": \x7b\"greeting\": \"Hi\", \"count\": 3\x7d\x7d"

/-- A locale with a text of its own for a key. -/
def greetedLocale : Disk := localeWith "\x7b\"data\": \x7b\"Hello\": \"Hi\"\x7d\x7d"

/-- The store in that folder. -/
def localesStore : Store := ⟨⟨.root, ["locales"]⟩⟩

/-- One new key. -/
def helloKey : Entries Text := [("Hello", "Hello")]

/-- Merges it into the locale. -/
def mergeHello : Storing (Int × Nat) := mergeKeys localesStore "2024" (.str "en") helloKey

/-- The storage folder is reached without a step back. -/
theorem plain_localesStore : localesStore.base.Plain := List.forall_mem_singleton.2 (by decide)

/-- The one key comes in once. -/
theorem nodup_helloKey : helloKey.keys.Nodup := List.nodup_singleton _

/-- Where a text is found in a locale's data, there is a document with that text. -/
theorem exists_documentAt {files : FileTree} {path : KeyPath} {t : Text}
    (h : (documentAt store files name).bind (fun j => (dataAt j path).bind Json.text?) = some t) :
    ∃ document, documentAt store files name = some document ∧
      dataAt document path = some (.str t) := by
  obtain ⟨document, hdocument, hat⟩ := Option.bind_eq_some_iff.1 h
  obtain ⟨j, hj, ht⟩ := Option.bind_eq_some_iff.1 hat
  cases j with
  | str s =>
    cases ht
    exact ⟨document, hdocument, hj⟩
  | null | bool _ | int _ | float _ | arr _ | obj _ => cases ht

/-- A text stays when its key comes in with another one. -/
theorem mergeKeys_keeps_iff_greeted : ∃ counts d' document',
    mergeHello.run.run greetedLocale = (.ok counts, d') ∧
      documentAt localesStore d'.files "en" = some document' ∧
      dataAt document' ["Hello"] = some (.str "Hi") := by
  obtain ⟨document, hdocument, htext⟩ : ∃ document,
      documentAt localesStore greetedLocale.files "en" = some document ∧
        dataAt document ["Hello"] = some (.str "Hi") :=
    exists_documentAt (by decide +kernel)
  have husable : (documentAt localesStore greetedLocale.files "en").all isUsable = true := by
    decide +kernel
  rw [hdocument, Option.all_some] at husable
  have hok : (mergeHello.run.run greetedLocale).1.toOption.isSome = true := by decide +kernel
  obtain ⟨⟨result, d'⟩, hrun⟩ : ∃ y, mergeHello.run.run greetedLocale = y := ⟨_, rfl⟩
  rw [hrun] at hok
  obtain ⟨counts, hcounts⟩ := Option.isSome_iff_exists.1 hok
  obtain rfl : result = .ok counts := eq_ok_of_toOption hcounts
  obtain ⟨document', hdocument', hkept⟩ := mergeKeys_keeps_iff plain_localesStore
    nodup_helloKey hdocument (by decide) htext hrun
  exact ⟨counts, d', document', hrun, hdocument', hkept.2 (.inl husable)⟩

/-- One new key throws away the text beside the number. -/
theorem mergeKeys_drops_greeting :
    ¬ ∀ (store : Store) (now name : Text) (keys : Entries Text) (counts : Int × Nat) (d d' : Disk)
      (document : Json) (path : KeyPath) (t : Text), store.base.Plain → keys.keys.Nodup →
        documentAt store d.files name = some document →
        (∀ m ∈ path, isForbidden m = false) → dataAt document path = some (.str t) →
        (mergeKeys store now (.str name) keys).run.run d = (.ok counts, d') →
        ∃ document', documentAt store d'.files name = some document' ∧
          dataAt document' path = some (.str t) := by
  intro hall
  obtain ⟨document, hdocument, htext⟩ : ∃ document,
      documentAt localesStore countedLocale.files "en" = some document ∧
        dataAt document ["greeting"] = some (.str "Hi") := exists_documentAt (by decide +kernel)
  have hafter : (mergeHello.run.run countedLocale).1.toOption.isSome = true ∧
      (documentAt localesStore (mergeHello.run.run countedLocale).2.files "en").all
        (fun j => (dataAt j ["greeting"]).isNone) = true := by
    decide +kernel
  obtain ⟨⟨result, d'⟩, hrun⟩ : ∃ y, mergeHello.run.run countedLocale = y := ⟨_, rfl⟩
  rw [hrun] at hafter
  obtain ⟨counts, hcounts⟩ := Option.isSome_iff_exists.1 hafter.1
  obtain rfl : result = .ok counts := eq_ok_of_toOption hcounts
  obtain ⟨document', hdocument', htext'⟩ := hall _ _ _ _ _ _ _ _ ["greeting"] _
    plain_localesStore nodup_helloKey hdocument (by decide) htext hrun
  have hgone := hafter.2
  rw [hdocument', Option.all_some, htext'] at hgone
  cases hgone

end Localization.Command
