import Localization.Proofs.Json.Texts
import Localization.Proofs.Store.Writing
import Localization.Proofs.Text.Encodable

/-!
# Stored documents

A document that was saved is loaded as what it was made from: the reader gives back the written
fields, the shape check passes, and only the digests of keys come back in another order. What
loading gives depends on what stands at the path of the locale's file and on nothing else, and
whatever it gives is a clean catalog whose names are told apart.
-/

namespace Localization

open Json (TextsAt TextsIn)

/-! ## Texts and bytes -/

/-- Characters without a carriage return are read as they stand. -/
theorem Text.unifyBreaks_of_not_mem {cs : List Char} (h : '\r' ∉ cs) :
    Text.unifyBreaks cs = cs := by
  induction cs with
  | nil => rfl
  | cons c cs ih =>
    obtain ⟨hc, hcs⟩ := not_or.1 (mt List.mem_cons.2 h)
    rw [Text.unifyBreaks]
    · rw [ih hcs]
    · rintro t rfl
      exact fun _ => hc rfl
    · exact Ne.symm hc

/-- The texts with a UTF-8 form are those without surrogates. -/
theorem Text.exists_encode_iff {t : Text} : (∃ bytes, Utf8.encode t = .ok bytes) ↔ t.Encodable := by
  constructor
  · rintro ⟨bytes, hbytes⟩
    obtain ⟨cs, rfl, -⟩ := Utf8.encodeFrom_eq_ok hbytes
    exact encodable_ofChars cs
  · exact fun h => Utf8.exists_encodeFrom h 0

/-- The bytes of a text without carriage returns are read as that text. -/
theorem Text.ofBytes_of_encode {t : Text} {bytes : List UInt8} (h : Utf8.encode t = .ok bytes)
    (hreturn : .scalar '\r' ∉ t) : ∃ cs, t = Text.ofChars cs ∧ Text.ofBytes bytes = .ok cs := by
  obtain ⟨cs, rfl, hdecode⟩ := Utf8.decode_of_encode h
  have hcs : '\r' ∉ cs := fun hmem => hreturn (List.mem_map_of_mem hmem)
  refine ⟨cs, rfl, ?_⟩
  rw [Text.ofBytes, hdecode]
  show Except.ok (Text.unifyBreaks cs) = _
  rw [Text.unifyBreaks_of_not_mem hcs]

/-- The digest of a text is made of digits. -/
theorem Text.encodable_digest {t digest : Text} (h : t.digest = .ok digest) : digest.Encodable := by
  unfold Text.digest at h
  cases hbytes : Utf8.encode t with
  | error e =>
    rw [hbytes] at h
    cases h
  | ok bytes =>
    rw [hbytes] at h
    cases h
    intro c hc
    obtain ⟨b, -, hb⟩ := List.mem_flatMap.1 hc
    exact Text.encodable_ofChars _ c hb

/-- A clean catalog has a digest exactly if its names and texts have UTF-8 forms. -/
theorem Catalog.exists_digest_iff {catalog : Catalog} (hclean : areClean catalog = true) :
    (∃ digest, Catalog.digest (.obj catalog) = .ok digest) ↔ TextsIn Text.Encodable catalog := by
  have hcanonical : (Catalog.canonical (.obj catalog)).Encodable ↔ TextsIn Text.Encodable catalog :=
    Json.encodable_render_iff .canonical (j := .obj catalog) rfl hclean
  rw [← hcanonical, ← Text.exists_encode_iff]
  simp only [digest, Text.digest, map_eq_ok, exists_comm (α := Text), exists_and_left, exists_eq',
    and_true]

/-- A clean catalog whose names and texts have UTF-8 forms has a digest. -/
theorem Catalog.exists_digest {catalog : Catalog} (hclean : areClean catalog = true)
    (h : TextsIn Text.Encodable catalog) :
    ∃ digest, Catalog.digest (.obj catalog) = .ok digest :=
  (Catalog.exists_digest_iff hclean).2 h

/-! ## Documents -/

/-- What every stored locale has: a clean catalog whose names are told apart, and a text for every
key of the digests. -/
structure LocaleFile.Sound (f : LocaleFile) : Prop where
  data : Catalog.isClean f.data = true ∧ Catalog.DistinctAt f.data
  hashes : f.sourceHashes.keys.Nodup ∧ ∀ h ∈ f.sourceHashes, h.2.isText = true

/-- What can be stored and read back: the other fields are texts, too. -/
structure LocaleFile.Storable (f : LocaleFile) : Prop extends f.Sound where
  locale : f.locale.isText = true
  hash : f.hash.isText = true
  lastUpdated : f.lastUpdated.isText = true

/-- A text is a clean value. -/
theorem Json.isCleanValue_of_isText {j : Json} (h : j.isText = true) :
    Catalog.isCleanValue j = true := by
  cases j with
  | str t => rfl
  | null | bool _ | int _ | float _ | arr _ | obj _ => cases h

/-- A text has no names that could repeat. -/
theorem Json.distinctAt_of_isText {j : Json} (h : j.isText = true) : Catalog.DistinctAt j := by
  cases j with
  | str t => trivial
  | null | bool _ | int _ | float _ | arr _ | obj _ => cases h

/-- A clean catalog's value is a clean one. -/
theorem Catalog.isCleanValue_of_isClean {j : Json} (h : isClean j = true) :
    isCleanValue j = true := by
  cases j with
  | obj fields => exact h
  | null | bool _ | int _ | float _ | arr _ | str _ => cases h

namespace LocaleFile

variable {f : LocaleFile}

/-- The fields of a document, those that are always there and the digests where there are any. -/
theorem toDocument_eq (f : LocaleFile) : ∃ hashes : List (Text × Json),
    (f.sourceHashes = [] ∧ hashes = [] ∨
      hashes = [(Text.ofString "sourceHashes", .obj (Entries.sorted f.sourceHashes))]) ∧
    f.toDocument = .obj ((Text.ofString "locale", f.locale) :: (Text.ofString "data", f.data) ::
      (Text.ofString "hash", f.hash) :: (Text.ofString "lastUpdated", f.lastUpdated) ::
      hashes) := by
  by_cases hempty : f.sourceHashes.isEmpty = true
  · exact ⟨[], .inl ⟨List.isEmpty_iff.1 hempty, rfl⟩, by rw [toDocument, if_pos hempty]⟩
  · exact ⟨_, .inr rfl, by rw [toDocument, if_neg hempty]; rfl⟩

/-- The digests that are written are texts under different keys. -/
theorem Storable.sorted_hashes (h : f.Storable) : (Entries.sorted f.sourceHashes).keys.Nodup ∧
    ∀ p ∈ Entries.sorted f.sourceHashes, p.2.isText = true := by
  have hperm := Entries.perm_sorted f.sourceHashes
  exact ⟨Entries.nodup_keys_sorted h.hashes.1, fun p hp => h.hashes.2 p (hperm.symm.subset hp)⟩

/-- A document is made of objects and texts if the locale is. -/
theorem isCleanValue_toDocument (hdata : Catalog.isClean f.data = true)
    (hhashes : ∀ p ∈ f.sourceHashes, p.2.isText = true) (hlocale : f.locale.isText = true)
    (hhash : f.hash.isText = true) (hupdated : f.lastUpdated.isText = true) :
    Catalog.isCleanValue f.toDocument = true := by
  have hsorted : Catalog.areClean (Entries.sorted f.sourceHashes) = true :=
    Catalog.areClean_iff.2 fun p hp => Json.isCleanValue_of_isText
      (hhashes p ((Entries.perm_sorted f.sourceHashes).symm.subset hp))
  obtain ⟨hashes, hcases, hdoc⟩ := toDocument_eq f
  rw [hdoc]
  refine Catalog.areClean_iff.2 ?_
  simp only [List.forall_mem_cons]
  refine ⟨Json.isCleanValue_of_isText hlocale, Catalog.isCleanValue_of_isClean hdata,
    Json.isCleanValue_of_isText hhash, Json.isCleanValue_of_isText hupdated, ?_⟩
  rcases hcases with ⟨-, rfl⟩ | rfl
  · exact nofun
  · exact fun p hp => List.mem_singleton.1 hp ▸ hsorted

/-- The document of a storable file is clean. -/
theorem Storable.isCleanValue_toDocument (h : f.Storable) :
    Catalog.isCleanValue f.toDocument = true :=
  LocaleFile.isCleanValue_toDocument h.data.1 h.hashes.2 h.locale h.hash h.lastUpdated

/-- No name repeats in the document of a storable file. -/
theorem Storable.distinctAt_toDocument (h : f.Storable) : Catalog.DistinctAt f.toDocument := by
  have hsorted : Catalog.DistinctFields (Entries.sorted f.sourceHashes) :=
    Catalog.distinctFields_iff.2 ⟨h.sorted_hashes.1,
      fun p hp => Json.distinctAt_of_isText (h.sorted_hashes.2 p hp)⟩
  obtain ⟨hashes, hcases, hdoc⟩ := toDocument_eq f
  rw [hdoc]
  have hlocale := Json.distinctAt_of_isText h.locale
  have hhash := Json.distinctAt_of_isText h.hash
  have hupdated := Json.distinctAt_of_isText h.lastUpdated
  rcases hcases with ⟨-, rfl⟩ | rfl
  · exact ⟨by simp only [List.map]; decide, hlocale, by simp only [List.map]; decide, h.data.2,
      by simp only [List.map]; decide, hhash, by simp only [List.map]; decide, hupdated, trivial⟩
  · exact ⟨by simp only [List.map]; decide, hlocale, by simp only [List.map]; decide, h.data.2,
      by simp only [List.map]; decide, hhash, by simp only [List.map]; decide, hupdated,
      by simp only [List.map]; decide, hsorted, trivial⟩

/-- A document has a UTF-8 form if all that is in it has one, and only then. -/
theorem textsAt_toDocument_iff (f : LocaleFile) : TextsAt Text.Encodable f.toDocument ↔
    TextsAt Text.Encodable f.locale ∧ TextsAt Text.Encodable f.data ∧
      TextsAt Text.Encodable f.hash ∧ TextsAt Text.Encodable f.lastUpdated ∧
      TextsIn Text.Encodable f.sourceHashes := by
  have hsorted : TextsIn Text.Encodable (Entries.sorted f.sourceHashes) ↔
      TextsIn Text.Encodable f.sourceHashes := by
    have hperm := Entries.perm_sorted f.sourceHashes
    rw [Json.textsIn_iff, Json.textsIn_iff]
    exact ⟨fun h p hp => h p (hperm.subset hp), fun h p hp => h p (hperm.symm.subset hp)⟩
  have hnames : ∀ name ∈ [Text.ofString "locale", Text.ofString "data", Text.ofString "hash",
      Text.ofString "lastUpdated", Text.ofString "sourceHashes"], name.Encodable := by decide
  simp only [List.forall_mem_cons] at hnames
  obtain ⟨hlocale, hdata, hhash, hupdated, hhashes, -⟩ := hnames
  obtain ⟨hashes, hcases, hdoc⟩ := toDocument_eq f
  rw [hdoc]
  rcases hcases with ⟨hempty, rfl⟩ | rfl
  · simp only [TextsAt, TextsIn, hempty, hlocale, hdata, hhash, hupdated, true_and]
  · simp only [TextsAt, TextsIn, hlocale, hdata, hhash, hupdated, hhashes, hsorted, true_and,
      and_true]

end LocaleFile

namespace Store

variable {f : LocaleFile} {s : Store} {d : Disk} {es : Entries FileTree} {locale : Json}
  {name : Text}

/-! ## Reading documents -/

/-- An object of texts is one of digests. -/
theorem areHashes_of_texts {hashes : Entries Json} (h : ∀ p ∈ hashes, p.2.isText = true) :
    areHashes (.obj hashes) = true := by
  rw [areHashes, List.all_eq_true.2 h, Bool.or_true]

/-- Digests that pass the check are texts by keys. -/
theorem isText_of_areHashes {fields : Entries Json} (h : areHashes (.obj fields) = true) :
    ∀ p ∈ fields, p.2.isText = true := by
  rw [areHashes, Bool.or_eq_true] at h
  rcases h with h | h
  · have hempty : fields = [] := by simpa [Json.isTruthy] using h
    rw [hempty]
    exact nofun
  · exact List.all_eq_true.1 h

/-- The document of a stored locale passes the checks and gives the locale back, with the digests of
keys in the order in which they are stored. -/
theorem ofDocument_toDocument (h : f.Storable) (name : Text) :
    ofDocument name f.toDocument =
      .ok { f with sourceHashes := Entries.sorted f.sourceHashes } := by
  obtain ⟨hashes, hcases, hdoc⟩ := f.toDocument_eq
  rw [hdoc]
  rcases hcases with ⟨hempty, rfl⟩ | rfl
  · have hnone : Entries.sorted f.sourceHashes = [] := by simp [hempty, Entries.sorted]
    simp +decide only [ofDocument, Entries.get?, h.data.1, areHashes, Json.isTruthy, hnone, if_true,
      if_false, Option.getD]
  · have hhashes := areHashes_of_texts h.sorted_hashes.2
    simp +decide only [ofDocument, Entries.get?, h.data.1, hhashes, if_true, if_false, Option.getD]

/-- The bytes of a document that is stored with a line feed behind it hold that document. -/
theorem documentOf_stored {j : Json} (hclean : Catalog.isCleanValue j = true)
    (hdistinct : Catalog.DistinctAt j) {bytes : List UInt8}
    (hbytes : Utf8.encode (j.render .stored ++ "\n") = .ok bytes) : documentOf bytes = .ok j := by
  obtain ⟨cs, hcs, hread⟩ := Text.ofBytes_of_encode hbytes (Json.return_not_mem_stored hclean)
  rw [documentOf, hread]
  show (Json.read (Text.ofChars cs)).mapError _ = _
  rw [← hcs, mapError_eq_ok]
  exact Json.read_stored hclean hdistinct

/-- The bytes of a stored locale hold its document. -/
theorem documentOf_documentText (h : f.Storable) {bytes : List UInt8}
    (hbytes : Utf8.encode (documentText f) = .ok bytes) : documentOf bytes = .ok f.toDocument :=
  documentOf_stored h.isCleanValue_toDocument h.distinctAt_toDocument hbytes

/-- A field of a document, or what stands in for it. -/
def fieldOr (fields : Entries Json) (name : Text) (other : Json) : Json :=
  (Entries.get? fields name).getD other

/-- The digests of keys in a document, where there are any. -/
def hashesIn : Json → Entries Json
  | .obj fields => fields
  | _ => []

/-- **What the checks let through**: an object that has a clean catalog under `data`, and under
`sourceHashes` nothing, an empty value or texts by keys. The other fields are taken as they are. -/
theorem ofDocument_eq_ok {document : Json} :
    ofDocument name document = .ok f ↔ ∃ fields data, document = .obj fields ∧
      Entries.get? fields "data" = some data ∧ Catalog.isClean data = true ∧
      areHashes (fieldOr fields "sourceHashes" .null) = true ∧
      f = ⟨fieldOr fields "locale" (.str name), data, fieldOr fields "hash" (.str []),
        fieldOr fields "lastUpdated" (.str []),
        hashesIn (fieldOr fields "sourceHashes" .null)⟩ := by
  constructor
  · intro h
    unfold ofDocument at h
    split at h
    next fields =>
      split at h
      next data hdata =>
        split at h
        · cases h
        next hclean =>
          dsimp only at h
          split at h
          · cases h
          next hhashes =>
            cases h
            rw [Bool.not_eq_true, Bool.not_eq_false'] at hclean hhashes
            exact ⟨fields, data, rfl, hdata, hclean, hhashes, rfl⟩
      · cases h
    · cases h
  · rintro ⟨fields, data, rfl, hdata, hclean, hhashes, rfl⟩
    unfold fieldOr at hhashes
    rw [ofDocument, hdata]
    simp only [hclean, hhashes]
    rfl

/-- A document that passes the checks gives a sound locale. -/
theorem sound_of_ofDocument {document : Json} (hd : Catalog.DistinctAt document)
    (h : ofDocument name document = .ok f) : f.Sound := by
  obtain ⟨fields, data, rfl, hdata, hclean, hhashes, rfl⟩ := ofDocument_eq_ok.1 h
  refine ⟨⟨hclean, Catalog.distinctAt_of_get? hd hdata⟩, ?_⟩
  dsimp only
  cases hfield : Entries.get? fields "sourceHashes" with
  | none =>
    rw [fieldOr, hfield]
    exact ⟨List.nodup_nil, nofun⟩
  | some j =>
    rw [fieldOr, hfield] at hhashes ⊢
    cases j with
    | obj stored =>
      exact ⟨(Catalog.distinctFields_iff.1 (Catalog.distinctAt_of_get? hd hfield)).1,
        isText_of_areHashes hhashes⟩
    | null | bool _ | int _ | float _ | arr _ | str _ => exact ⟨List.nodup_nil, nofun⟩

/-- The document that bytes hold has its names told apart. -/
theorem distinctAt_documentOf {bytes : List UInt8} {document : Json}
    (h : documentOf bytes = .ok document) : Catalog.DistinctAt document := by
  unfold documentOf at h
  split at h
  · cases h
  · exact Json.distinctAt_read (mapError_eq_ok.1 h)

/-! ## Loading -/

/-- The locale that what stands at a path holds. -/
def heldBy (name : Text) (path : Path) (t : FileTree) : Except LoadFault LocaleFile :=
  match t with
  | .file bytes => documentOf bytes >>= ofDocument name
  | .folder _ => .error (.unreadable .isAFolder path.toText)

/-- What loading gives and what it warns of, by what stands at the path of a locale's file. -/
def loading (name : Text) (path : Path) :
    Except FileFault FileTree → Except Failure (Option LocaleFile) × List Text
  | .error .nameTooLong => (.error (.files .nameTooLong path.toText), [])
  | .error _ => (.ok none, [])
  | .ok t =>
    match heldBy name path t with
    | .ok held => (.ok (some held), [])
    | .error (.malformed f document) =>
      if f.fault.isMalformed then
        (.ok none, ["Failed to load locale " ++ name ++ ": " ++ f.message document])
      else (.error (.invalid (f.message document)), [])
    | .error f => (.ok none, ["Failed to load locale " ++ name ++ ": " ++ f.message])

/-- Whether something stands at a path, by what does. -/
def presence (path : Path) : Except FileFault FileTree → Except Failure Bool
  | .ok _ => .ok true
  | .error .nameTooLong => .error (.files .nameTooLong path.toText)
  | .error _ => .ok false

/-- Asking whether a file is there changes nothing. -/
theorem run_present (path : Path) (d : Disk) :
    (present path).run.run d = (presence path (d.files.at? path), d) := by
  unfold present
  rw [run_bind_of_ok (x := files) (s := d) rfl]
  cases d.files.at? path with
  | ok t => rfl
  | error e => cases e <;> rfl

/-- What is read at a path is what is held by the tree there. -/
theorem readAt_of_ok {path : Path} {t : FileTree} (h : d.files.at? path = .ok t) :
    readAt name path d.files = heldBy name path t := by
  have hread : d.files.readBytes path = (d.files.at? path).bind fun t =>
    match t with
    | .file bytes => .ok bytes
    | .folder _ => .error .isAFolder := rfl
  rw [readAt, hread, h]
  cases t with
  | file bytes => rfl
  | folder es => rfl

/-- Loading depends on what stands at the path of the locale's file and on nothing else; it leaves
the files alone. -/
theorem run_load (s : Store) (hname : localeName locale = .ok name) (d : Disk) {path : Path}
    (hpath : s.base.child (fileName name) = path) :
    (s.load locale).run.run d = ((loading name path (d.files.at? path)).1,
      { d with warnings := d.warnings ++ (loading name path (d.files.at? path)).2 }) := by
  have hpresent := run_present path d
  have hsame : { d with warnings := d.warnings ++ [] } = d := by rw [List.append_nil]
  unfold load
  rw [hname, run_bind_of_ok (run_liftM (.ok name) d)]
  simp only [hpath]
  cases hat : d.files.at? path with
  | error e =>
    rw [hat] at hpresent
    cases e with
    | nameTooLong =>
      rw [run_bind_of_error hpresent]
      exact congrArg (Prod.mk _) hsame.symm
    | notFound | alreadyThere | notAFolder | isAFolder =>
      rw [run_bind_of_ok hpresent]
      exact congrArg (Prod.mk _) hsame.symm
  | ok t =>
    rw [hat] at hpresent
    rw [run_bind_of_ok hpresent, if_neg (by decide), run_bind_of_ok (x := files) (s := d) rfl,
      readAt_of_ok hat, loading]
    cases heldBy name path t with
    | ok held => exact congrArg (Prod.mk _) hsame.symm
    | error fault =>
      cases fault with
      | malformed f document =>
        dsimp only
        cases hfault : f.fault.isMalformed with
        | true => rfl
        | false => exact congrArg (Prod.mk _) hsame.symm
      | unreadable _ _ | undecodable _ | notAnObject | badData | badHashes => rfl

/-- A file whose document passes the checks is loaded without a warning. -/
theorem loading_of_file {path : Path} {bytes : List UInt8} {document : Json}
    (hdocument : documentOf bytes = .ok document) (h : ofDocument name document = .ok f) :
    loading name path (.ok (.file bytes)) = (.ok (some f), []) := by
  have hheld : heldBy name path (.file bytes) = .ok f := by
    rw [heldBy, hdocument]
    exact h
  rw [loading, hheld]

/-- A locale that is loaded comes from a file whose document passes the checks. -/
theorem exists_file_of_loading {path : Path} {found : Except FileFault FileTree}
    (h : (loading name path found).1 = .ok (some f)) :
    ∃ bytes document, found = .ok (.file bytes) ∧ documentOf bytes = .ok document ∧
      ofDocument name document = .ok f := by
  cases found with
  | error e => cases e <;> cases h
  | ok t =>
    rw [loading] at h
    split at h
    next held hheld =>
      cases h
      cases t with
      | file bytes =>
        obtain ⟨document, hdocument, hof⟩ := bind_eq_ok.1 hheld
        exact ⟨bytes, document, rfl, hdocument, hof⟩
      | folder es => cases hheld
    next => split at h <;> cases h
    next => cases h

/-- Whatever is loaded is sound. -/
theorem sound_of_loading {path : Path} {found : Except FileFault FileTree}
    (h : (loading name path found).1 = .ok (some f)) : f.Sound := by
  obtain ⟨bytes, document, -, hdocument, hof⟩ := exists_file_of_loading h
  exact sound_of_ofDocument (distinctAt_documentOf hdocument) hof

/-! ## Saving -/

/-- The text of a document is made of characters if all that is in it is, and only then. -/
theorem encodable_documentText_iff (h : Catalog.isCleanValue f.toDocument = true) :
    Text.Encodable (documentText f) ↔ TextsAt Text.Encodable f.toDocument := by
  rw [← Json.encodable_render_iff .stored rfl h, documentText, Text.Encodable.append_iff]
  exact and_iff_left (Text.encodable_ofChars _)

/-- The text of a document has a UTF-8 form if all that is in it has one, and only then. -/
theorem exists_encode_documentText_iff (h : f.Storable) :
    (∃ bytes, Utf8.encode (documentText f) = .ok bytes) ↔ TextsAt Text.Encodable f.toDocument :=
  Text.exists_encode_iff.trans (encodable_documentText_iff h.isCleanValue_toDocument)

/-- What saving a document under a name writes. -/
def savedFile (name now : Text) (data : Json) (hash : Text) (hashes : Entries Json) : LocaleFile :=
  ⟨.str name, .obj (Catalog.clean false data), .str hash, .str now, hashes⟩

/-- The file that a save writes is storable. -/
theorem storable_savedFile (name now hash : Text) (data : Json) {hashes : Entries Json}
    (hdata : Catalog.DistinctAt data) (hkeys : hashes.keys.Nodup)
    (htexts : ∀ p ∈ hashes, p.2.isText = true) :
    (savedFile name now data hash hashes).Storable where
  data := ⟨Catalog.areClean_clean false data, Catalog.distinct_clean false hdata⟩
  hashes := ⟨hkeys, htexts⟩
  locale := rfl
  hash := rfl
  lastUpdated := rfl

variable {now : Text} {data : Json} {hashes : Entries Json} {hash : Text}

/-- A document that has a UTF-8 form has one for its locale's name. -/
theorem encodable_of_encode_savedFile {bytes : List UInt8}
    (h : Utf8.encode (documentText (savedFile name now data hash hashes)) = .ok bytes) :
    name.Encodable := by
  have hrender := (Text.Encodable.append_iff.1 (Text.exists_encode_iff.1 ⟨bytes, h⟩)).1
  obtain ⟨rest, -, hdoc⟩ := (savedFile name now data hash hashes).toDocument_eq
  rw [Json.render, hdoc, Text.Encodable,
    Json.forall_mem_written rfl (by decide : ∀ c ∈ Json.marks, c.isSurrogate = false)] at hrender
  obtain ⟨-, hname⟩ := hrender _ List.mem_cons_self
  rw [savedFile, Json.write] at hname
  exact (Json.encodable_flatMap_escapedPoint name).1
    ((Json.forall_mem_quoteWith (by decide) name).1 hname)

/-- Saving writes the document to the locale's file and leaves the other files of the folder as they
were. -/
theorem run_save (hbase : s.base.Plain) (h : d.files.find s.base.names = .ok (.folder es))
    (hname : localeName locale = .ok name) (hw : s.Writable d.files es name)
    (hhash : Catalog.digest (.obj (Catalog.clean false data)) = .ok hash) {bytes : List UInt8}
    (hbytes : Utf8.encode (documentText (savedFile name now data hash hashes)) = .ok bytes) :
    ∃ t es', (s.save now locale data hashes).run.run d =
        (.ok (savedFile name now data hash hashes), { d with files := t }) ∧
      t.find s.base.names = .ok (.folder es') ∧
      ∀ m, Entries.get? es' m =
        if m = fileName name then some (.file bytes) else Entries.get? es m := by
  have hnamed : checkName (fileName name) = .ok () :=
    checkName_of_encodable (Text.Encodable.append_iff.2
      ⟨encodable_of_encode_savedFile hbytes, Text.encodable_ofChars _⟩)
  obtain ⟨t, es', hwrite, hfind, hget⟩ := run_writeWhole hbase h hnamed hw hbytes
  refine ⟨t, es', ?_, hfind, hget⟩
  unfold save
  rw [hname, run_bind_of_ok (run_liftM (.ok name) d)]
  dsimp only
  rw [mapError_eq_ok.2 hhash, run_bind_of_ok (run_liftM (.ok hash) d)]
  exact run_bind_of_ok hwrite

/-- What was saved could be saved: the catalog has a digest and the document a UTF-8 form. -/
theorem writable_of_save (hbase : s.base.Plain) (h : d.files.find s.base.names = .ok (.folder es))
    (hname : localeName locale = .ok name) {d' : Disk}
    (hrun : (s.save now locale data hashes).run.run d = (.ok f, d')) :
    ∃ hash bytes, s.Writable d.files es name ∧
      Catalog.digest (.obj (Catalog.clean false data)) = .ok hash ∧
      Utf8.encode (documentText (savedFile name now data hash hashes)) = .ok bytes := by
  unfold save at hrun
  rw [hname, run_bind_of_ok (run_liftM (.ok name) d)] at hrun
  dsimp only at hrun
  obtain ⟨hash, d₁, hhash, hrun⟩ := run_bind_eq_ok.1 hrun
  rw [run_liftM, Prod.mk.injEq, mapError_eq_ok] at hhash
  obtain ⟨hhash, rfl⟩ := hhash
  obtain ⟨⟨⟩, d₂, hwrite, -⟩ := run_bind_eq_ok.1 hrun
  obtain ⟨hw, bytes, hbytes⟩ := writable_of_run hbase h hwrite
  exact ⟨hash, bytes, hw, hhash, hbytes⟩

/-- A locale that was saved is loaded again, whatever the time. -/
theorem loading_savedFile (hs : (savedFile name now data hash hashes).Storable) {bytes : List UInt8}
    (hbytes : Utf8.encode (documentText (savedFile name now data hash hashes)) = .ok bytes)
    (path : Path) :
    loading name path (.ok (.file bytes)) =
      (.ok (some (savedFile name now data hash (Entries.sorted hashes))), []) :=
  loading_of_file (documentOf_documentText hs hbytes) (ofDocument_toDocument hs name)

end Store

end Localization
