import Localization.Proofs.Catalog.Preserving
import Localization.Proofs.Json.Documents
import Localization.Proofs.Store.Listing

/-!
# Which files are loaded

A file that is there is loaded, or it counts as not there and gives a warning, or loading fails.
Which of the three it is depends on the file's bytes alone, and is said here without the steps of
loading: the bytes are the UTF-8 form of a text, the text is a document of the grammar, and the
document has the shape of a locale's (`WellShaped`). All other bytes are warned of, with one
exception: where the text has an integer of more than 4300 digits in the place of a value
(`Overlarge`), loading fails (`load_outcome`).
-/

namespace Localization.Store

/-! ## Shapes -/

/-- An object with nothing but texts and objects at the paths in it. -/
def IsNested (j : Json) : Prop :=
  j.isObject = true ∧
    ∀ path v, Catalog.valueAt j path = some v → v.isText = true ∨ v.isObject = true

/-- An object of texts. -/
def IsTextObject (j : Json) : Prop := ∃ fields, j = .obj fields ∧ ∀ f ∈ fields, f.2.isText = true

/-- The shape of a locale's document: a nested catalog, and for the digests of keys nothing, an
empty value or texts. -/
structure LocaleShape (fields : Entries Json) : Prop where
  data : ∃ data, Entries.get? fields "data" = some data ∧ IsNested data
  hashes : ∀ j, Entries.get? fields "sourceHashes" = some j → j.isTruthy = false ∨ IsTextObject j

/-- The text that bytes are the UTF-8 form of, with a line feed for every line break. -/
def Spelled (bytes : List UInt8) (t : Text) : Prop :=
  ∃ cs, bytes = Utf8.encodeChars cs ∧ t = Text.ofChars (Text.unifyBreaks cs)

/-- The bytes of a document with the shape of a locale's. -/
def WellShaped (bytes : List UInt8) : Prop :=
  ∃ t fields, Spelled bytes t ∧ Json.Document t (.obj fields) ∧ LocaleShape fields

/-- The bytes of a text that is a document up to an integer of more than 4300 digits. -/
def Overlarge (bytes : List UInt8) : Prop := ∃ t, Spelled bytes t ∧ Json.OverrunsDocument t

/-- Where no name repeats, a clean value is a nested object of texts. -/
theorem isClean_iff {j : Json} (hd : Catalog.DistinctAt j) :
    Catalog.isClean j = true ↔ IsNested j := by
  rw [IsNested, ← Catalog.mapping_iff hd]
  cases j with
  | obj fields => exact ⟨fun h => ⟨rfl, hd, h⟩, fun h => h.2.2⟩
  | null | bool _ | int _ | float _ | arr _ | str _ => exact ⟨nofun, fun h => nomatch h.1⟩

/-- Digests are an object of texts or nothing that counts. -/
theorem areHashes_iff {j : Json} :
    areHashes j = true ↔ j.isTruthy = false ∨ IsTextObject j := by
  unfold areHashes
  rw [Bool.or_eq_true, Bool.not_eq_true']
  refine or_congr_right ?_
  cases j with
  | obj fields =>
    rw [List.all_eq_true]
    exact ⟨fun h => ⟨fields, rfl, h⟩, by rintro ⟨_, ⟨rfl⟩, h⟩; exact h⟩
  | null | bool _ | int _ | float _ | arr _ | str _ => exact ⟨nofun, fun ⟨_, h, _⟩ => nomatch h⟩

/-- A document passes the checks exactly if it has the shape of a locale's. -/
theorem exists_ofDocument_iff {document : Json} (hd : Catalog.DistinctAt document) (name : Text) :
    (∃ f, ofDocument name document = .ok f) ↔
      ∃ fields, document = .obj fields ∧ LocaleShape fields := by
  simp only [ofDocument_eq_ok]
  constructor
  · rintro ⟨f, fields, data, rfl, hdata, hclean, hhashes, -⟩
    refine ⟨fields, rfl, ⟨data, hdata, ?_⟩, fun j hj => ?_⟩
    · exact (isClean_iff (Catalog.distinctAt_of_get? hd hdata)).1 hclean
    · rw [fieldOr, hj] at hhashes
      exact areHashes_iff.1 hhashes
  · rintro ⟨fields, rfl, ⟨data, hdata, hnested⟩, hhashes⟩
    refine ⟨_, fields, data, rfl, hdata, ?_, ?_, rfl⟩
    · exact (isClean_iff (Catalog.distinctAt_of_get? hd hdata)).2 hnested
    · unfold fieldOr
      cases hj : Entries.get? fields "sourceHashes" with
      | none => rfl
      | some j => exact areHashes_iff.2 (hhashes j hj)

/-! ## Documents in bytes -/

variable {bytes : List UInt8}

/-- The text of bytes is read as a document. -/
theorem documentOf_cases (bytes : List UInt8) :
    (∃ t, Spelled bytes t ∧ documentOf bytes = (Json.read t).mapError (.malformed · t)) ∨
      (¬ ∃ t, Spelled bytes t) ∧ ∃ f, documentOf bytes = .error (.undecodable f) := by
  unfold documentOf Text.ofBytes
  cases hdecode : Utf8.decode bytes with
  | ok cs => exact .inl ⟨_, ⟨cs, (Utf8.encodeChars_of_decodeFrom hdecode).symm, rfl⟩, rfl⟩
  | error f =>
    refine .inr ⟨?_, f, rfl⟩
    rintro ⟨t, cs, rfl, -⟩
    cases hdecode.symm.trans (Utf8.decodeFrom_encodeChars 0 cs)

/-- The text of bytes is the only one. -/
theorem Spelled.unique {t t' : Text} (h : Spelled bytes t) (h' : Spelled bytes t') : t = t' := by
  obtain ⟨cs, rfl, rfl⟩ := h
  obtain ⟨cs', heq, rfl⟩ := h'
  have hdecode := Utf8.decodeFrom_encodeChars 0 cs
  rw [heq, Utf8.decodeFrom_encodeChars 0 cs'] at hdecode
  rw [Except.ok.inj hdecode]

/-- Bytes are well-shaped exactly when a document is read and taken for a locale file. -/
theorem wellShaped_iff (name : Text) :
    WellShaped bytes ↔ ∃ f, documentOf bytes >>= ofDocument name = .ok f := by
  simp only [bind_eq_ok]
  rcases documentOf_cases bytes with ⟨t, ht, hread⟩ | ⟨hnone, f, hread⟩
  · simp only [hread, mapError_eq_ok, Json.read_eq_ok_iff]
    constructor
    · rintro ⟨t', fields, ht', hdocument, hshape⟩
      rw [ht'.unique ht] at hdocument
      have hd := Json.distinctAt_read (Json.read_eq_ok_iff.2 hdocument)
      obtain ⟨f, hf⟩ := (exists_ofDocument_iff hd name).2 ⟨fields, rfl, hshape⟩
      exact ⟨f, _, hdocument, hf⟩
    · rintro ⟨f, document, hdocument, hf⟩
      have hd := Json.distinctAt_read (Json.read_eq_ok_iff.2 hdocument)
      obtain ⟨fields, rfl, hshape⟩ := (exists_ofDocument_iff hd name).1 ⟨f, hf⟩
      exact ⟨t, fields, ht, hdocument, hshape⟩
  · rw [hread]
    refine ⟨fun ⟨t, _, ht, _⟩ => absurd ⟨t, ht⟩ hnone, ?_⟩
    rintro ⟨_, _, ⟨⟩, -⟩

/-- Bytes are overlarge exactly when reading them fails for a reason that is no malformed text. -/
theorem overlarge_iff :
    Overlarge bytes ↔ ∃ f t, documentOf bytes = .error (.malformed f t) ∧
      f.fault.isMalformed = false := by
  rcases documentOf_cases bytes with ⟨t, ht, hread⟩ | ⟨hnone, f, hread⟩
  · simp only [hread, mapError_eq_error]
    constructor
    · rintro ⟨t', ht', hoverruns⟩
      rw [ht'.unique ht] at hoverruns
      obtain ⟨f, hf, hfault⟩ := Json.exists_oversized_iff.2 hoverruns
      exact ⟨f, t, ⟨f, hf, rfl⟩, hfault⟩
    · rintro ⟨f, t', ⟨f', hf, ⟨⟩⟩, hfault⟩
      exact ⟨t, ht, Json.exists_oversized_iff.1 ⟨f, hf, hfault⟩⟩
  · rw [hread]
    refine ⟨fun ⟨t, ht, _⟩ => absurd ⟨t, ht⟩ hnone, ?_⟩
    rintro ⟨_, _, ⟨⟩, -⟩

/-! ## Loading -/

variable {s : Store} {d : Disk} {name : Text} {locale : Json}

/-- What is loaded from a file, and what is warned of, by the file's bytes. -/
theorem loading_cases (name : Text) (path : Path) (bytes : List UInt8) :
    (∃ f, loading name path (.ok (.file bytes)) = (.ok (some f), []) ∧
      WellShaped bytes ∧ ¬ Overlarge bytes) ∨
    (∃ m, loading name path (.ok (.file bytes)) = (.error (.invalid m), []) ∧
      ¬ WellShaped bytes ∧ Overlarge bytes) ∨
    ∃ w, loading name path (.ok (.file bytes)) = (.ok none, [w]) ∧
      ¬ WellShaped bytes ∧ ¬ Overlarge bytes := by
  have hwell : WellShaped bytes ↔ ∃ f, heldBy name path (.file bytes) = .ok f := wellShaped_iff name
  have hover : Overlarge bytes ↔ ∃ f t, heldBy name path (.file bytes) = .error (.malformed f t) ∧
      f.fault.isMalformed = false := by
    rw [overlarge_iff]
    constructor
    · rintro ⟨f, t, hdocument, hfault⟩
      exact ⟨f, t, by rw [heldBy, hdocument]; rfl, hfault⟩
    · rintro ⟨f, t, hheld, hfault⟩
      obtain ⟨_, ⟨⟩, hdocument⟩ := documentOf_of_malformed hheld
      exact ⟨f, t, hdocument, hfault⟩
  rw [hwell, hover, loading]
  cases hheld : heldBy name path (.file bytes) with
  | ok f => exact .inl ⟨f, rfl, ⟨f, rfl⟩, by rintro ⟨_, _, ⟨⟩, -⟩⟩
  | error fault =>
    have hnone : ¬ ∃ f, (Except.error fault : Except LoadFault LocaleFile) = .ok f := by
      rintro ⟨_, ⟨⟩⟩
    cases fault with
    | malformed f t =>
      dsimp only
      cases hfault : f.fault.isMalformed with
      | true =>
        refine .inr (.inr ⟨_, rfl, hnone, ?_⟩)
        rintro ⟨f', t', heq, hfault'⟩
        cases heq
        cases hfault.symm.trans hfault'
      | false => exact .inr (.inl ⟨_, rfl, hnone, f, t, rfl, hfault⟩)
    | unreadable _ _ | undecodable _ | notAnObject | badData | badHashes =>
      exact .inr (.inr ⟨_, rfl, hnone, by rintro ⟨_, _, ⟨⟩, -⟩⟩)

/-- **Which files are loaded.** Let a locale be accepted, and let there be a file with some bytes in
its place. A locale is loaded, with nothing else done, exactly if the bytes are those of a document
with the shape of a locale's. Loading fails, with nothing else done, exactly if the bytes are those
of a text that is a document up to an integer of more than 4300 digits. With all other bytes the
locale counts as not there; then there is one warning more, and the files are as they were. -/
theorem load_outcome (hname : localeName locale = .ok name)
    (hfile : d.files.at? (s.base.child (fileName name)) = .ok (.file bytes)) :
    (WellShaped bytes ↔ ∃ f, (s.load locale).run.run d = (.ok (some f), d)) ∧
    (Overlarge bytes ↔ ∃ m, (s.load locale).run.run d = (.error (.invalid m), d)) ∧
    (¬ WellShaped bytes ∧ ¬ Overlarge bytes ↔
      ∃ w, (s.load locale).run.run d = (.ok none, { d with warnings := d.warnings ++ [w] })) := by
  have hrun := run_load s hname d rfl
  rw [hfile] at hrun
  rcases loading_cases name (s.base.child (fileName name)) bytes with
    ⟨f, hloading, hwell, hover⟩ | ⟨m, hloading, hwell, hover⟩ | ⟨w, hloading, hwell, hover⟩
  · rw [hloading, List.append_nil] at hrun
    rw [hrun]
    exact ⟨iff_of_true hwell ⟨f, rfl⟩, iff_of_false hover nofun, iff_of_false (·.1 hwell) nofun⟩
  · rw [hloading, List.append_nil] at hrun
    rw [hrun]
    exact ⟨iff_of_false hwell nofun, iff_of_true hover ⟨m, rfl⟩, iff_of_false (·.2 hover) nofun⟩
  · rw [hloading] at hrun
    rw [hrun]
    exact ⟨iff_of_false hwell nofun, iff_of_false hover nofun, iff_of_true ⟨hwell, hover⟩ ⟨w, rfl⟩⟩

/-- A storage folder with one file, which has the given text. -/
def folderWith (content : List Char) : Disk :=
  ⟨.folder [("srv", .folder [("locales", .folder [
    ("en.json", .file (Utf8.encodeChars content))])])], []⟩

/-- What is loaded from that file. -/
def loadedFrom (content : List Char) : Except Failure (Option LocaleFile) :=
  ((nestedFolder.load (.str "en")).run.run (folderWith content)).1

/-- A document with a catalog of texts. -/
def textDocument : List Char := "\x7b\"data\": \x7b\"a\": \"A\"\x7d\x7d".toList

/-- A document with a number in its catalog. -/
def numberDocument : List Char := "\x7b\"data\": \x7b\"a\": 1\x7d\x7d".toList

/-- A catalog of texts has the shape of a locale's, and one with a number has not. -/
theorem load_outcome_shapes : WellShaped (Utf8.encodeChars textDocument) ∧
    ¬ WellShaped (Utf8.encodeChars numberDocument) := by
  have hname : localeName (.str "en") = .ok (Text.ofString "en") := rfl
  have htext : (loadedFrom textDocument).toOption.join.isSome = true := by decide +kernel
  have hnumber : (loadedFrom numberDocument).toOption.join.isSome = false := by decide +kernel
  rw [loadedFrom] at htext hnumber
  constructor
  · obtain ⟨-, hover, hother⟩ :=
      load_outcome (s := nestedFolder) (d := folderWith textDocument) hname rfl
    by_contra hnot
    by_cases hlarge : Overlarge (Utf8.encodeChars textDocument)
    · obtain ⟨m, hrun⟩ := hover.1 hlarge
      rw [hrun] at htext
      cases htext
    · obtain ⟨w, hrun⟩ := hother.1 ⟨hnot, hlarge⟩
      rw [hrun] at htext
      cases htext
  · obtain ⟨hwell, -⟩ :=
      load_outcome (s := nestedFolder) (d := folderWith numberDocument) hname rfl
    intro hshape
    obtain ⟨f, hrun⟩ := hwell.1 hshape
    rw [hrun] at hnumber
    cases hnumber

/-- A row of ones. -/
def ones (n : Nat) : List Char := List.replicate n '1'

/-- Ones are a row of digits. -/
theorem digits_ones (n : Nat) : Json.Digits (Text.ofChars (ones n)) (List.replicate n 1) [] := by
  induction n with
  | zero => exact .none
  | succ n ih => exact .more (by decide) ih

/-- More than 4300 ones are overlarge. -/
theorem overlarge_ones {n : Nat} (h : 4300 < n) : Overlarge (Utf8.encodeChars (ones n)) := by
  have hbreaks : Text.unifyBreaks (ones n) = ones n :=
    Text.unifyBreaks_of_not_mem fun h => absurd (List.eq_of_mem_replicate h) (by decide)
  have hlength : (List.replicate n 1).length = n := List.length_replicate
  have hwhole : Json.Whole (Text.ofChars (ones n)) (List.replicate n 1) [] := by
    refine ⟨digits_ones n, List.ne_nil_of_length_pos (by omega), fun hhead => ?_⟩
    cases List.eq_of_mem_replicate (List.mem_of_head? hhead)
  refine ⟨_, ⟨ones n, rfl, rfl⟩, Text.ofChars (ones n), ⟨[], nofun, ?_⟩, .number
    ⟨false, _, _, [], .none, hwhole, by omega, Json.stops_of_head nofun⟩⟩
  rw [hbreaks, List.nil_append]

/-- Loading fails on a file with nothing but a row of 4301 digits in it. -/
theorem load_fails_ones : ¬ ∀ (s : Store) (d : Disk) (locale : Json) (name : Text)
    (bytes : List UInt8), localeName locale = .ok name →
      d.files.at? (s.base.child (fileName name)) = .ok (.file bytes) →
      ∃ held d', (s.load locale).run.run d = (.ok held, d') := by
  intro hall
  have hname : localeName (.str "en") = .ok (Text.ofString "en") := rfl
  have hlarge : Overlarge (Utf8.encodeChars (ones 4301)) := overlarge_ones (by decide)
  obtain ⟨held, d', hrun⟩ := hall nestedFolder (folderWith (ones 4301)) (.str "en") "en" _ hname rfl
  rw [run_load nestedFolder hname (folderWith (ones 4301)) rfl] at hrun
  have hloading := (Prod.mk.inj hrun).1
  rcases loading_cases (Text.ofString "en") (nestedFolder.base.child (fileName "en"))
    (Utf8.encodeChars (ones 4301)) with ⟨f, -, -, hnot⟩ | ⟨m, hfails, -⟩ | ⟨w, -, -, hnot⟩
  · exact hnot hlarge
  · cases (congrArg Prod.fst hfails).symm.trans hloading
  · exact hnot hlarge

end Localization.Store
