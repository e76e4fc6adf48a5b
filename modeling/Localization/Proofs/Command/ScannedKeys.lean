import Localization.Command.Scan
import Localization.Proofs.Command.MergeKeys
import Localization.Proofs.Escape
import Localization.Proofs.Extraction.FolderScan
import Localization.Proofs.Reference.Decode

/-!
# Storing what a scan found

What a scan finds becomes keys and texts of a stored locale, and a locale is stored in UTF-8. Text
between tags can always be stored: it comes out of a file in UTF-8, and no reference stands for a
surrogate. A literal of a call can be stored unless an escape of its own names a surrogate
(`encodable_strings_iff`); a pair of such escapes stands for one character in the language that the
file is written in, and is found as two code points here. New keys that come with their own texts
are stored exactly if all of them have a UTF-8 form (`exists_mergeKeys_iff`), so that one such
literal keeps the keys of a whole scan from being stored (`scan_storable_iff`).
-/

namespace Localization

open Json (TextsAt TextsIn)
open Syntax Syntax.Tree

namespace Extraction

/-! ## Surrogates in what is found -/

/-- A literal stands for a surrogate, beside other things: it stands in no attribute, and one of its
escapes names a surrogate. -/
def HasSurrogate (source : Source) (parent : Option Tree) (literal : Tree) : Prop :=
  parent.any (·.kind = .markupAttribute) = false ∧
    ∃ behind, Escape.HasEscape (unquoted (literal.text source)) behind ∧
      Escape.NamesSurrogate behind

/-- A node is a call of the translation function with such a literal. -/
def MarksSurrogate (m : Markers) (source : Source) (t : Tree) : Prop :=
  ∃ literal, literalArgument? source m.functionName t = some literal ∧
    HasSurrogate source (t.child? .arguments) literal

section
variable {m : Markers} {source : Source} {file : Text}

/-- What stands in a file has a UTF-8 form. -/
theorem encodable_text (source : Source) (t : Tree) : (t.text source).Encodable := by
  unfold Tree.text
  split
  next text h =>
    obtain ⟨cs, -, rfl⟩ := map_eq_ok.1 h
    exact Text.encodable_ofChars cs
  next => exact nofun

/-- The text of some bytes has a UTF-8 form, even where the bytes cut a character. -/
theorem encodable_textOf (bytes : List UInt8) : (textOf bytes).Encodable := by
  unfold textOf
  split
  · exact Text.encodable_ofChars _
  · exact nofun

/-- Without its ends, a text with a UTF-8 form still has one. -/
theorem encodable_unquoted {t : Text} (ht : t.Encodable) : (unquoted t).Encodable :=
  ht.subset fun _ hc => List.mem_of_mem_drop (List.mem_of_mem_dropLast hc)

/-- The value of a literal has a UTF-8 form unless the literal stands for a surrogate. -/
theorem encodable_stringValue_iff {parent : Option Tree} {literal : Tree} {value : Text}
    (h : stringValue source parent literal = .ok value) :
    value.Encodable ↔ ¬ HasSurrogate source parent literal := by
  have hbody := encodable_unquoted (encodable_text source literal)
  unfold stringValue at h
  dsimp only at h
  unfold HasSurrogate
  split at h
  next hattribute =>
    split at h
    next => cases h
    next =>
      cases h
      exact iff_of_true (Reference.encodable_decode hbody) (by simp [hattribute])
  next hattribute =>
    rw [Escape.encodable_resolve_iff hbody h]
    simp [hattribute]

/-- What an element of the translation component marks has a UTF-8 form. -/
theorem encodable_fromElement {t : Tree} {s : Extracted}
    (h : fromElement m source file t = some s) : s.value.Encodable := by
  obtain ⟨-, -, span, -, hvalue, -⟩ := fromElement_eq_some_iff.1 h
  rw [hvalue]
  exact (Reference.encodable_decode (encodable_textOf _)).strip

/-- Only calls mark a surrogate. -/
theorem not_marksSurrogate_of_kind {t : Tree} (h : t.kind ≠ .call) :
    ¬ MarksSurrogate m source t := by
  rintro ⟨literal, hliteral, -⟩
  simp [literalArgument?, isCallOf, h] at hliteral

/-- What a node marks has a UTF-8 form unless the node marks a surrogate. -/
theorem encodable_extract_iff {t : Tree} {found : Option Extracted}
    (h : extract m source file t = .ok found) :
    (∀ s, found = some s → s.value.Encodable) ↔ ¬ MarksSurrogate m source t := by
  unfold extract at h
  split at h
  next =>
    unfold fromCall at h
    unfold MarksSurrogate
    split at h
    next hnone =>
      cases h
      simp [hnone]
    next literal hliteral =>
      obtain ⟨value, hvalue, rfl⟩ := map_eq_ok.1 h
      simp [hliteral, encodable_stringValue_iff hvalue]
  next hkind =>
    cases h
    exact iff_of_true (fun s hs => encodable_fromElement hs)
      (not_marksSurrogate_of_kind (by simp [hkind]))
  next hcall _ =>
    cases h
    exact iff_of_true nofun (not_marksSurrogate_of_kind hcall)

/-- A text is its own key. -/
theorem key_of_extract {t : Tree} {s : Extracted} (h : extract m source file t = .ok (some s)) :
    s.key = s.value := by
  unfold extract at h
  split at h
  next =>
    unfold fromCall at h
    split at h
    · cases h
    · obtain ⟨value, -, hs⟩ := map_eq_ok.1 h
      cases hs
      rfl
  next =>
    obtain ⟨-, -, span, -, -, -, hkey, -⟩ := fromElement_eq_some_iff.1 (Except.ok.inj h)
    exact hkey
  next => cases h

variable {parser : Parser} {found : ScanResult}

/-- **What a scan finds has a UTF-8 form** unless a node of the file's tree marks a surrogate. -/
theorem encodable_strings_iff (h : (scanContent m parser file source).result = .ok found) :
    (∀ s ∈ found.strings, s.value.Encodable) ↔
      ∀ root, parser file source = .ok root →
        ∀ v ∈ root.visits, ¬ MarksSurrogate m source v.tree := by
  constructor
  · intro hall root hparse v hv
    have hlegible := exists_scanContent_iff.1 ⟨found, h⟩ root hparse v hv
    obtain ⟨r, hr⟩ : ∃ r, extract m source file v.tree = .ok r := exists_extract_iff.2 hlegible
    refine (encodable_extract_iff hr).1 fun s hs => ?_
    subst hs
    exact hall s ((mem_strings_iff h).2 ⟨root, hparse, v, hv, hr⟩)
  · intro hall s hs
    obtain ⟨root, hparse, v, hv, hextract⟩ := (mem_strings_iff h).1 hs
    exact (encodable_extract_iff hextract).2 (hall root hparse v hv) s rfl

end

end Extraction

/-! ## Names and texts of a merge -/

namespace Catalog

variable {q : Text → Prop}

/-- That names and texts are as wanted is handed down. -/
theorem inherited_textsAt : Inherited q (TextsAt q) where
  field h := Json.textsIn_iff.1 h
  set h hname hj := by
    refine Json.textsIn_iff.2 fun f hf => ?_
    rcases Entries.mem_of_mem_set hf with rfl | hf
    · exact ⟨hname, hj⟩
    · exact Json.textsIn_iff.1 h f hf
  permitted h := Json.textsIn_iff.2 fun f hf => Json.textsIn_iff.1 h f (List.mem_of_mem_filter hf)

end Catalog

namespace Command

open Catalog (Mapping)
open Extraction

variable {store : Store} {d d' : Disk} {es : Entries FileTree} {name now : Text}
  {keys : Entries Text} {held : Option LocaleFile}

/-- A merge brings in the new names and texts and no others. -/
theorem textsIn_mergedWith {q : Text → Prop}
    (hold : TextsIn q (Store.mergedWith (incomingKeys []) true held))
    (hnew : TextsIn q (Catalog.clean true (incomingKeys keys))) :
    TextsIn q (Store.mergedWith (incomingKeys keys) true held) := by
  unfold Store.mergedWith at hold ⊢
  split
  next locale existing hash lastUpdated hashes =>
    -- merging nothing leaves what is permitted, and this is what a merge begins with
    have hpermitted : TextsIn q (Catalog.permitted existing) := hold
    exact Catalog.inherited_textsAt.mergeInto (Json.textsIn_iff.1 hnew) hpermitted
  next => exact hnew

/-- A new key has a place in what the merge gives, unless its name is forbidden. -/
theorem get?_mergedWith_ne_none (hkeys : keys.keys.Nodup) {k : Text} (hk : k ∈ keys.keys)
    (hpermitted : Catalog.isForbidden k = false) (held : Option LocaleFile) :
    Entries.get? (Store.mergedWith (incomingKeys keys) true held) k ≠ none := by
  have hincoming : Entries.get? (Catalog.clean true (incomingKeys keys)) k ≠ none := by
    rw [get?_incomingKeys keys hpermitted, ne_eq, Option.map_eq_none_iff]
    exact Entries.get?_ne_none hk
  unfold Store.mergedWith
  split
  next existing _ _ _ =>
    obtain ⟨new, hnew⟩ := Option.ne_none_iff_exists'.1 hincoming
    have hdistinct := (Catalog.distinctFields_iff.1 (mapping_incomingKeys hkeys).1).1
    rw [if_pos rfl, Catalog.get?_merge existing hdistinct, hpermitted, if_neg Bool.false_ne_true,
      hnew]
    cases Entries.get? existing k with
    | none => exact nofun
    | some old => exact nofun
  next => exact hincoming

/-! ## Saving new keys -/

/-- What a save needs of the names and texts: all of them have a UTF-8 form. -/
theorem exists_save_iff (hbase : store.base.Plain)
    (hfolder : d.files.find store.base.names = .ok (.folder es))
    (hname : Store.localeName (.str name) = .ok name) {data : Catalog}
    (hdata : Mapping (.obj data)) {hashes : Entries Json}
    (hhashes : hashes.keys.Nodup ∧ ∀ h ∈ hashes, h.2.isText = true) :
    (∃ file d', (store.save now (.str name) (.obj data) hashes).run.run d = (.ok file, d')) ↔
      store.Writable d.files es name ∧ name.Encodable ∧ now.Encodable ∧
        TextsIn Text.Encodable hashes ∧ TextsIn Text.Encodable data := by
  have hsame : Catalog.clean false (.obj data) = data := Catalog.cleanFields_of_areClean hdata.2
  have hstorable := fun hash =>
    Store.storable_savedFile name now hash (.obj data) hdata.1 hhashes.1 hhashes.2
  constructor
  · rintro ⟨file, d', hrun⟩
    obtain ⟨hash, bytes, hw, -, hbytes⟩ := Store.writable_of_save hbase hfolder hname hrun
    have htexts := (Store.exists_encode_documentText_iff (hstorable hash)).1 ⟨bytes, hbytes⟩
    rw [LocaleFile.textsAt_toDocument_iff, Store.savedFile, hsame] at htexts
    obtain ⟨hlocale, hdata, -, hnow, hhashes⟩ := htexts
    exact ⟨hw, hlocale, hnow, hhashes, hdata⟩
  · rintro ⟨hw, hlocale, hnow, hhashes', hdata'⟩
    obtain ⟨hash, hhash⟩ := Catalog.exists_digest hdata.2 hdata'
    obtain ⟨bytes, hbytes⟩ := (Store.exists_encode_documentText_iff (hstorable hash)).2 (by
      rw [LocaleFile.textsAt_toDocument_iff, Store.savedFile, hsame]
      exact ⟨hlocale, hdata', Text.encodable_digest hhash, hnow, hhashes'⟩)
    obtain ⟨t, es', hrun, -⟩ := Store.run_save hbase hfolder hname hw (hsame.symm ▸ hhash) hbytes
    exact ⟨_, _, hrun⟩

/-- Whether new keys can be merged depends on whether what comes out can be saved. -/
theorem exists_mergeKeys_of_save {locale : Json} {d₁ : Disk}
    (hload : (store.load locale).run.run d = (.ok held, d₁))
    (hsave : ∀ warnings, ∃ file d',
      (store.save now locale (.obj (Store.mergedWith (incomingKeys keys) true held))
        (keptHashes held)).run.run ⟨d.files, warnings⟩ = (.ok file, d')) :
    ∃ counts d', (mergeKeys store now locale keys).run.run d = (.ok counts, d') := by
  obtain ⟨hfiles, -, hagain⟩ := load_again hload
  obtain ⟨warnings, hload'⟩ := hagain d₁.warnings
  have hsame : d₁ = ⟨d.files, d₁.warnings⟩ := by rw [← hfiles]
  rw [← hsame] at hload'
  obtain ⟨file, d', hsave⟩ := hsave warnings
  unfold mergeKeys
  rw [run_bind_of_ok hload, run_bind_of_ok (Store.run_mergeWith hload' _ true)]
  cases held with
  | none => exact ⟨_, _, run_bind_of_ok hsave⟩
  | some held => exact ⟨_, _, run_bind_of_ok hsave⟩

/-- The forbidden names have a UTF-8 form. -/
theorem encodable_of_isForbidden {k : Text} (h : Catalog.isForbidden k = true) : k.Encodable := by
  simp only [Catalog.isForbidden, Bool.or_eq_true, decide_eq_true_eq] at h
  rcases h with (rfl | rfl) | rfl <;> decide

/-- **New keys that come with their own texts** can be merged into a locale exactly if all of them
have a UTF-8 form, wherever the locale could be saved without them. -/
theorem exists_mergeKeys_iff (hbase : store.base.Plain)
    (hfolder : d.files.find store.base.names = .ok (.folder es)) (hkeys : keys.keys.Nodup)
    (hown : ∀ k ∈ keys, k.2 = k.1) {counts₀ : Int × Nat} {d₀ : Disk}
    (hsaved : (mergeKeys store now (.str name) []).run.run d = (.ok counts₀, d₀)) :
    (∃ counts d', (mergeKeys store now (.str name) keys).run.run d = (.ok counts, d')) ↔
      ∀ k ∈ keys.keys, k.Encodable := by
  obtain ⟨held, d₁, warnings₀, file₀, hload, hsave₀⟩ := exists_save_of_mergeKeys hsaved
  obtain ⟨name', hname⟩ := localeName_of_load hload
  cases localeName_eq_ok hname
  have hsound := (load_again hload).2.1
  have hnone : Entries.keys ([] : Entries Text) |>.Nodup := List.nodup_nil
  obtain ⟨hdata₀, hhashes⟩ := mapping_mergedWith hsound hnone
  obtain ⟨hdata, -⟩ := mapping_mergedWith hsound hkeys
  obtain ⟨hw, hlocale, hnow, hhashes', hold⟩ :=
    (exists_save_iff (d := ⟨d.files, warnings₀⟩) hbase hfolder hname hdata₀ hhashes).1
      ⟨file₀, d₀, hsave₀⟩
  constructor
  · rintro ⟨counts, d', hrun⟩ k hk
    cases hforbidden : Catalog.isForbidden k with
    | true => exact encodable_of_isForbidden hforbidden
    | false =>
      obtain ⟨held', d₂, warnings, file, hload', hsave⟩ := exists_save_of_mergeKeys hrun
      obtain rfl : held = held' := Except.ok.inj (Prod.mk.inj (hload.symm.trans hload')).1
      obtain ⟨-, -, -, -, htexts⟩ :=
        (exists_save_iff (d := ⟨d.files, warnings⟩) hbase hfolder hname hdata hhashes).1
          ⟨file, d', hsave⟩
      have hplace := get?_mergedWith_ne_none hkeys hk hforbidden held
      obtain ⟨j, hj⟩ := Option.ne_none_iff_exists'.1 hplace
      exact (Json.textsIn_iff.1 htexts _ (Entries.mem_of_get? hj)).1
  · intro hall
    have hincoming : TextsAt Text.Encodable (incomingKeys keys) := by
      refine Json.textsIn_iff.2 fun f hf => ?_
      obtain ⟨k, hk, rfl⟩ := List.mem_map.1 hf
      have hencodable := hall k.1 (Entries.mem_keys_of_mem hk)
      exact ⟨hencodable, (hown k hk).symm ▸ hencodable⟩
    have htexts := textsIn_mergedWith hold (Json.textsIn_clean true hincoming)
    refine exists_mergeKeys_of_save hload fun warnings => ?_
    exact (exists_save_iff (d := ⟨d.files, warnings⟩) hbase hfolder hname hdata hhashes).2
      ⟨hw, hlocale, hnow, hhashes', htexts⟩

/-! ## Storing a scan -/

/-- The keys that a scan brings in, each with its text. -/
def scannedKeys (found : ScanResult) : Entries Text :=
  found.uniqueKeys.map fun s => (s.1, s.2.value)

/-- The keys of a scan are the different keys of what it found. -/
theorem keys_scannedKeys (found : ScanResult) :
    (scannedKeys found).keys = found.uniqueKeys.keys := by
  rw [scannedKeys, Entries.keys, List.map_map]
  rfl

/-- The keys of a scan come once each. -/
theorem nodup_scannedKeys (found : ScanResult) : (scannedKeys found).keys.Nodup := by
  rw [keys_scannedKeys, ScanResult.uniqueKeys]
  exact Entries.nodup_keys_ofPairs _

/-- The keys are those of the texts that were found. -/
theorem mem_scannedKeys {found : ScanResult} {k : Text} :
    k ∈ (scannedKeys found).keys ↔ ∃ s ∈ found.strings, s.key = k := by
  rw [keys_scannedKeys, ScanResult.uniqueKeys, Entries.mem_keys_ofPairs]
  simp

variable {m : Markers} {parser : Parser} {file : Text} {source : Source} {found : ScanResult}

/-- Every key of a scan is its own text. -/
theorem own_of_mem_scannedKeys (hscan : (scanContent m parser file source).result = .ok found) :
    ∀ k ∈ scannedKeys found, k.2 = k.1 := by
  intro k hk
  obtain ⟨⟨key, s⟩, hs, rfl⟩ := List.mem_map.1 hk
  have hget := Entries.get?_of_mem (Entries.nodup_keys_ofPairs _) hs
  obtain ⟨s', hs', heq⟩ := List.mem_map.1 (Entries.mem_of_get?_ofPairs hget)
  cases heq
  obtain ⟨root, -, v, -, hextract⟩ := (mem_strings_iff hscan).1 hs'
  exact (key_of_extract hextract).symm

/-- **What a scan found can be stored, surrogates apart.** Let the scan of a file give a result. All
keys and texts that it found have a UTF-8 form exactly if no call of the translation function in the
file's tree has a literal with an escape that names a surrogate. And wherever a locale could be
saved as it is, the keys can be merged into it exactly if all of them have a UTF-8 form. -/
theorem scan_storable_iff (hscan : (scanContent m parser file source).result = .ok found) :
    ((∀ s ∈ found.strings, s.key.Encodable ∧ s.value.Encodable) ↔
      ∀ root, parser file source = .ok root →
        ∀ v ∈ root.visits, ¬ MarksSurrogate m source v.tree) ∧
    ∀ (store : Store) (now name : Text) (d d₀ : Disk) (es : Entries FileTree)
      (counts₀ : Int × Nat), store.base.Plain →
        d.files.find store.base.names = .ok (.folder es) →
        (mergeKeys store now (.str name) []).run.run d = (.ok counts₀, d₀) →
        ((∃ counts d', (mergeKeys store now (.str name) (scannedKeys found)).run.run d =
            (.ok counts, d')) ↔
          ∀ s ∈ found.strings, s.key.Encodable ∧ s.value.Encodable) := by
  have hown : ∀ s ∈ found.strings, s.key = s.value := fun s hs => by
    obtain ⟨root, -, v, -, hextract⟩ := (mem_strings_iff hscan).1 hs
    exact key_of_extract hextract
  have hboth : (∀ s ∈ found.strings, s.key.Encodable ∧ s.value.Encodable) ↔
      ∀ s ∈ found.strings, s.value.Encodable :=
    forall₂_congr fun s hs => by rw [hown s hs, and_self]
  refine ⟨hboth.trans (encodable_strings_iff hscan), ?_⟩
  intro store now name d d₀ es counts₀ hbase hfolder hsaved
  rw [exists_mergeKeys_iff hbase hfolder (nodup_scannedKeys found)
    (own_of_mem_scannedKeys hscan) hsaved, hboth]
  simp only [mem_scannedKeys, forall_exists_index, and_imp, forall_apply_eq_imp_iff₂]
  exact forall₂_congr fun s hs => by rw [hown s hs]

/-- A call whose literal writes one character as a pair of escapes. -/
def pairedEscapes : Source := .ofChars "t('\\ud83d\\ude00');".toList

/-- A store without locales. -/
def emptyLocales : Disk := ⟨.folder [("locales", .folder [])], []⟩

/-- What is found in the call is two surrogates, and cannot be stored. -/
theorem scan_storable_iff_pairedEscapes : ∃ found,
    (scanContent ⟨"t", "T"⟩ standardParser "a.tsx" pairedEscapes).result = .ok found ∧
      found.strings.map (·.value) = [[.surrogate 0x3D, .surrogate 0x600]] ∧
      (∃ counts d', (mergeKeys localesStore "2024" (.str "en") []).run.run emptyLocales =
        (.ok counts, d')) ∧
      ¬ ∃ counts d', (mergeKeys localesStore "2024" (.str "en")
        (scannedKeys found)).run.run emptyLocales = (.ok counts, d') := by
  have hscan : ((scanContent ⟨"t", "T"⟩ standardParser "a.tsx" pairedEscapes).result.toOption.map
      fun found => found.strings.map (·.value)) =
        some [[.surrogate 0x3D, .surrogate 0x600]] := by
    decide +kernel
  have hempty : ((mergeKeys localesStore "2024" (.str "en") []).run.run
      emptyLocales).1.toOption.isSome = true := by
    decide +kernel
  obtain ⟨found, hfound, hvalues⟩ := Option.map_eq_some_iff.1 hscan
  obtain ⟨⟨result, d'⟩, hrun⟩ : ∃ y, (mergeKeys localesStore "2024" (.str "en") []).run.run
      emptyLocales = y := ⟨_, rfl⟩
  rw [hrun] at hempty
  obtain ⟨counts, hcounts⟩ := Option.isSome_iff_exists.1 hempty
  obtain rfl : result = .ok counts := eq_ok_of_toOption hcounts
  refine ⟨found, eq_ok_of_toOption hfound, hvalues, ⟨counts, d', hrun⟩, fun hstored => ?_⟩
  have hall := ((scan_storable_iff (eq_ok_of_toOption hfound)).2 localesStore "2024" "en"
    emptyLocales d' [] counts plain_localesStore rfl hrun).1 hstored
  obtain ⟨s, hs⟩ : ∃ s, found.strings = [s] :=
    List.length_eq_one_iff.1 (by simpa using congrArg List.length hvalues)
  rw [hs, List.map_singleton, List.singleton_inj] at hvalues
  have hencodable := (hall s (by simp [hs])).2
  rw [hvalues] at hencodable
  exact absurd hencodable (by decide)

/-- Not everything that a scan finds has a UTF-8 form. -/
theorem scan_finds_surrogates : ¬ ∀ (m : Markers) (parser : Parser) (file : Text) (source : Source)
    (found : ScanResult), (scanContent m parser file source).result = .ok found →
      ∀ s ∈ found.strings, s.key.Encodable ∧ s.value.Encodable := by
  intro hall
  have hscan : ((scanContent ⟨"t", "T"⟩ standardParser "a.tsx" pairedEscapes).result.toOption.map
      fun found => found.strings.all fun s => decide s.value.Encodable) = some false := by
    decide +kernel
  obtain ⟨found, hfound, hsome⟩ := Option.map_eq_some_iff.1 hscan
  have hencodable := hall _ _ _ _ found (eq_ok_of_toOption hfound)
  rw [List.all_eq_true.2 fun s hs => decide_eq_true (hencodable s hs).2] at hsome
  cases hsome

end Command

end Localization
