import Localization.Proofs.Catalog.Order
import Localization.Proofs.Store.Documents

/-!
# The written forms of a catalog

A catalog is stored line by line and compared by its canonical form. Neither loses anything: the
stored form is read back as the same catalog, with its names in their order at every depth
(`stored_reads_back`), and the canonical form forgets the order of names and nothing else
(`canonical_identifies`). The second goes through the ordered form of a catalog, the catalog with
its names in increasing order at every depth. The canonical form of a catalog is its ordered form
without blanks, which is read back, so the canonical form tells ordered forms apart; and two
catalogs have one ordered form exactly if they are alike, name by name, at every depth.
-/

namespace Localization

namespace Catalog

open Json (TextsIn)

/-! ## The stored form -/

/-- **The stored form gives the catalog back.** Let a catalog be a mapping of texts that have UTF-8
forms. Its stored form, with the line feed that ends the file, is a text of characters and has a
UTF-8 form. Unifying line ends changes nothing in it, and it is read as the catalog itself, with its
names in their order at every depth; so is the file. -/
theorem stored_reads_back {document : Catalog} (hmapping : Mapping (.obj document))
    (htexts : TextsIn Text.Encodable document) :
    ∃ cs bytes, Json.render .stored (.obj document) ++ "\n" = Text.ofChars cs ∧
      Utf8.encode (Text.ofChars cs) = .ok bytes ∧ Text.unifyBreaks cs = cs ∧
      Json.read (Text.ofChars (Text.unifyBreaks cs)) = .ok (.obj document) ∧
      Store.documentOf bytes = .ok (.obj document) := by
  obtain ⟨hdistinct, hclean⟩ := hmapping
  have hencodable : (Json.render .stored (.obj document) ++ "\n").Encodable :=
    Text.Encodable.append_iff.2 ⟨(Json.encodable_render_iff .stored rfl hclean).2 htexts,
      Text.encodable_ofChars _⟩
  obtain ⟨bytes, hbytes⟩ := Text.exists_encode_iff.2 hencodable
  obtain ⟨cs, hcs, -⟩ := Utf8.decode_of_encode hbytes
  have hreturn : '\r' ∉ cs := by
    intro hmem
    have hpoint : CodePoint.scalar '\r' ∈ Text.ofChars cs := List.mem_map_of_mem hmem
    exact Json.return_not_mem_stored hclean (hcs ▸ hpoint)
  refine ⟨cs, bytes, hcs, hcs ▸ hbytes, Text.unifyBreaks_of_not_mem hreturn, ?_, ?_⟩
  · rw [Text.unifyBreaks_of_not_mem hreturn, ← hcs]
    exact Json.read_stored hclean hdistinct
  · exact Store.documentOf_stored hclean hdistinct hbytes

/-- A catalog whose texts are all escapes, with objects that are empty. -/
def escapes : Catalog :=
  [("z\"", "\\\n\r\n\t\x08\x0c\x1f\x7f"),
    ("", .obj [("b", "/\u2028"), ("a", .obj []), ("\r", "")]), ("last", .obj [])]

/-- A document with every kind of escaped character is stored and read back. -/
theorem stored_reads_back_escapes :
    Mapping (.obj escapes) ∧ TextsIn Text.Encodable escapes ∧
    ∃ cs bytes, Json.render .stored (.obj escapes) ++ "\n" = Text.ofChars cs ∧
      Utf8.encode (Text.ofChars cs) = .ok bytes ∧
      Json.read (Text.ofChars (Text.unifyBreaks cs)) = .ok (.obj escapes) ∧
      Store.documentOf bytes = .ok (.obj escapes) := by
  have hmapping : Mapping (.obj escapes) :=
    ⟨⟨by decide, trivial, by decide, ⟨by decide, trivial, by decide, trivial, by decide, trivial,
      trivial⟩, by decide, trivial, trivial⟩, rfl⟩
  have hchars : ∀ s : String, (Text.ofString s).Encodable := fun s => Text.encodable_ofChars _
  have htexts : TextsIn Text.Encodable escapes :=
    ⟨hchars _, hchars _, hchars _, ⟨hchars _, hchars _, hchars _, trivial, hchars _, hchars _,
      trivial⟩, hchars _, trivial, trivial⟩
  obtain ⟨cs, bytes, hcs, hbytes, -, hread, hfile⟩ := stored_reads_back hmapping htexts
  exact ⟨hmapping, htexts, cs, bytes, hcs, hbytes, hread, hfile⟩

/-! ## The canonical form -/

mutual

/-- A value in canonical form is its ordered form without blanks. -/
theorem write_canonical : ∀ (j : Json) (depth : Nat),
    Json.write .canonical depth j = Json.write .compact depth (ordered j)
  | .obj fields, depth => by
    have hfields : Json.writeFields .compact (depth + 1) (Entries.sorted (orderedFields fields)) =
        Entries.sorted (Json.writeFields .canonical (depth + 1) fields) := by
      rw [writeFields_canonical, Json.writeFields_eq, Json.writeFields_eq, Entries.map_sorted]
    rw [ordered, Json.write, Json.write, hfields]
    rfl
  | .arr items, depth => by
    rw [ordered, Json.write, Json.write, writeItems_canonical]
    rfl
  | .null, _ | .bool true, _ | .bool false, _ | .int _, _ | .float _, _ | .str _, _ => rfl

/-- Items are written in the canonical form as ordered items are in the compact one. -/
theorem writeItems_canonical : ∀ (items : List Json) (depth : Nat),
    Json.writeItems .canonical depth items = Json.writeItems .compact depth (orderedItems items)
  | [], _ => rfl
  | j :: rest, depth => by
    rw [orderedItems, Json.writeItems, Json.writeItems, write_canonical, writeItems_canonical]

/-- Fields are written in the canonical form as ordered fields are in the compact one. -/
theorem writeFields_canonical : ∀ (fields : List (Text × Json)) (depth : Nat),
    Json.writeFields .canonical depth fields =
      Json.writeFields .compact depth (orderedFields fields)
  | [], _ => rfl
  | (k, j) :: rest, depth => by
    rw [orderedFields, Json.writeFields, Json.writeFields, write_canonical, writeFields_canonical]

end

/-- The canonical form of a document is its ordered form, written without blanks. -/
theorem canonical_eq_compact (j : Json) : canonical j = (ordered j).compact := write_canonical j 0

/-- A mapping is known by its form without blanks. -/
theorem eq_of_compact_eq {a b : Json} (ha : Mapping a) (hb : Mapping b)
    (h : a.compact = b.compact) : a = b := by
  have hread : ∀ {j : Json}, Mapping j → Json.read (j.compact ++ []) = .ok j := fun hj =>
    Json.read_render rfl rfl hj.2 hj.1 nofun
  exact Except.ok.inj ((hread ha).symm.trans (h ▸ hread hb))

/-- Two mappings have one canonical form exactly if they have one ordered form. -/
theorem canonical_eq_iff_ordered {a b : Json} (ha : Mapping a) (hb : Mapping b) :
    canonical a = canonical b ↔ ordered a = ordered b := by
  rw [canonical_eq_compact, canonical_eq_compact]
  exact ⟨eq_of_compact_eq (mapping_ordered ha) (mapping_ordered hb), congrArg Json.compact⟩

/-- Fields are the same as others when each has an equal value under its name there. -/
theorem sameFields_iff {fields other : List (Text × Json)} :
    Json.sameFields fields other = true ↔
      ∀ f ∈ fields, ∃ w, Entries.get? other f.1 = some w ∧ Json.same f.2 w = true := by
  induction fields with
  | nil => simp [Json.sameFields]
  | cons f fields ih =>
    obtain ⟨k, v⟩ := f
    rw [Json.sameFields, Bool.and_eq_true, ih, List.forall_mem_cons]
    refine and_congr_left fun _ => ?_
    cases Entries.get? other k <;> simp

/-- Objects of one size differ at most in the order of names if each value of the first has its like
in the second. -/
theorem alike_obj_iff {a b : Catalog} (ha : (Entries.keys a).Nodup) (hb : (Entries.keys b).Nodup) :
    Alike (.obj a) (.obj b) ↔
      a.length = b.length ∧ ∀ f ∈ a, ∃ w, Entries.get? b f.1 = some w ∧ Alike f.2 w := by
  constructor
  · rintro (_ | ⟨names, values⟩)
    have hkeys : (Entries.keys a).Perm (Entries.keys b) := by
      refine (List.perm_ext_iff_of_nodup ha hb).2 fun name => ?_
      rw [← Entries.has_iff, names name, Entries.has_iff]
    refine ⟨by simpa [Entries.keys] using hkeys.length_eq, fun f hf => ?_⟩
    have hname : Entries.has b f.1 = true :=
      names f.1 ▸ Entries.has_iff.2 (Entries.mem_keys_of_mem hf)
    obtain ⟨w, hw⟩ := Option.isSome_iff_exists.1 hname
    exact ⟨w, hw, values f.1 f.2 w (Entries.get?_of_mem ha hf) hw⟩
  · rintro ⟨hlength, hvalues⟩
    have hsubset : Entries.keys a ⊆ Entries.keys b := by
      intro name hname
      obtain ⟨f, hf, rfl⟩ := List.mem_map.1 hname
      obtain ⟨w, hw, -⟩ := hvalues f hf
      exact Entries.mem_keys_of_mem (p := (f.1, w)) (Entries.mem_of_get? hw)
    have hkeys : (Entries.keys a).Perm (Entries.keys b) :=
      (ha.subperm hsubset).perm_of_length_le (by simp [Entries.keys, hlength])
    refine .object (fun name => ?_) fun name v w hv hw => ?_
    · rw [Bool.eq_iff_iff, Entries.has_iff, Entries.has_iff, hkeys.mem_iff]
    · obtain ⟨w', hw', hlike⟩ := hvalues (name, v) (Entries.mem_of_get? hv)
      cases hw'.symm.trans hw
      exact hlike

/-- Comparing two mappings tells whether they differ at most in the order of names. -/
theorem same_iff_alike {a b : Json} (ha : Mapping a) (hb : Mapping b) :
    Json.same a b = true ↔ Alike a b := by
  induction a using induct_fields generalizing b with
  | obj fields ih =>
    obtain ⟨hkeys, hvalues⟩ := mapping_obj_iff.1 ha
    cases hobject : b.isObject with
    | false =>
      obtain ⟨t, rfl⟩ := exists_str_of_isCleanValue hb.2 hobject
      exact ⟨nofun, nofun⟩
    | true =>
      obtain ⟨fields', rfl⟩ := eq_obj_of_isObject hobject
      obtain ⟨hkeys', hvalues'⟩ := mapping_obj_iff.1 hb
      rw [Json.same, Bool.and_eq_true, beq_iff_eq, sameFields_iff, alike_obj_iff hkeys hkeys']
      refine and_congr_right fun _ => forall₂_congr fun f hf => exists_congr fun w => ?_
      exact and_congr_right fun hw =>
        ih f hf (hvalues f hf) (hvalues' _ (Entries.mem_of_get? hw))
  | other a hobject =>
    obtain ⟨s, rfl⟩ := exists_str_of_isCleanValue ha.2 hobject
    cases hb' : b.isObject with
    | true =>
      obtain ⟨fields', rfl⟩ := eq_obj_of_isObject hb'
      exact ⟨nofun, nofun⟩
    | false =>
      obtain ⟨t, rfl⟩ := exists_str_of_isCleanValue hb.2 hb'
      rw [Json.same, beq_iff_eq]
      constructor
      · rintro rfl
        exact .text s
      · rintro ⟨⟩
        rfl

/-- **The canonical form forgets the order of names and nothing else.** Two mappings of texts have
one canonical form exactly if they are alike, as comparing them tells, too. So catalogs that differ
in the order of names only have one digest; and a catalog has a digest exactly if all its names and
texts have UTF-8 forms. -/
theorem canonical_identifies {a b : Catalog} (ha : Mapping (.obj a)) (hb : Mapping (.obj b)) :
    (canonical (.obj a) = canonical (.obj b) ↔ Alike (.obj a) (.obj b)) ∧
    (Json.same (.obj a) (.obj b) = true ↔ Alike (.obj a) (.obj b)) ∧
    (Alike (.obj a) (.obj b) → digest (.obj a) = digest (.obj b)) ∧
    ((∃ d, digest (.obj a) = .ok d) ↔ TextsIn Text.Encodable a) := by
  have hcanonical : canonical (.obj a) = canonical (.obj b) ↔ Alike (.obj a) (.obj b) :=
    (canonical_eq_iff_ordered ha hb).trans (ordered_eq_iff ha hb)
  refine ⟨hcanonical, same_iff_alike ha hb, fun halike => ?_, exists_digest_iff ha.2⟩
  rw [digest, digest, hcanonical.2 halike]

/-- The menu of a program. -/
def menu : Catalog := [("title", "Start"), ("menu", .obj [("open", "Open"), ("close", "Close")])]

/-- The same menu with its names in another order, at both depths. -/
def turnedMenu : Catalog :=
  [("menu", .obj [("close", "Close"), ("open", "Open")]), ("title", "Start")]

/-- A catalog of two texts. -/
def twoTexts : Catalog := [("a", "b"), ("c", "d")]

/-- A catalog of one text, which looks like the rest of the other catalog's form. -/
def oneText : Catalog := [("a", "b\",\"c\":\"d")]

/-- Two orders of one menu have one canonical form, and two catalogs that nearly collide have two.
-/
theorem canonical_identifies_menu :
    Mapping (.obj menu) ∧ Mapping (.obj turnedMenu) ∧ menu ≠ turnedMenu ∧
    canonical (.obj menu) = canonical (.obj turnedMenu) ∧
    digest (.obj menu) = digest (.obj turnedMenu) ∧
    Mapping (.obj twoTexts) ∧ Mapping (.obj oneText) ∧
    canonical (.obj twoTexts) ≠ canonical (.obj oneText) := by
  have hmenu : Mapping (.obj menu) :=
    ⟨⟨by decide, trivial, by decide, ⟨by decide, trivial, by decide, trivial, trivial⟩, trivial⟩,
      rfl⟩
  have hturned : Mapping (.obj turnedMenu) :=
    ⟨⟨by decide, ⟨by decide, trivial, by decide, trivial, trivial⟩, by decide, trivial, trivial⟩,
      rfl⟩
  have htwo : Mapping (.obj twoTexts) := ⟨⟨by decide, trivial, by decide, trivial, trivial⟩, rfl⟩
  have hone : Mapping (.obj oneText) := ⟨⟨by decide, trivial, trivial⟩, rfl⟩
  obtain ⟨hsame, hlike, hdigest, -⟩ := canonical_identifies hmenu hturned
  obtain ⟨hapart, hunlike, -, -⟩ := canonical_identifies htwo hone
  have halike := hlike.1 rfl
  have hnames : (Entries.keys menu) ≠ Entries.keys turnedMenu := by decide
  refine ⟨hmenu, hturned, fun h => hnames (congrArg _ h), hsame.2 halike, hdigest halike, htwo,
    hone, fun h => ?_⟩
  cases hunlike.2 (hapart.1 h)

end Catalog

end Localization
