import Localization.Proofs.Json.Reading
import Localization.Proofs.Text.Parts
import Localization.Proofs.Text.Utf8

/-!
# The code points of a written catalog

A written catalog is made of marks of its own (braces, quotes, commas, colons and blanks) and of the
escaped forms of its names and texts, so what all its code points have in common is decided by the
names and texts alone (`forall_mem_render_iff`), in every layout and with fields sorted or not. Two
uses: a written catalog has a UTF-8 form exactly if its names and texts have one, and it never holds
a carriage return.
-/

namespace Localization.Json

/-! ## Names and texts -/

mutual

/-- All names and texts at and below a value are as wanted, as far as a clean catalog has any. -/
def TextsAt (q : Text → Prop) : Json → Prop
  | .str t => q t
  | .obj fields => TextsIn q fields
  | _ => True

/-- All names and texts at and below fields are as wanted. -/
def TextsIn (q : Text → Prop) : List (Text × Json) → Prop
  | [] => True
  | (k, v) :: rest => q k ∧ TextsAt q v ∧ TextsIn q rest

end

/-- The texts at fields are as wanted when each name is and the texts at each value are. -/
theorem textsIn_iff {q : Text → Prop} {fields : List (Text × Json)} :
    TextsIn q fields ↔ ∀ f ∈ fields, q f.1 ∧ TextsAt q f.2 := by
  induction fields with
  | nil => simp [TextsIn]
  | cons f fields ih =>
    obtain ⟨k, v⟩ := f
    rw [TextsIn, ih, List.forall_mem_cons, and_assoc]

mutual

/-- What is true of all texts is true of the names and texts of a value. -/
theorem textsAt_of_forall {q : Text → Prop} (h : ∀ t, q t) : ∀ j : Json, TextsAt q j
  | .str t => h t
  | .obj fields => textsIn_of_forall h fields
  | .null | .bool _ | .int _ | .float _ | .arr _ => by simp [TextsAt]

/-- What is true of all texts is true of the names and texts of fields. -/
theorem textsIn_of_forall {q : Text → Prop} (h : ∀ t, q t) :
    ∀ fields : List (Text × Json), TextsIn q fields
  | [] => trivial
  | (k, v) :: rest => ⟨h k, textsAt_of_forall h v, textsIn_of_forall h rest⟩

end

mutual

/-- Cleaning brings no texts in. -/
theorem textsAt_cleanValue {q : Text → Prop} (drop : Bool) : ∀ {j w : Json}, TextsAt q j →
    Catalog.cleanValue drop j = some w → TextsAt q w
  | .str t, w, hj, h => by
    cases h
    exact hj
  | .obj fields, w, hj, h => by
    rw [Catalog.cleanValue] at h
    cases h
    exact textsIn_cleanFields drop fields hj
  | .null, w, _, h | .bool _, w, _, h | .int _, w, _, h | .float _, w, _, h | .arr _, w, _, h => by
    simp [Catalog.cleanValue] at h

/-- Cleaning fields brings no texts in. -/
theorem textsIn_cleanFields {q : Text → Prop} (drop : Bool) : ∀ fields : List (Text × Json),
    TextsIn q fields → TextsIn q (Catalog.cleanFields drop fields)
  | [], _ => by
    rw [Catalog.cleanFields]
    trivial
  | (k, v) :: rest, ⟨hk, hv, hrest⟩ => by
    have hrest' := textsIn_cleanFields drop rest hrest
    rw [Catalog.cleanFields]
    split
    next w hw =>
      split
      · exact hrest'
      · exact ⟨hk, textsAt_cleanValue drop hv hw, hrest'⟩
    next => exact hrest'

end

/-- Cleaning brings in no text. -/
theorem textsIn_clean {q : Text → Prop} (drop : Bool) {j : Json} (h : TextsAt q j) :
    TextsIn q (Catalog.clean drop j) := by
  unfold Catalog.clean
  split
  · exact textsIn_cleanFields drop _ h
  · trivial

/-! ## Written forms -/

/-- The marks that a document is made of, beside its names and texts. -/
def marks : List CodePoint :=
  [.scalar '{', .scalar '}', .scalar '"', .scalar ',', .scalar ':', .scalar ' ', .scalar '\n']

section

variable {p : CodePoint → Prop}

/-- What a quoted text has besides the escaped text are marks. -/
theorem forall_mem_quoteWith (hmarks : ∀ c ∈ marks, p c) (t : Text) :
    (∀ c ∈ quoteWith escapedPoint t, p c) ↔ ∀ c ∈ t.flatMap escapedPoint, p c := by
  have hquote : p (.scalar '"') := hmarks _ (by decide)
  rw [quoteWith, List.cons_append, List.forall_mem_cons, List.forall_mem_append,
    List.forall_mem_singleton]
  exact ⟨fun h => h.2.1, fun h => ⟨hquote, h, hquote⟩⟩

/-- A line break has only marks in it. -/
theorem forall_mem_lineBreak (hmarks : ∀ c ∈ marks, p c) (style : Style) (depth : Nat) :
    ∀ c ∈ style.lineBreak depth, p c := by
  intro c hc
  unfold Style.lineBreak at hc
  split at hc
  · cases hc
  · rcases List.mem_cons.1 hc with rfl | hc
    · exact hmarks _ (by decide)
    · rw [List.eq_of_mem_replicate hc]
      exact hmarks _ (by decide)

/-- The colon between a name and a value has only marks in it. -/
theorem forall_mem_colon (hmarks : ∀ c ∈ marks, p c) (style : Style) : ∀ c ∈ style.colon, p c := by
  intro c hc
  have hmem : c ∈ marks := by
    unfold Style.colon at hc
    split at hc
    · exact (by decide : ∀ c ∈ Text.ofString ":", c ∈ marks) c hc
    · exact (by decide : ∀ c ∈ Text.ofString ": ", c ∈ marks) c hc
  exact hmarks c hmem

/-- What encloses items are marks. -/
theorem forall_mem_enclose (hmarks : ∀ c ∈ marks, p c) (style : Style) (depth : Nat)
    (items : List Text) :
    (∀ c ∈ style.enclose depth '{' '}' items, p c) ↔ ∀ t ∈ items, ∀ c ∈ t, p c := by
  have hopen : p (.scalar '{') := hmarks _ (by decide)
  have hclose : p (.scalar '}') := hmarks _ (by decide)
  have hbreak := forall_mem_lineBreak hmarks style
  have hsep : ∀ c ∈ .scalar ',' :: style.lineBreak (depth + 1), p c :=
    List.forall_mem_cons.2 ⟨hmarks _ (by decide), hbreak _⟩
  unfold Style.enclose
  split
  next hempty =>
    rw [List.isEmpty_iff.1 hempty]
    simp [hopen, hclose]
  next =>
    simp only [List.cons_append, List.forall_mem_cons, List.forall_mem_append,
      Text.forall_mem_join hsep]
    exact ⟨fun h => h.2.1.1.2, fun h => ⟨hopen, ⟨⟨hbreak _, h⟩, hbreak _⟩, hclose, nofun⟩⟩

/-- The written names and values of an object are the fields of a list that is written, whatever
their order. -/
theorem forall_mem_written {style : Style} (hpoint : style.point = escapedPoint)
    (hmarks : ∀ c ∈ marks, p c) (depth : Nat) (fields : List (Text × Json)) :
    (∀ c ∈ write style depth (.obj fields), p c) ↔
      ∀ f ∈ fields, (∀ c ∈ f.1.flatMap escapedPoint, p c) ∧
        ∀ c ∈ write style (depth + 1) f.2, p c := by
  have hperm : ∀ g : Text × Text → Prop,
      (∀ f ∈ if style.sortFields then Entries.sorted (writeFields style (depth + 1) fields)
          else writeFields style (depth + 1) fields, g f) ↔
        ∀ f ∈ writeFields style (depth + 1) fields, g f := by
    intro g
    split
    · exact ⟨fun h f hf => h f ((Entries.perm_sorted _).subset hf),
        fun h f hf => h f ((Entries.perm_sorted _).symm.subset hf)⟩
    · exact Iff.rfl
  rw [write, forall_mem_enclose hmarks, List.forall_mem_map, hperm, writeFields_eq,
    List.forall_mem_map]
  refine forall₂_congr fun f _ => ?_
  rw [List.forall_mem_append, List.forall_mem_append, hpoint, forall_mem_quoteWith hmarks]
  exact and_congr_left fun _ => and_iff_left (forall_mem_colon hmarks style)

mutual

/-- What the code points of a written value have in common is decided by its names and texts. -/
theorem forall_mem_write_iff {style : Style} (hpoint : style.point = escapedPoint)
    (hmarks : ∀ c ∈ marks, p c) : ∀ (j : Json), Catalog.isCleanValue j = true → ∀ depth : Nat,
    ((∀ c ∈ write style depth j, p c) ↔
      TextsAt (fun t => ∀ c ∈ t.flatMap escapedPoint, p c) j)
  | .str t, _, depth => by
    rw [write, hpoint, TextsAt]
    exact forall_mem_quoteWith hmarks t
  | .obj fields, hclean, depth => by
    rw [forall_mem_written hpoint hmarks]
    exact forall_mem_writeFields_iff hpoint hmarks fields hclean (depth + 1)
  | .null, h, _ | .bool _, h, _ | .int _, h, _ | .float _, h, _ | .arr _, h, _ => by cases h

/-- What the code points of written fields have in common is decided by their names and texts. -/
theorem forall_mem_writeFields_iff {style : Style} (hpoint : style.point = escapedPoint)
    (hmarks : ∀ c ∈ marks, p c) : ∀ (fields : List (Text × Json)), Catalog.areClean fields = true →
    ∀ depth : Nat, ((∀ f ∈ fields, (∀ c ∈ f.1.flatMap escapedPoint, p c) ∧
        ∀ c ∈ write style depth f.2, p c) ↔
      TextsIn (fun t => ∀ c ∈ t.flatMap escapedPoint, p c) fields)
  | [], _, depth => by simp [TextsIn]
  | (k, v) :: rest, hclean, depth => by
    rw [Catalog.areClean, Bool.and_eq_true] at hclean
    rw [List.forall_mem_cons, TextsIn, forall_mem_write_iff hpoint hmarks v hclean.1 depth,
      forall_mem_writeFields_iff hpoint hmarks rest hclean.2 depth, and_assoc]

end

/-- What the code points of a written document have in common is decided by its names and texts. -/
theorem forall_mem_render_iff {style : Style} (hpoint : style.point = escapedPoint)
    (hmarks : ∀ c ∈ marks, p c) {j : Json} (hclean : Catalog.isCleanValue j = true) :
    (∀ c ∈ j.render style, p c) ↔ TextsAt (fun t => ∀ c ∈ t.flatMap escapedPoint, p c) j :=
  forall_mem_write_iff hpoint hmarks j hclean 0

end

/-! ## Encodable documents -/

/-- The escaped form of a code point is made of characters if it is one. -/
theorem encodable_escapedPoint (c : CodePoint) :
    (escapedPoint c).Encodable ↔ c.isSurrogate = false := by
  cases c with
  | surrogate i =>
    have hform : escapedPoint (.surrogate i) = [.surrogate i] := by
      have hlarge : ¬ (CodePoint.surrogate i).toNat < 0x20 := by
        simp only [CodePoint.toNat]
        omega
      simp [escapedPoint, hlarge]
    rw [hform]
    simp [Text.Encodable]
  | scalar c =>
    refine iff_of_true ?_ rfl
    have hcontrol : ∀ n < 0x20, ("\\u" ++ Text.hex 4 n).Encodable := by decide
    unfold escapedPoint
    split_ifs with _ _ _ _ _ _ _ h
    on_goal 8 => exact hcontrol _ h
    on_goal 8 => simp [Text.Encodable, CodePoint.isSurrogate]
    all_goals decide

/-- Escaping keeps a text with a UTF-8 form one, and makes none of another. -/
theorem encodable_flatMap_escapedPoint (t : Text) :
    Text.Encodable (t.flatMap escapedPoint) ↔ t.Encodable := by
  have hall : Text.Encodable (t.flatMap escapedPoint) ↔ ∀ c ∈ t, (escapedPoint c).Encodable := by
    simp only [Text.Encodable, List.forall_mem_flatMap]
  rw [hall]
  exact forall₂_congr fun c _ => encodable_escapedPoint c

/-- A written catalog has a UTF-8 form if all its names and texts have one, and only then. -/
theorem encodable_render_iff (style : Style) (hpoint : style.point = escapedPoint) {j : Json}
    (hclean : Catalog.isCleanValue j = true) :
    (j.render style).Encodable ↔ TextsAt Text.Encodable j := by
  have hmarks : ∀ c ∈ marks, c.isSurrogate = false := by decide
  have htexts : (fun t : Text => ∀ c ∈ t.flatMap escapedPoint, c.isSurrogate = false) =
      Text.Encodable := funext fun t => propext (encodable_flatMap_escapedPoint t)
  rw [Text.Encodable, forall_mem_render_iff hpoint hmarks hclean, htexts]

/-! ## Line ends -/

/-- No code point is escaped to a carriage return. -/
theorem return_not_mem_escapedPoint (c : CodePoint) : .scalar '\r' ∉ escapedPoint c := by
  have hcontrol : ∀ n < 0x20, CodePoint.scalar '\r' ∉ "\\u" ++ Text.hex 4 n := by decide
  unfold escapedPoint
  split_ifs with _ _ _ hreturn _ _ _ h
  on_goal 8 => exact hcontrol _ h
  on_goal 8 => exact fun hmem => hreturn (List.mem_singleton.1 hmem).symm
  all_goals decide

/-- A written catalog holds no carriage return. -/
theorem return_not_mem_render (style : Style) (hpoint : style.point = escapedPoint) {j : Json}
    (hclean : Catalog.isCleanValue j = true) : .scalar '\r' ∉ j.render style := by
  have hmarks : ∀ c ∈ marks, c ≠ .scalar '\r' := by decide
  have htexts : TextsAt (fun t => ∀ c ∈ t.flatMap escapedPoint, c ≠ .scalar '\r') j := by
    refine textsAt_of_forall (fun t c hc heq => ?_) j
    obtain ⟨d, -, hd⟩ := List.mem_flatMap.1 hc
    exact return_not_mem_escapedPoint d (heq ▸ hd)
  intro hmem
  exact (forall_mem_render_iff hpoint hmarks hclean).2 htexts _ hmem rfl

/-- A stored catalog holds no carriage return, with the line feed behind it. -/
theorem return_not_mem_stored {j : Json} (hclean : Catalog.isCleanValue j = true) :
    .scalar '\r' ∉ j.render .stored ++ "\n" := by
  intro hmem
  rcases List.mem_append.1 hmem with hmem | hmem
  · exact return_not_mem_render .stored rfl hclean hmem
  · exact absurd hmem (by decide)

/-- A stored catalog is read back with the line feed behind it. -/
theorem read_stored {j : Json} (hclean : Catalog.isCleanValue j = true)
    (hdistinct : Catalog.DistinctAt j) : read (j.render .stored ++ "\n") = .ok j := by
  have hgap : IsGapText (Text.ofString "\n") := by
    intro c hc
    rw [List.mem_singleton.1 hc]
    rfl
  exact read_render rfl rfl hclean hdistinct hgap

end Localization.Json
