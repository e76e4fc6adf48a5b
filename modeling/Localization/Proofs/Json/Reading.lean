import Mathlib.Data.List.TakeWhile
import Mathlib.Tactic.SplitIfs
import Localization.Json.Printer
import Localization.Json.Reader
import Localization.Proofs.Catalog.Clean
import Localization.Proofs.Results
import Localization.Proofs.Text.Order

/-!
# Reading back what was written

A clean catalog whose names are told apart is read back from its written form, in any layout that
keeps the order of fields (`read_render`). The argument follows the text: every code point of a
string is read back from its escape whatever comes after it, so a string is read back up to its
closing quote, a field up to what follows its value, and an object field by field; line breaks and
indentation are blanks that the reader skips. The fuel of the reader never runs out because no value
takes more steps than it has code points.

What is read has its names told apart, whatever the document (`distinctAt_read`): a name that comes
again takes the place it has.
-/

namespace Localization

namespace Json

/-! ## Strings -/

/-- The numbers of control characters are read back from four digits. -/
theorem hex_control : ∀ n < 0x20, (Text.hex 4 n).length = 4 ∧
    ((Text.hex 4 n).mapM CodePoint.hexDigit?).map (Text.fromDigits 16) = some n := by
  decide

/-- The four digits that are written for a control character are read back. -/
theorem fourHex?_control {n : Nat} (h : n < 0x20) (rest : Text) :
    fourHex? (Text.hex 4 n ++ rest) = some n := by
  obtain ⟨hlen, hread⟩ := hex_control n h
  have htake : (Text.hex 4 n ++ rest).take 4 = Text.hex 4 n := List.take_left' hlen
  rw [fourHex?, if_neg (by rw [List.length_append]; omega), htake, hread]

/-- An escape of one letter is read as what it stands for. -/
theorem readString_simpleEscape {c e : CodePoint} (h : simpleEscape? e = some c)
    (start fuel place : Nat) (rest : Text) :
    readString start (fuel + 1) ⟨place, .scalar '\\' :: e :: rest⟩ =
      (readString start fuel ⟨place + 2, rest⟩).map fun r => (c :: r.1, r.2) := by
  have hu : e ≠ .scalar 'u' := by
    rintro rfl
    simp [simpleEscape?] at h
  have hread : readString start (fuel + 1) ⟨place, .scalar '\\' :: e :: rest⟩ =
      (readString start fuel ⟨place + 2, rest⟩ >>= fun r => pure (c :: r.1, r.2)) := by
    rw [readString]
    split
    all_goals grind [Cursor.advance]
  rw [hread]
  cases readString start fuel ⟨place + 2, rest⟩ with
  | error f => rfl
  | ok r => rfl

/-- A control character is read from its number. -/
theorem readString_control {c : CodePoint} (h : c.toNat < 0x20) (start fuel place : Nat)
    (d : CodePoint) (rest : Text) :
    readString start (fuel + 1) ⟨place, "\\u" ++ Text.hex 4 c.toNat ++ d :: rest⟩ =
      (readString start fuel ⟨place + 6, d :: rest⟩).map fun r => (c :: r.1, r.2) := by
  obtain ⟨hlen, -⟩ := hex_control c.toNat h
  have hfour := fourHex?_control h (d :: rest)
  have hdrop : (Text.hex 4 c.toNat ++ d :: rest).drop 4 = d :: rest := List.drop_left' hlen
  have hlong : 5 ≤ (Text.hex 4 c.toNat ++ d :: rest).length := by
    simp only [List.length_append, List.length_cons]
    omega
  have htext : ("\\u" : Text) ++ Text.hex 4 c.toNat ++ d :: rest =
      .scalar '\\' :: .scalar 'u' :: (Text.hex 4 c.toNat ++ d :: rest) := rfl
  have hpair : ¬ (0xD800 ≤ c.toNat ∧ c.toNat < 0xDC00 ∧
      11 ≤ (Text.hex 4 c.toNat ++ d :: rest).length) := by omega
  rw [htext, readString]
  simp only [hfour, hlong, decide_true, if_neg hpair, CodePoint.ofNat_toNat]
  simp only [Cursor.advance, List.drop_succ_cons, hdrop]
  cases readString start fuel ⟨place + 6, d :: rest⟩ with
  | error f => rfl
  | ok r => rfl

/-- Any other character is read as it stands. -/
theorem readString_plain {c : CodePoint} (hquote : c ≠ .scalar '"') (hslash : c ≠ .scalar '\\')
    (h : ¬ c.toNat < 0x20) (start fuel place : Nat) (rest : Text) :
    readString start (fuel + 1) ⟨place, c :: rest⟩ =
      (readString start fuel ⟨place + 1, rest⟩).map fun r => (c :: r.1, r.2) := by
  have hread : readString start (fuel + 1) ⟨place, c :: rest⟩ =
      (readString start fuel ⟨place + 1, rest⟩ >>= fun r => pure (c :: r.1, r.2)) := by
    rw [readString]
    split
    all_goals grind [Cursor.advance]
  rw [hread]
  cases readString start fuel ⟨place + 1, rest⟩ with
  | error f => rfl
  | ok r => rfl

/-- How a code point is written: as a simple escape, by its number, or as it stands. -/
theorem escapedPoint_cases (c : CodePoint) :
    (∃ e, simpleEscape? e = some c ∧ escapedPoint c = [.scalar '\\', e]) ∨
    (c.toNat < 0x20 ∧ escapedPoint c = "\\u" ++ Text.hex 4 c.toNat) ∨
    (c ≠ .scalar '"' ∧ c ≠ .scalar '\\' ∧ ¬ c.toNat < 0x20 ∧ escapedPoint c = [c]) := by
  by_cases hquote : c = .scalar '"'
  · exact .inl ⟨.scalar '"', by rw [hquote]; rfl, by rw [hquote]; rfl⟩
  by_cases hslash : c = .scalar '\\'
  · exact .inl ⟨.scalar '\\', by rw [hslash]; rfl, by rw [hslash]; rfl⟩
  by_cases hfeed : c = .scalar '\n'
  · exact .inl ⟨.scalar 'n', hfeed ▸ rfl, hfeed ▸ rfl⟩
  by_cases hreturn : c = .scalar '\r'
  · exact .inl ⟨.scalar 'r', hreturn ▸ rfl, hreturn ▸ rfl⟩
  by_cases htab : c = .scalar '\t'
  · exact .inl ⟨.scalar 't', htab ▸ rfl, htab ▸ rfl⟩
  by_cases hform : c = .scalar '\x0c'
  · exact .inl ⟨.scalar 'f', hform ▸ rfl, hform ▸ rfl⟩
  by_cases hback : c = .scalar '\x08'
  · exact .inl ⟨.scalar 'b', hback ▸ rfl, hback ▸ rfl⟩
  rw [escapedPoint, if_neg hquote, if_neg hslash, if_neg hfeed, if_neg hreturn, if_neg htab,
    if_neg hform, if_neg hback]
  by_cases hcontrol : c.toNat < 0x20
  · exact .inr (.inl ⟨hcontrol, if_pos hcontrol⟩)
  · exact .inr (.inr ⟨hquote, hslash, hcontrol, if_neg hcontrol⟩)

/-- What is written for a code point is read as it, if something follows. -/
theorem readString_escapedPoint (c d : CodePoint) (start fuel place : Nat) (rest : Text) :
    ∃ n, readString start (fuel + 1) ⟨place, escapedPoint c ++ d :: rest⟩ =
      (readString start fuel ⟨n, d :: rest⟩).map fun r => (c :: r.1, r.2) := by
  rcases escapedPoint_cases c with
    ⟨e, he, hwritten⟩ | ⟨hcontrol, hwritten⟩ | ⟨hquote, hslash, hcontrol, hwritten⟩
  · rw [hwritten]
    exact ⟨_, readString_simpleEscape he ..⟩
  · rw [hwritten]
    exact ⟨_, readString_control hcontrol ..⟩
  · rw [hwritten]
    exact ⟨_, readString_plain hquote hslash hcontrol ..⟩

/-- The body of a string is read up to its closing quote. -/
theorem readString_body (t : Text) {fuel : Nat} (h : t.length < fuel) (start place : Nat)
    (rest : Text) :
    ∃ n, readString start fuel ⟨place, t.flatMap escapedPoint ++ .scalar '"' :: rest⟩ =
      .ok (t, ⟨n, rest⟩) := by
  induction t generalizing fuel place with
  | nil =>
    obtain ⟨fuel, rfl⟩ := Nat.exists_eq_add_of_lt h
    exact ⟨_, rfl⟩
  | cons c t ih =>
    obtain ⟨fuel, rfl⟩ : ∃ n, fuel = n + 1 := Nat.exists_eq_add_one.2 (Nat.zero_lt_of_lt h)
    obtain ⟨d, rest', hnext⟩ :
        ∃ d rest', t.flatMap escapedPoint ++ .scalar '"' :: rest = d :: rest' :=
      List.exists_cons_of_ne_nil (List.append_ne_nil_of_right_ne_nil _ (List.cons_ne_nil _ _))
    obtain ⟨n, hstep⟩ := readString_escapedPoint c d start fuel place rest'
    have hlength : t.length < fuel := Nat.lt_of_succ_lt_succ h
    obtain ⟨m, hrest⟩ := ih hlength n
    refine ⟨m, ?_⟩
    rw [List.flatMap_cons, List.append_assoc, hnext, hstep, ← hnext, hrest]
    rfl

/-- Escaping makes no text shorter. -/
theorem length_le_flatMap_escapedPoint (t : Text) : t.length ≤ (t.flatMap escapedPoint).length := by
  induction t with
  | nil => exact Nat.le_refl _
  | cons c t ih =>
    have hpoint : 1 ≤ (escapedPoint c).length := by
      rcases escapedPoint_cases c with ⟨e, -, hwritten⟩ | ⟨-, hwritten⟩ | ⟨-, -, -, hwritten⟩
      · rw [hwritten]
        exact Nat.le_add_left 1 _
      · rw [hwritten]
        exact Nat.le_add_left 1 _
      · rw [hwritten]
        exact Nat.le_refl 1
    simp only [List.flatMap_cons, List.length_append, List.length_cons]
    omega

/-- A quoted text is a quote, the escaped text and a quote. -/
theorem quoteWith_append (t rest : Text) : quoteWith escapedPoint t ++ rest =
    .scalar '"' :: (t.flatMap escapedPoint ++ .scalar '"' :: rest) := by
  simp [quoteWith]

/-- A string is read back, with as much fuel as there is text. -/
theorem readString_quoted (t rest : Text) (start place : Nat) :
    ∃ n, readString start ((t.flatMap escapedPoint ++ .scalar '"' :: rest).length + 1)
      ⟨place, t.flatMap escapedPoint ++ .scalar '"' :: rest⟩ = .ok (t, ⟨n, rest⟩) := by
  have hfuel : t.length < (t.flatMap escapedPoint ++ .scalar '"' :: rest).length + 1 := by
    have hle := length_le_flatMap_escapedPoint t
    simp only [List.length_append]
    omega
  exact readString_body t hfuel ..

/-! ## Values -/

/-- Blanks between tokens. -/
def IsGapText (t : Text) : Prop := ∀ c ∈ t, isGap c = true

/-- Blanks in front of a token are skipped. -/
theorem skipGap_append (gap : Text) (h : IsGapText gap) {c : CodePoint} (hc : isGap c = false)
    (place : Nat) (rest : Text) :
    (Cursor.mk place (gap ++ c :: rest)).skipGap = ⟨place + gap.length, c :: rest⟩ := by
  have htake : (gap ++ c :: rest).takeWhile isGap = gap := by
    rw [List.takeWhile_append_of_pos h, List.takeWhile_cons_of_neg (by simp [hc]), List.append_nil]
  simp only [Cursor.skipGap, Cursor.advance, htake, List.drop_left]

/-- A line break with its indent is blank. -/
theorem isGapText_lineBreak (style : Style) (depth : Nat) : IsGapText (style.lineBreak depth) := by
  unfold Style.lineBreak
  split
  · intro c hc
    cases hc
  · intro c hc
    rcases List.mem_cons.1 hc with rfl | hc
    · rfl
    · rw [List.eq_of_mem_replicate hc]
      rfl

/-- Behind the colon between a name and a value only blanks are written. -/
theorem colon_eq (style : Style) : ∃ gap, IsGapText gap ∧ style.colon = .scalar ':' :: gap := by
  unfold Style.colon
  split
  · exact ⟨[], nofun, rfl⟩
  · refine ⟨[.scalar ' '], fun c hc => ?_, rfl⟩
    rw [List.mem_singleton.1 hc]
    rfl

/-- What is enclosed begins with the opening mark. -/
theorem enclose_head (style : Style) (depth : Nat) (opening closing : Char) (items : List Text) :
    ∃ t, style.enclose depth opening closing items = .scalar opening :: t := by
  unfold Style.enclose
  split
  · exact ⟨_, rfl⟩
  · exact ⟨_, rfl⟩

/-- A text starts with a quote, an object with a brace. -/
theorem write_head {j : Json} (h : Catalog.isCleanValue j = true) (style : Style) (depth : Nat) :
    ∃ c t, write style depth j = .scalar c :: t ∧ (c = '"' ∨ c = '{') := by
  cases j with
  | str t => exact ⟨'"', _, rfl, .inl rfl⟩
  | obj fields =>
    obtain ⟨t, ht⟩ := enclose_head style depth '{' '}' _
    exact ⟨'{', t, by rw [write, ht], .inr rfl⟩
  | null | bool _ | int _ | float _ | arr _ => cases h

/-- What a string or an object begins with is no blank. -/
theorem isGap_head {c : Char} (h : c = '"' ∨ c = '{') : isGap (.scalar c) = false := by
  rcases h with rfl | rfl
  · rfl
  · rfl

/-- The text of a field of an object. -/
def fieldText (style : Style) (depth : Nat) (f : Text × Json) : Text :=
  quoteWith style.point f.1 ++ style.colon ++ write style depth f.2

/-- The texts of the fields of an object, with commas between them. -/
def fieldsText (style : Style) (depth : Nat) (fields : List (Text × Json)) : Text :=
  Text.join (.scalar ',' :: style.lineBreak depth) (fields.map (fieldText style depth))

/-- Fields are written each for itself. -/
theorem writeFields_eq (style : Style) (depth : Nat) (fields : List (Text × Json)) :
    writeFields style depth fields = fields.map fun f => (f.1, write style depth f.2) := by
  induction fields with
  | nil => rfl
  | cons f fields ih => rw [writeFields, ih, List.map_cons]

/-- The empty object is written as two braces. -/
theorem write_obj_nil {style : Style} (hsort : style.sortFields = false) (depth : Nat) :
    write style depth (.obj []) = [.scalar '{', .scalar '}'] := by
  rw [write, hsort]
  rfl

/-- An object is written as its fields between two line breaks in braces. -/
theorem write_obj_cons {style : Style} (hsort : style.sortFields = false) (depth : Nat)
    (f : Text × Json) (fields : List (Text × Json)) :
    write style depth (.obj (f :: fields)) =
      CodePoint.scalar '{' :: (style.lineBreak (depth + 1) ++
        (fieldsText style (depth + 1) (f :: fields) ++
          (style.lineBreak depth ++ [CodePoint.scalar '}']))) := by
  have hfields : ((writeFields style (depth + 1) (f :: fields)).map fun f =>
      quoteWith style.point f.1 ++ style.colon ++ f.2) =
      (f :: fields).map (fieldText style (depth + 1)) := by
    rw [writeFields_eq, List.map_map]
    rfl
  rw [write, hsort, if_neg Bool.false_ne_true, hfields]
  simp [Style.enclose, fieldsText]

/-- One field is written without a comma. -/
theorem fieldsText_singleton (style : Style) (depth : Nat) (f : Text × Json) :
    fieldsText style depth [f] = fieldText style depth f := by
  simp [fieldsText, Text.join, List.intercalate]

/-- Two fields are written with a comma between. -/
theorem fieldsText_cons_cons (style : Style) (depth : Nat) (f g : Text × Json)
    (fields : List (Text × Json)) :
    fieldsText style depth (f :: g :: fields) = fieldText style depth f ++
      .scalar ',' :: (style.lineBreak depth ++ fieldsText style depth (g :: fields)) := by
  simp [fieldsText, Text.join, List.intercalate]

/-- Fields begin with the quote of the first name. -/
theorem fieldsText_head (style : Style) (depth : Nat) (f : Text × Json)
    (fields : List (Text × Json)) :
    ∃ t, fieldsText style depth (f :: fields) = .scalar '"' :: t := by
  cases fields with
  | nil => exact ⟨_, fieldsText_singleton style depth f⟩
  | cons g fields => exact ⟨_, fieldsText_cons_cons style depth f g fields⟩

/-- Reading a field: its name and its value are read, and what comes then decides. -/
theorem readFields_field {style : Style} (hpoint : style.point = escapedPoint) {depth fuel : Nat}
    {k tail : Text} {v : Json} (hclean : Catalog.isCleanValue v = true)
    (hvalue : ∀ place, ∃ n,
      readValue fuel ⟨place, write style depth v ++ tail⟩ = .ok (v, ⟨n, tail⟩))
    (done : List (Text × Json)) (place : Nat) :
    ∃ n, readFields (fuel + 1) done ⟨place, fieldText style depth (k, v) ++ tail⟩ =
      match (Cursor.mk n tail).skipGap.rest with
      | .scalar '}' :: _ => .ok (Entries.set done k v, (Cursor.mk n tail).skipGap.advance 1)
      | .scalar ',' :: _ =>
        readFields fuel (Entries.set done k v) ((Cursor.mk n tail).skipGap.advance 1).skipGap
      | _ => (Cursor.mk n tail).skipGap.fail .expectedComma := by
  obtain ⟨gap, hgap, hcolon⟩ := colon_eq style
  obtain ⟨c, t, hwrite, hc⟩ := write_head hclean style depth
  rw [hwrite] at hvalue
  have htext : fieldText style depth (k, v) ++ tail =
      .scalar '"' :: (k.flatMap escapedPoint ++ .scalar '"' ::
        (.scalar ':' :: (gap ++ .scalar c :: (t ++ tail)))) := by
    rw [← quoteWith_append]
    simp [fieldText, hpoint, hcolon, hwrite]
  obtain ⟨n, hname⟩ := readString_quoted k (.scalar ':' :: (gap ++ .scalar c :: (t ++ tail))) place
    (place + 1)
  have hskip : (Cursor.mk n (.scalar ':' :: (gap ++ .scalar c :: (t ++ tail)))).skipGap =
      ⟨n, .scalar ':' :: (gap ++ .scalar c :: (t ++ tail))⟩ :=
    skipGap_append [] nofun rfl ..
  have hskip' : (Cursor.mk (n + 1) (gap ++ .scalar c :: (t ++ tail))).skipGap =
      ⟨n + 1 + gap.length, .scalar c :: (t ++ tail)⟩ := skipGap_append _ hgap (isGap_head hc) ..
  obtain ⟨m, hread⟩ := hvalue (n + 1 + gap.length)
  rw [List.cons_append] at hread
  refine ⟨m, ?_⟩
  rw [htext, readFields]
  simp only [Cursor.advance, List.drop_succ_cons, List.drop_zero, hname, bind, Except.bind, hskip,
    hskip', hread]
  rfl

section
variable {style : Style} {depth fuel : Nat}

/-- A string that is written is read back, whatever follows it. -/
theorem readValue_str (hpoint : style.point = escapedPoint) (t : Text) (place : Nat) (rest : Text) :
    ∃ n, readValue (fuel + 1) ⟨place, write style depth (.str t) ++ rest⟩ =
      .ok (.str t, ⟨n, rest⟩) := by
  obtain ⟨n, hread⟩ := readString_quoted t rest place (place + 1)
  refine ⟨n, ?_⟩
  rw [write, hpoint, quoteWith_append, readValue]
  simp only [Cursor.advance, List.drop_succ_cons, List.drop_zero, hread, bind, Except.bind]
  rfl

/-- The empty object is read back, whatever follows it. -/
theorem readValue_obj_nil (hsort : style.sortFields = false) (place : Nat) (rest : Text) :
    readValue (fuel + 1) ⟨place, write style depth (.obj []) ++ rest⟩ =
      .ok (.obj [], ⟨place + 2, rest⟩) := by
  have hskip : (Cursor.mk (place + 1) (.scalar '}' :: rest)).skipGap =
      ⟨place + 1, .scalar '}' :: rest⟩ := skipGap_append [] nofun rfl ..
  rw [write_obj_nil hsort, List.cons_append, List.cons_append, List.nil_append, readValue]
  simp only [Cursor.advance, List.drop_succ_cons, List.drop_zero, hskip]

/-- Reading an object: the line break after the brace is skipped, and then its fields are read. -/
theorem readValue_obj_cons (hsort : style.sortFields = false) {f : Text × Json}
    {fields : List (Text × Json)} {rest : Text}
    (hfields : ∀ place, ∃ n, readFields fuel []
        ⟨place, fieldsText style (depth + 1) (f :: fields) ++
          (style.lineBreak depth ++ .scalar '}' :: rest)⟩ =
      .ok (f :: fields, ⟨n, rest⟩)) (place : Nat) :
    ∃ n, readValue (fuel + 1) ⟨place, write style depth (.obj (f :: fields)) ++ rest⟩ =
      .ok (.obj (f :: fields), ⟨n, rest⟩) := by
  obtain ⟨n, hread⟩ := hfields (place + 1 + (style.lineBreak (depth + 1)).length)
  obtain ⟨t, hhead⟩ := fieldsText_head style (depth + 1) f fields
  rw [hhead] at hread
  rw [write_obj_cons hsort, hhead]
  have htext : .scalar '{' :: (style.lineBreak (depth + 1) ++ (.scalar '"' :: t ++
      (style.lineBreak depth ++ [.scalar '}']))) ++ rest = .scalar '{' ::
      (style.lineBreak (depth + 1) ++
        .scalar '"' :: (t ++ (style.lineBreak depth ++ .scalar '}' :: rest))) := by
    simp
  have hskip : (Cursor.mk (place + 1) (style.lineBreak (depth + 1) ++
      .scalar '"' :: (t ++ (style.lineBreak depth ++ .scalar '}' :: rest)))).skipGap =
      ⟨place + 1 + (style.lineBreak (depth + 1)).length,
        .scalar '"' :: (t ++ (style.lineBreak depth ++ .scalar '}' :: rest))⟩ :=
    skipGap_append _ (isGapText_lineBreak style _) rfl ..
  refine ⟨n, ?_⟩
  rw [htext, readValue]
  simp only [Cursor.advance, List.drop_succ_cons, List.drop_zero, hskip, bind, Except.bind]
  rw [← List.cons_append, hread]
  rfl

variable {k gap rest : Text} {v : Json} {done : List (Text × Json)}

/-- After the last field the brace is read. -/
theorem readFields_last (hpoint : style.point = escapedPoint)
    (hclean : Catalog.isCleanValue v = true)
    (hvalue : ∀ place, ∃ n, readValue fuel
        ⟨place, write style depth v ++ (gap ++ .scalar '}' :: rest)⟩ =
      .ok (v, ⟨n, gap ++ .scalar '}' :: rest⟩))
    (hgap : IsGapText gap) (hfresh : k ∉ Entries.keys done) (place : Nat) :
    ∃ n, readFields (fuel + 1) done
        ⟨place, fieldsText style depth [(k, v)] ++ (gap ++ .scalar '}' :: rest)⟩ =
      .ok (done ++ [(k, v)], ⟨n, rest⟩) := by
  obtain ⟨n, hfield⟩ := readFields_field hpoint hclean hvalue done place
  rw [skipGap_append _ hgap rfl] at hfield
  refine ⟨n + gap.length + 1, ?_⟩
  rw [fieldsText_singleton, hfield, Entries.set_of_not_mem done v hfresh]
  rfl

/-- After another field the comma and a line break are read, and then the rest of the fields. -/
theorem readFields_next (hpoint : style.point = escapedPoint)
    (hclean : Catalog.isCleanValue v = true) {g : Text × Json} {fields : List (Text × Json)}
    (hvalue : ∀ place, ∃ n, readValue fuel ⟨place, write style depth v ++
        (.scalar ',' :: (style.lineBreak depth ++
          (fieldsText style depth (g :: fields) ++ (gap ++ .scalar '}' :: rest))))⟩ =
      .ok (v, ⟨n, .scalar ',' :: (style.lineBreak depth ++
        (fieldsText style depth (g :: fields) ++ (gap ++ .scalar '}' :: rest)))⟩))
    (hfields : ∀ place, ∃ n, readFields fuel (Entries.set done k v)
        ⟨place, fieldsText style depth (g :: fields) ++ (gap ++ .scalar '}' :: rest)⟩ =
      .ok (Entries.set done k v ++ g :: fields, ⟨n, rest⟩))
    (hfresh : k ∉ Entries.keys done) (place : Nat) :
    ∃ n, readFields (fuel + 1) done
        ⟨place, fieldsText style depth ((k, v) :: g :: fields) ++ (gap ++ .scalar '}' :: rest)⟩ =
      .ok (done ++ (k, v) :: g :: fields, ⟨n, rest⟩) := by
  obtain ⟨n, hfield⟩ := readFields_field hpoint hclean hvalue done place
  obtain ⟨m, hread⟩ := hfields (n + 1 + (style.lineBreak depth).length)
  obtain ⟨t, hhead⟩ := fieldsText_head style depth g fields
  rw [hhead] at hread hfield
  have hcomma : (Cursor.mk n (.scalar ',' :: (style.lineBreak depth ++
      (.scalar '"' :: t ++ (gap ++ .scalar '}' :: rest))))).skipGap = ⟨n, .scalar ',' ::
      (style.lineBreak depth ++ (.scalar '"' :: t ++ (gap ++ .scalar '}' :: rest)))⟩ :=
    skipGap_append [] nofun rfl ..
  have hskip : (Cursor.mk (n + 1) (style.lineBreak depth ++
      (.scalar '"' :: t ++ (gap ++ .scalar '}' :: rest)))).skipGap =
      ⟨n + 1 + (style.lineBreak depth).length,
        .scalar '"' :: t ++ (gap ++ .scalar '}' :: rest)⟩ :=
    skipGap_append _ (isGapText_lineBreak style depth) rfl ..
  have htext : fieldText style depth (k, v) ++
      .scalar ',' :: (style.lineBreak depth ++ .scalar '"' :: t) ++ (gap ++ .scalar '}' :: rest) =
      fieldText style depth (k, v) ++ (.scalar ',' :: (style.lineBreak depth ++
        (.scalar '"' :: t ++ (gap ++ .scalar '}' :: rest)))) := by
    simp
  refine ⟨m, ?_⟩
  rw [fieldsText_cons_cons, hhead, htext, hfield, hcomma]
  simp only [Cursor.advance, List.drop_succ_cons, List.drop_zero]
  rw [hskip, hread, Entries.set_of_not_mem done v hfresh, List.append_assoc]
  rfl

end

mutual

/-- A text or a clean catalog whose names are told apart is read back where it is written. -/
theorem readValue_write {style : Style} (hpoint : style.point = escapedPoint)
    (hsort : style.sortFields = false) : ∀ (j : Json), Catalog.isCleanValue j = true →
    Catalog.DistinctAt j → ∀ (depth fuel place : Nat) (rest : Text),
    (write style depth j).length ≤ fuel →
    ∃ n, readValue fuel ⟨place, write style depth j ++ rest⟩ = .ok (j, ⟨n, rest⟩)
  | .str t, _, _, depth, fuel, place, rest, hfuel => by
    obtain ⟨fuel, rfl⟩ : ∃ n, fuel = n + 1 := by
      refine Nat.exists_eq_add_one.2 (Nat.lt_of_lt_of_le ?_ hfuel)
      simp [write, quoteWith]
    exact readValue_str hpoint t place rest
  | .obj [], _, _, depth, fuel, place, rest, hfuel => by
    rw [write_obj_nil hsort] at hfuel
    obtain ⟨fuel, rfl⟩ : ∃ n, fuel = n + 1 :=
      Nat.exists_eq_add_one.2 (Nat.lt_of_lt_of_le Nat.zero_lt_two hfuel)
    exact ⟨place + 2, readValue_obj_nil hsort place rest⟩
  | .obj (f :: fields), hclean, hdistinct, depth, fuel, place, rest, hfuel => by
    rw [write_obj_cons hsort] at hfuel
    simp only [List.length_cons, List.length_append] at hfuel
    obtain ⟨fuel, rfl⟩ : ∃ n, fuel = n + 1 := Nat.exists_eq_add_one.2 (by omega)
    exact readValue_obj_cons hsort (fun place => readFields_write hpoint hsort f fields hclean
      hdistinct (depth + 1) fuel place [] (style.lineBreak depth) rest
      (isGapText_lineBreak style depth) (fun f _ => List.not_mem_nil) (by omega)) place
  | .null, h, _, _, _, _, _, _ | .bool _, h, _, _, _, _, _, _ | .int _, h, _, _, _, _, _, _
  | .float _, h, _, _, _, _, _, _ | .arr _, h, _, _, _, _, _, _ => by
    cases h
termination_by j => sizeOf j

/-- The fields of an object are read back, after those that were read before. -/
theorem readFields_write {style : Style} (hpoint : style.point = escapedPoint)
    (hsort : style.sortFields = false) : ∀ (f : Text × Json) (fields : List (Text × Json)),
    Catalog.areClean (f :: fields) = true → Catalog.DistinctFields (f :: fields) →
    ∀ (depth fuel place : Nat) (done : List (Text × Json)) (gap rest : Text), IsGapText gap →
    (∀ g ∈ f :: fields, g.1 ∉ Entries.keys done) →
    (fieldsText style depth (f :: fields)).length ≤ fuel →
    ∃ n, readFields fuel done
        ⟨place, fieldsText style depth (f :: fields) ++ (gap ++ .scalar '}' :: rest)⟩ =
      .ok (done ++ f :: fields, ⟨n, rest⟩)
  | (k, v), [], hclean, hdistinct, depth, fuel, place, done, gap, rest, hgap, hfresh, hfuel => by
    simp only [Catalog.areClean, Bool.and_eq_true] at hclean
    rw [fieldsText_singleton] at hfuel
    simp only [fieldText, quoteWith, List.length_append, List.length_cons, List.length_nil] at hfuel
    obtain ⟨fuel, rfl⟩ : ∃ n, fuel = n + 1 := Nat.exists_eq_add_one.2 (by omega)
    exact readFields_last hpoint hclean.1 (fun place => readValue_write hpoint hsort v hclean.1
      hdistinct.2.1 depth fuel place _ (by omega)) hgap (hfresh (k, v) List.mem_cons_self) place
  | (k, v), g :: fields, hclean, hdistinct, depth, fuel, place, done, gap, rest, hgap, hfresh,
      hfuel => by
    rw [Catalog.areClean, Bool.and_eq_true] at hclean
    rw [fieldsText_cons_cons] at hfuel
    simp only [fieldText, quoteWith, List.length_append, List.length_cons, List.length_nil] at hfuel
    obtain ⟨fuel, rfl⟩ : ∃ n, fuel = n + 1 := Nat.exists_eq_add_one.2 (by omega)
    have hfresh' : ∀ h ∈ g :: fields, h.1 ∉ Entries.keys (Entries.set done k v) := by
      intro h hh
      rw [Entries.mem_keys_set, not_or]
      refine ⟨hfresh h (List.mem_cons_of_mem _ hh), ?_⟩
      rintro rfl
      exact hdistinct.1 (List.mem_map_of_mem hh)
    exact readFields_next hpoint hclean.1 (fun place => readValue_write hpoint hsort v hclean.1
      hdistinct.2.1 depth fuel place _ (by omega)) (fun place => readFields_write hpoint hsort g
      fields hclean.2 hdistinct.2.2 depth fuel place _ gap rest hgap hfresh' (by omega))
      (hfresh (k, v) List.mem_cons_self) place
termination_by f fields => sizeOf (f :: fields)

end

/-- A text or a clean catalog whose names are told apart is read back from its written form,
whatever blanks follow it. -/
theorem read_render {style : Style} (hpoint : style.point = escapedPoint)
    (hsort : style.sortFields = false) {j : Json} (hclean : Catalog.isCleanValue j = true)
    (hdistinct : Catalog.DistinctAt j) {gap : Text} (hgap : IsGapText gap) :
    read (j.render style ++ gap) = .ok j := by
  obtain ⟨c, t, hwrite, hc⟩ := write_head hclean style 0
  obtain ⟨n, hread⟩ := readValue_write hpoint hsort j hclean hdistinct 0
    (2 * (j.render style ++ gap).length + 2) 0 gap
    (by simp only [render, List.length_append]; omega)
  have hstart : (Cursor.mk 0 (write style 0 j ++ gap)).skipGap = ⟨0, write style 0 j ++ gap⟩ := by
    rw [hwrite]
    exact skipGap_append [] nofun (isGap_head hc) ..
  have hend : (Cursor.mk n gap).skipGap.rest = [] := by
    have htake : gap.takeWhile isGap = gap := List.takeWhile_eq_self_iff.2 hgap
    simp only [Cursor.skipGap, Cursor.advance, htake, List.drop_length]
  have hmark : ∀ rest, write style 0 j ++ gap ≠ .scalar '\uFEFF' :: rest := by
    intro rest heq
    rw [hwrite, List.cons_append] at heq
    rcases hc with rfl | rfl
    · cases heq
    · cases heq
  simp only [render] at hread ⊢
  rw [read]
  · simp only [hstart, hread, bind, Except.bind, hend, List.isEmpty_nil]
    rfl
  · exact hmark

/-! ## Names of what is read -/

/-- A number that is read has no names that could repeat. -/
theorem distinctAt_readNumber {cur next : Cursor} {j : Json} (h : readNumber cur = .ok (j, next)) :
    Catalog.DistinctAt j := by
  unfold readNumber at h
  grind [Catalog.DistinctAt, Cursor.fail]

/-- The values that words stand for have no names that could repeat. -/
theorem distinctAt_words : ∀ w ∈ words, Catalog.DistinctAt w.2 := by
  simp [words, Catalog.DistinctAt]

/-- Reading tells names apart: a name that comes again takes the place it has. -/
theorem distinct_reading (fuel : Nat) :
    (∀ {cur next : Cursor} {j : Json}, readValue fuel cur = .ok (j, next) → Catalog.DistinctAt j) ∧
    ∀ (done : List (Text × Json)) {fields : List (Text × Json)} {cur next : Cursor},
      Catalog.DistinctFields done →
      readFields fuel done cur = .ok (fields, next) → Catalog.DistinctFields fields := by
  induction fuel with
  | zero =>
    constructor
    · intro cur next j h
      cases h
    · intro done fields cur next hd h
      cases h
  | succ fuel ih =>
    obtain ⟨ihvalue, ihfields⟩ := ih
    constructor
    · intro cur next j h
      rw [readValue] at h
      split at h
      · obtain ⟨⟨t, next'⟩, -, h⟩ := bind_eq_ok.1 h
        cases h
        trivial
      · dsimp only at h
        split at h
        · cases h
          trivial
        · obtain ⟨⟨items, next'⟩, -, h⟩ := bind_eq_ok.1 h
          cases h
          trivial
      · dsimp only at h
        split at h
        · cases h
          trivial
        · obtain ⟨⟨fields, next'⟩, hread, h⟩ := bind_eq_ok.1 h
          cases h
          exact ihfields [] trivial hread
      · split at h
        next word value hfind =>
          cases h
          exact distinctAt_words _ (List.mem_of_find?_eq_some hfind)
        next => exact distinctAt_readNumber h
    · intro done fields cur next hdone h
      rw [readFields] at h
      split at h
      · obtain ⟨⟨name, next'⟩, -, h⟩ := bind_eq_ok.1 h
        dsimp only at h
        split at h
        · obtain ⟨⟨value, next''⟩, hvalue, h⟩ := bind_eq_ok.1 h
          have hset := Catalog.distinct_set hdone name (ihvalue hvalue)
          dsimp only at h
          split at h
          · cases h
            exact hset
          · exact ihfields _ hset h
          · cases h
        · cases h
      · cases h

/-- The names of a document that was read are told apart. -/
theorem distinctAt_read {document : Text} {j : Json} (h : read document = .ok j) :
    Catalog.DistinctAt j := by
  unfold read at h
  split at h
  · cases h
  · obtain ⟨⟨value, next⟩, hread, h⟩ := bind_eq_ok.1 h
    dsimp only at h
    split at h
    · cases h
      exact (distinct_reading _).1 hread
    · cases h

end Json

end Localization

