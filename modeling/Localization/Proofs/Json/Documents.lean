import Localization.Proofs.Json.Grammar

/-!
# Reading documents

Reading gives a value exactly for documents, and the value is the one that the document stands for
(`read_eq_ok_iff`): the reader's cursors, its fuel and the order in which it looks for faults make
no difference. Both ways are inductions. Over the grammar, each part of a document is read where it
stands (`Spells.isRead`); over the fuel, the outcome of each reading is accounted for by the grammar
(`accounts_reading`).

The same two inductions say which texts are refused although nothing is wrong with their form: those
with an integer of too many digits in the place of a value, behind parts of a document
(`exists_oversized_iff`).
-/

namespace Localization.Json

/-! ## Blanks -/

/-- The cursor skips blanks and nothing else. -/
theorem gap_skipGap (cur : Cursor) : Gap cur.rest cur.skipGap.rest := by
  refine ⟨cur.rest.takeWhile isGap, fun c hc => List.mem_takeWhile_imp hc, ?_⟩
  have htake := List.prefix_iff_eq_take.1 (List.takeWhile_prefix isGap (l := cur.rest))
  have hsplit := List.take_append_drop (cur.rest.takeWhile isGap).length cur.rest
  rw [← htake] at hsplit
  exact hsplit.symm

/-- Blanks are skipped up to what is none. -/
theorem Gap.skipGap_eq {t rest : Text} {c : CodePoint} (h : Gap t (c :: rest))
    (hc : isGap c = false) (place : Nat) :
    ∃ n, (Cursor.mk place t).skipGap = ⟨n, c :: rest⟩ := by
  obtain ⟨gap, hgap, rfl⟩ := h
  exact ⟨_, skipGap_append gap hgap hc place rest⟩

/-! ## Steps of reading -/

section

variable {t u rest : Text} (fuel place : Nat)

/-- A quote begins a string. -/
theorem readValue_string (t : Text) : readValue (fuel + 1) ⟨place, .scalar '"' :: t⟩ =
    readString place (t.length + 1) ⟨place + 1, t⟩ >>= fun r => pure (.str r.1, r.2) := by
  rw [readValue]
  rfl

/-- A bracket begins an array, which may end at once. -/
theorem readValue_array (t : Text) : readValue (fuel + 1) ⟨place, .scalar '[' :: t⟩ =
    match (Cursor.mk (place + 1) t).skipGap.rest with
    | .scalar ']' :: _ => .ok (.arr [], (Cursor.mk (place + 1) t).skipGap.advance 1)
    | _ => readItems fuel (Cursor.mk (place + 1) t).skipGap >>= fun r => pure (.arr r.1, r.2) := by
  rw [readValue]
  rfl

/-- A brace begins an object, which may end at once. -/
theorem readValue_object (t : Text) : readValue (fuel + 1) ⟨place, .scalar '{' :: t⟩ =
    match (Cursor.mk (place + 1) t).skipGap.rest with
    | .scalar '}' :: _ => .ok (.obj [], (Cursor.mk (place + 1) t).skipGap.advance 1)
    | _ => readFields fuel [] (Cursor.mk (place + 1) t).skipGap >>= fun r =>
      pure (.obj r.1, r.2) := by
  rw [readValue]
  rfl

/-- A word that stands for a value is read as it. -/
theorem readValue_word {word : Text} {j : Json} (h : (word, j) ∈ words) (rest : Text) :
    readValue (fuel + 1) ⟨place, word ++ rest⟩ = .ok (j, ⟨place + word.length, rest⟩) := by
  have hall : ∀ w ∈ words, readValue (fuel + 1) ⟨place, w.1 ++ rest⟩ =
      .ok (w.2, ⟨place + w.1.length, rest⟩) := by
    simp only [words, List.forall_mem_cons]
    exact ⟨rfl, rfl, rfl, rfl, rfl, rfl, List.forall_mem_nil _⟩
  exact hall _ h

/-- No word begins as a number does. -/
theorem find?_words (h : StartsNumber t) : words.find? (fun w => t.startsWith w.1) = none := by
  rw [List.find?_eq_none]
  intro w hw hstart
  have hall : ∀ w ∈ words, ∃ c u, w.1 = c :: u ∧ c.isAsciiDigit = false ∧
      (c = .scalar '-' → ∃ d v, u = d :: v ∧ d.isAsciiDigit = false) := by
    simp only [words, List.forall_mem_cons]
    refine ⟨⟨_, _, rfl, rfl, ?_⟩, ⟨_, _, rfl, rfl, ?_⟩, ⟨_, _, rfl, rfl, ?_⟩,
      ⟨_, _, rfl, rfl, ?_⟩, ⟨_, _, rfl, rfl, ?_⟩,
      ⟨_, _, rfl, rfl, fun _ => ⟨_, _, rfl, rfl⟩⟩, List.forall_mem_nil _⟩
    all_goals exact fun hminus => absurd hminus (by decide)
  obtain ⟨c, u, hword, hc, hminus⟩ := hall w hw
  obtain ⟨rest, ht⟩ := Text.startsWith_iff.1 hstart
  rw [hword] at ht
  obtain ⟨d, v, hd | hd, hdigit⟩ := h
  · cases ht.trans hd
    rw [hc] at hdigit
    cases hdigit
  · obtain ⟨rfl, htail⟩ := List.cons.inj (ht.trans hd)
    obtain ⟨d', v', rfl, hd'⟩ := hminus rfl
    cases htail
    rw [hd'] at hdigit
    cases hdigit

/-- Where a number starts, a number is read. -/
theorem readValue_number (h : StartsNumber t) :
    readValue (fuel + 1) ⟨place, t⟩ = readNumber ⟨place, t⟩ := by
  have hfind := find?_words h
  rw [readValue]
  dsimp only
  obtain ⟨c, u, hc, hdigit⟩ := h
  split
  next => rcases hc with hc | hc <;> cases hc; cases hdigit
  next => rcases hc with hc | hc <;> cases hc; cases hdigit
  next => rcases hc with hc | hc <;> cases hc; cases hdigit
  next => rw [hfind]

/-- An array with items in it is read by its items. -/
theorem readValue_items (hgap : Gap t u) (hu : StartsValue u) : ∃ n, ∀ fuel,
    readValue (fuel + 1) ⟨place, .scalar '[' :: t⟩ =
      readItems fuel ⟨n, u⟩ >>= fun r => pure (.arr r.1, r.2) := by
  obtain ⟨c, u, rfl, hc, hclose, -⟩ := hu
  obtain ⟨n, hskip⟩ := hgap.skipGap_eq hc (place + 1)
  refine ⟨n, fun fuel => ?_⟩
  rw [readValue_array, hskip]
  split
  next heq => exact absurd (List.cons.inj heq).1 hclose
  next => rfl

/-- An object with fields in it is read by its fields. -/
theorem readValue_fields (hgap : Gap t u) (hu : ∃ v, u = .scalar '"' :: v) : ∃ n, ∀ fuel,
    readValue (fuel + 1) ⟨place, .scalar '{' :: t⟩ =
      readFields fuel [] ⟨n, u⟩ >>= fun r => pure (.obj r.1, r.2) := by
  obtain ⟨v, rfl⟩ := hu
  obtain ⟨n, hskip⟩ := hgap.skipGap_eq rfl (place + 1)
  exact ⟨n, fun fuel => by rw [readValue_object, hskip]; rfl⟩

/-- Items are read one by one, with a comma between and a bracket behind. -/
theorem readItems_succ (t : Text) : readItems (fuel + 1) ⟨place, t⟩ =
    readValue fuel ⟨place, t⟩ >>= fun r =>
      match r.2.skipGap.rest with
      | .scalar ']' :: _ => pure ([r.1], r.2.skipGap.advance 1)
      | .scalar ',' :: _ => readItems fuel (r.2.skipGap.advance 1).skipGap >>= fun s =>
        pure (r.1 :: s.1, s.2)
      | _ => r.2.skipGap.fail .expectedComma :=
  rfl

/-- After an item and a comma the next items are read. -/
theorem readItems_next {v w : Text} {j : Json} {n : Nat}
    (hread : readValue fuel ⟨place, t⟩ = .ok (j, ⟨n, u⟩)) (hcomma : Gap u (.scalar ',' :: v))
    (hgap : Gap v w) (hw : StartsValue w) : ∃ m, readItems (fuel + 1) ⟨place, t⟩ =
      readItems fuel ⟨m, w⟩ >>= fun s => pure (j :: s.1, s.2) := by
  obtain ⟨m, hcomma⟩ := hcomma.skipGap_eq rfl n
  obtain ⟨c, w, rfl, hc, -⟩ := hw
  obtain ⟨k, hgap⟩ := hgap.skipGap_eq hc (m + 1)
  refine ⟨k, ?_⟩
  rw [readItems_succ, hread, ok_bind]
  simp only [hcomma, Cursor.advance, List.drop_succ_cons, List.drop_zero, hgap]

/-- What is left of an object after the value of a field, which was read up to a place. -/
def afterField (fuel : Nat) (done : List (Text × Json)) (cur : Cursor) :
    Except ReadFault (List (Text × Json) × Cursor) :=
  match cur.skipGap.rest with
  | .scalar '}' :: _ => .ok (done, cur.skipGap.advance 1)
  | .scalar ',' :: _ => readFields fuel done (cur.skipGap.advance 1).skipGap
  | _ => cur.skipGap.fail .expectedComma

/-- A field is read by its name, its value and what is left of the object. -/
theorem FieldName.readFields_eq {name : Text} (h : FieldName t name u) (hu : StartsValue u) :
    ∃ n, ∀ fuel done, readFields (fuel + 1) done ⟨place, t⟩ =
      readValue fuel ⟨n, u⟩ >>= fun r => afterField fuel (Entries.set done name r.1) r.2 := by
  obtain ⟨x, v, w, rfl, hbody, hcolon, hgap⟩ := h
  obtain ⟨n, hname⟩ := hbody.exists_readString place (x.length + 1) (place + 1) (Nat.le_succ _)
  obtain ⟨m, hcolon⟩ := hcolon.skipGap_eq rfl n
  obtain ⟨c, u, rfl, hc, -⟩ := hu
  obtain ⟨k, hgap⟩ := hgap.skipGap_eq hc (m + 1)
  refine ⟨k, fun fuel done => ?_⟩
  rw [readFields]
  simp only [Cursor.advance, List.drop_succ_cons, List.drop_zero, hname, ok_bind, hcolon, hgap]
  rfl

/-- Behind the last field the object ends. -/
theorem afterField_last (done : List (Text × Json)) (h : Gap t (.scalar '}' :: rest)) :
    ∃ n, afterField fuel done ⟨place, t⟩ = .ok (done, ⟨n, rest⟩) := by
  obtain ⟨n, hskip⟩ := h.skipGap_eq rfl place
  exact ⟨n + 1, by rw [afterField, hskip]; rfl⟩

/-- Behind a comma the next field is read. -/
theorem afterField_next (done : List (Text × Json)) {w : Text} (h : Gap t (.scalar ',' :: u))
    (hgap : Gap u w) (hw : ∃ v, w = .scalar '"' :: v) :
    ∃ n, afterField fuel done ⟨place, t⟩ = readFields fuel done ⟨n, w⟩ := by
  obtain ⟨n, hskip⟩ := h.skipGap_eq rfl place
  obtain ⟨v, rfl⟩ := hw
  obtain ⟨m, hgap⟩ := hgap.skipGap_eq rfl (n + 1)
  refine ⟨m, ?_⟩
  rw [afterField, hskip]
  simp only [Cursor.advance, List.drop_succ_cons, List.drop_zero, hgap]

end

/-! ## What is read -/

/-- The fields of an object after more fields came in. -/
def setAll (done fs : List (Text × Json)) : List (Text × Json) :=
  fs.foldl (fun e f => Entries.set e f.1 f.2) done

/-- How a part of a document is read where it stands. A value is read if nothing goes on with it
that could be a part of a number. -/
def Part.IsRead (t rest : Text) : Part → Prop
  | .value j => ∀ fuel place, Stops rest → 2 * t.length ≤ fuel →
    ∃ n, readValue fuel ⟨place, t⟩ = .ok (j, ⟨n, rest⟩)
  | .items js => ∀ fuel place, 2 * t.length < fuel →
    ∃ n, readItems fuel ⟨place, t⟩ = .ok (js, ⟨n, rest⟩)
  | .fields fs => ∀ fuel place done, 2 * t.length < fuel →
    ∃ n, readFields fuel done ⟨place, t⟩ = .ok (setAll done fs, ⟨n, rest⟩)

/-- What a text spells is read, by induction on the spelling. -/
theorem Spells.isRead {t rest : Text} {part : Part} (h : Spells t part rest) :
    part.IsRead t rest := by
  induction h with
  | @word word rest j hw =>
    intro fuel place _ hfuel
    obtain ⟨c, u, hstart, -⟩ := startsValue_word hw rest
    rw [hstart] at hfuel
    obtain ⟨fuel, rfl⟩ := Nat.exists_eq_succ_of_ne_zero (Nat.ne_zero_of_lt hfuel)
    exact ⟨_, readValue_word fuel place hw rest⟩
  | number hn =>
    intro fuel place hstops hfuel
    have hpos := hn.length_lt
    obtain ⟨fuel, rfl⟩ := Nat.exists_eq_add_one.2 (show 0 < fuel by omega)
    rw [readValue_number fuel place hn.startsNumber]
    exact hn.exists_readNumber hstops place
  | @string t s rest hbody =>
    intro fuel place _ hfuel
    obtain ⟨fuel, rfl⟩ := Nat.exists_eq_succ_of_ne_zero (Nat.ne_zero_of_lt hfuel)
    obtain ⟨n, hread⟩ := hbody.exists_readString place (t.length + 1) (place + 1) (Nat.le_succ _)
    exact ⟨n, by rw [readValue_string, hread]; rfl⟩
  | emptyArray hgap =>
    intro fuel place _ hfuel
    obtain ⟨fuel, rfl⟩ := Nat.exists_eq_succ_of_ne_zero (Nat.ne_zero_of_lt hfuel)
    obtain ⟨n, hskip⟩ := hgap.skipGap_eq rfl (place + 1)
    exact ⟨n + 1, by rw [readValue_array, hskip]; rfl⟩
  | array hgap hitems ih =>
    intro fuel place _ hfuel
    rw [List.length_cons] at hfuel
    have hlength := hgap.length_le
    obtain ⟨fuel, rfl⟩ := Nat.exists_eq_add_one.2 (show 0 < fuel by omega)
    obtain ⟨n, hread⟩ := readValue_items place hgap hitems.startsValue
    obtain ⟨m, hitems⟩ := ih fuel n (by omega)
    exact ⟨m, by rw [hread, hitems]; rfl⟩
  | emptyObject hgap =>
    intro fuel place _ hfuel
    obtain ⟨fuel, rfl⟩ := Nat.exists_eq_succ_of_ne_zero (Nat.ne_zero_of_lt hfuel)
    obtain ⟨n, hskip⟩ := hgap.skipGap_eq rfl (place + 1)
    exact ⟨n + 1, by rw [readValue_object, hskip]; rfl⟩
  | object hgap hfields ih =>
    intro fuel place _ hfuel
    rw [List.length_cons] at hfuel
    have hlength := hgap.length_le
    obtain ⟨fuel, rfl⟩ := Nat.exists_eq_add_one.2 (show 0 < fuel by omega)
    obtain ⟨n, hread⟩ := readValue_fields place hgap hfields.startsValue
    obtain ⟨m, hfields⟩ := ih fuel n [] (by omega)
    exact ⟨m, by rw [hread, hfields]; rfl⟩
  | lastItem hvalue hgap ih =>
    intro fuel place hfuel
    obtain ⟨fuel, rfl⟩ := Nat.exists_eq_succ_of_ne_zero (Nat.ne_zero_of_lt hfuel)
    obtain ⟨n, hread⟩ := ih fuel place (hgap.stops_of_closer (by decide)) (Nat.le_of_lt_succ hfuel)
    obtain ⟨m, hskip⟩ := hgap.skipGap_eq rfl n
    exact ⟨m + 1, by rw [readItems_succ, hread, ok_bind, hskip]; rfl⟩
  | item hvalue hcomma hgap hitems ih ih' =>
    intro fuel place hfuel
    have hlength := hvalue.length_lt
    have hlength' := hcomma.length_le
    have hlength'' := hgap.length_le
    rw [List.length_cons] at hlength'
    obtain ⟨fuel, rfl⟩ := Nat.exists_eq_succ_of_ne_zero (Nat.ne_zero_of_lt hfuel)
    obtain ⟨n, hread⟩ := ih fuel place (hcomma.stops_of_closer (by decide))
      (Nat.le_of_lt_succ hfuel)
    obtain ⟨m, hnext⟩ := readItems_next fuel place hread hcomma hgap hitems.startsValue
    obtain ⟨k, hrest⟩ := ih' fuel m (by omega)
    exact ⟨k, by rw [hnext, hrest]; rfl⟩
  | lastField hname hvalue hgap ih =>
    intro fuel place done hfuel
    have hlength := hname.length_lt
    obtain ⟨fuel, rfl⟩ := Nat.exists_eq_succ_of_ne_zero (Nat.ne_zero_of_lt hfuel)
    obtain ⟨n, hstep⟩ := hname.readFields_eq place hvalue.startsValue
    obtain ⟨m, hread⟩ := ih fuel n (hgap.stops_of_closer (by decide)) (by omega)
    obtain ⟨k, hrest⟩ := afterField_last fuel m (Entries.set done _ _) hgap
    exact ⟨k, by rw [hstep, hread, ok_bind, hrest]; rfl⟩
  | field hname hvalue hcomma hgap hfields ih ih' =>
    intro fuel place done hfuel
    have hlength := hname.length_lt.trans' hvalue.length_lt
    have hlength' := hcomma.length_le
    have hlength'' := hgap.length_le
    rw [List.length_cons] at hlength'
    obtain ⟨fuel, rfl⟩ := Nat.exists_eq_succ_of_ne_zero (Nat.ne_zero_of_lt hfuel)
    obtain ⟨n, hstep⟩ := hname.readFields_eq place hvalue.startsValue
    obtain ⟨m, hread⟩ := ih fuel n (hcomma.stops_of_closer (by decide))
      (by have := hname.length_lt; omega)
    obtain ⟨k, hnext⟩ := afterField_next fuel m (Entries.set done _ _) hcomma hgap
      hfields.startsValue
    obtain ⟨l, hrest⟩ := ih' fuel k (Entries.set done _ _) (by omega)
    exact ⟨l, by rw [hstep, hread, ok_bind, hnext, hrest]; rfl⟩

/-- How an integer that is too long is refused where it stands. -/
def Place.Refuses (t : Text) : Place → Prop
  | .value => ∀ fuel place, 2 * t.length ≤ fuel →
    ∃ k p, readValue fuel ⟨place, t⟩ = .error ⟨.oversizedInteger k, p⟩
  | .items => ∀ fuel place, 2 * t.length < fuel →
    ∃ k p, readItems fuel ⟨place, t⟩ = .error ⟨.oversizedInteger k, p⟩
  | .fields => ∀ fuel place done, 2 * t.length < fuel →
    ∃ k p, readFields fuel done ⟨place, t⟩ = .error ⟨.oversizedInteger k, p⟩

/-- A document with an integer that is too long is refused for it, by induction on what stands in
front. -/
theorem Overruns.refuses {t : Text} {place : Place} (h : Overruns t place) : place.Refuses t := by
  induction h with
  | number hn =>
    intro fuel place hfuel
    obtain ⟨c, u, hstart, -⟩ := hn.startsNumber.startsValue
    rw [hstart] at hfuel
    obtain ⟨fuel, rfl⟩ := Nat.exists_eq_succ_of_ne_zero (Nat.ne_zero_of_lt hfuel)
    rw [readValue_number fuel place hn.startsNumber]
    obtain ⟨k, hread⟩ := hn.exists_readNumber place
    exact ⟨k, place, hread⟩
  | array hgap hitems ih =>
    intro fuel place hfuel
    rw [List.length_cons] at hfuel
    have hlength := hgap.length_le
    obtain ⟨fuel, rfl⟩ := Nat.exists_eq_add_one.2 (show 0 < fuel by omega)
    obtain ⟨n, hstep⟩ := readValue_items place hgap hitems.startsValue
    obtain ⟨k, p, hread⟩ := ih fuel n (by omega)
    exact ⟨k, p, by rw [hstep, hread]; rfl⟩
  | object hgap hfields ih =>
    intro fuel place hfuel
    rw [List.length_cons] at hfuel
    have hlength := hgap.length_le
    obtain ⟨fuel, rfl⟩ := Nat.exists_eq_add_one.2 (show 0 < fuel by omega)
    obtain ⟨n, hstep⟩ := readValue_fields place hgap hfields.startsValue
    obtain ⟨k, p, hread⟩ := ih fuel n [] (by omega)
    exact ⟨k, p, by rw [hstep, hread]; rfl⟩
  | item _ ih =>
    intro fuel place hfuel
    obtain ⟨fuel, rfl⟩ := Nat.exists_eq_succ_of_ne_zero (Nat.ne_zero_of_lt hfuel)
    obtain ⟨k, p, hread⟩ := ih fuel place (Nat.le_of_lt_succ hfuel)
    exact ⟨k, p, by rw [readItems_succ, hread]; rfl⟩
  | laterItem hvalue hcomma hgap hitems ih =>
    intro fuel place hfuel
    have hlength := hvalue.length_lt
    have hlength' := hcomma.length_le
    have hlength'' := hgap.length_le
    rw [List.length_cons] at hlength'
    obtain ⟨fuel, rfl⟩ := Nat.exists_eq_succ_of_ne_zero (Nat.ne_zero_of_lt hfuel)
    obtain ⟨n, hread⟩ := hvalue.isRead fuel place (hcomma.stops_of_closer (by decide))
      (Nat.le_of_lt_succ hfuel)
    obtain ⟨m, hnext⟩ := readItems_next fuel place hread hcomma hgap hitems.startsValue
    obtain ⟨k, p, hrest⟩ := ih fuel m (by omega)
    exact ⟨k, p, by rw [hnext, hrest]; rfl⟩
  | field hname hvalue ih =>
    intro fuel place done hfuel
    have hlength := hname.length_lt
    obtain ⟨fuel, rfl⟩ := Nat.exists_eq_succ_of_ne_zero (Nat.ne_zero_of_lt hfuel)
    obtain ⟨n, hstep⟩ := hname.readFields_eq place hvalue.startsValue
    obtain ⟨k, p, hread⟩ := ih fuel n (by omega)
    exact ⟨k, p, by rw [hstep, hread]; rfl⟩
  | laterField hname hvalue hcomma hgap hfields ih =>
    intro fuel place done hfuel
    have hlength := hname.length_lt
    have hlength' := hvalue.length_lt
    have hlength'' := hcomma.length_le.trans' (Nat.succ_le_succ hgap.length_le)
    obtain ⟨fuel, rfl⟩ := Nat.exists_eq_succ_of_ne_zero (Nat.ne_zero_of_lt hfuel)
    obtain ⟨n, hstep⟩ := hname.readFields_eq place hvalue.startsValue
    obtain ⟨m, hread⟩ := hvalue.isRead fuel n (hcomma.stops_of_closer (by decide)) (by omega)
    obtain ⟨k, hnext⟩ := afterField_next fuel m (Entries.set done _ _) hcomma hgap
      hfields.startsValue
    obtain ⟨l, p, hrest⟩ := ih fuel k (Entries.set done _ _) (by omega)
    exact ⟨l, p, by rw [hstep, hread, ok_bind, hnext, hrest]⟩

/-! ## What is accounted for -/

/-- What the outcome of reading says about the text it was read from: a result is what the text
spells, and what is refused without being malformed overruns. -/
def Accounts {α : Type} (t : Text) (place : Place) (spells : α → Text → Prop) :
    Except ReadFault (α × Cursor) → Prop
  | .ok (a, next) => spells a next.rest
  | .error f => f.fault.isMalformed = false → Overruns t place

/-- What the fields of an object, read after others, say about the text. -/
def SpellsAfter (done : List (Text × Json)) (t : Text) (fields : List (Text × Json))
    (rest : Text) : Prop :=
  ∃ fs, Spells t (.fields fs) rest ∧ fields = setAll done fs

/-- The values that are read with some fuel are accounted for. -/
def AccountsValues (fuel : Nat) : Prop :=
  ∀ cur : Cursor, Accounts cur.rest .value (fun j => Spells cur.rest (.value j))
    (readValue fuel cur)

/-- The items that are read with some fuel are accounted for. -/
def AccountsItems (fuel : Nat) : Prop :=
  ∀ cur : Cursor, Accounts cur.rest .items (fun js => Spells cur.rest (.items js))
    (readItems fuel cur)

/-- The fields that are read with some fuel are accounted for, whatever was read before them. -/
def AccountsFields (fuel : Nat) : Prop :=
  ∀ (done : List (Text × Json)) (cur : Cursor),
    Accounts cur.rest .fields (SpellsAfter done cur.rest) (readFields fuel done cur)

section

variable {α β : Type} {t u : Text} {place place' : Place} {spells : α → Text → Prop}
  {spells' : β → Text → Prop}

/-- A failure over malformed text is accounted for. -/
theorem accounts_fail {cur : Cursor} {fault : Fault} (h : fault.isMalformed = true) :
    Accounts t place spells (cur.fail fault) := by
  intro hfault
  rw [h] at hfault
  cases hfault

/-- Of two readings in a row the first one accounts for what it refuses, and for the second one. -/
theorem Accounts.bind {x : Except ReadFault (α × Cursor)}
    {f : α × Cursor → Except ReadFault (β × Cursor)} (h : Accounts u place' spells x)
    (hrefused : Overruns u place' → Overruns t place)
    (hnext : ∀ a next, spells a next.rest → Accounts t place spells' (f (a, next))) :
    Accounts t place spells' (x >>= f) := by
  cases x with
  | error e => exact fun hfault => hrefused (h hfault)
  | ok r => exact hnext r.1 r.2 h

/-- What the reader of numbers returns or refuses is accounted for. -/
theorem accounts_readNumber (cur : Cursor) :
    Accounts cur.rest .value (fun j => Spells cur.rest (.value j)) (readNumber cur) := by
  rcases readNumber_numeral cur.place cur.rest with
    ⟨j, n, rest, hread, hnumeral⟩ | ⟨k, hread, hoverlong⟩ | hread
  · rw [hread]
    exact .number hnumeral
  · rw [hread]
    exact fun _ => .number hoverlong
  · rw [hread]
    exact accounts_fail rfl

/-- The rest of a cursor after a mark. -/
theorem rest_advance {cur : Cursor} {c : CodePoint} (h : cur.rest = c :: t) :
    (cur.advance 1).rest = t := by
  rw [Cursor.advance, h]
  rfl

/-- The code point behind the blanks is the one the cursor comes to. -/
theorem gap_of_skipGap {cur : Cursor} {c : CodePoint} (h : cur.skipGap.rest = c :: t) :
    Gap cur.rest (c :: t) :=
  h ▸ gap_skipGap cur

/-- Behind a mark the cursor skips the next blanks. -/
theorem gap_advance {cur : Cursor} {c : CodePoint} (h : cur.rest = c :: t) :
    Gap t (cur.advance 1).skipGap.rest := by
  have hgap := gap_skipGap (cur.advance 1)
  rwa [rest_advance h] at hgap

variable {fuel : Nat}

/-- Items are accounted for with one unit of fuel more than their values and the items behind. -/
theorem accountsItems_succ (hvalue : AccountsValues fuel) (hitems : AccountsItems fuel) :
    AccountsItems (fuel + 1) := by
  intro cur
  rw [readItems_succ]
  refine (hvalue cur).bind .item fun j next hj => ?_
  dsimp only
  split
  next rest hclose =>
    have hgap := gap_of_skipGap hclose
    rw [← rest_advance hclose] at hgap
    exact .lastItem hj hgap
  next rest hcomma =>
    have hgap := gap_of_skipGap hcomma
    refine (hitems _).bind (.laterItem hj hgap (gap_advance hcomma)) fun js final hjs => ?_
    exact .item hj hgap (gap_advance hcomma) hjs
  next => exact accounts_fail rfl

/-- A field is a name, a colon and a value, with the other fields behind. -/
theorem readFields_string (done : List (Text × Json)) (place : Nat) (t : Text) :
    readFields (fuel + 1) done ⟨place, .scalar '"' :: t⟩ =
      readString place (t.length + 1) ⟨place + 1, t⟩ >>= fun r =>
        match r.2.skipGap.rest with
        | .scalar ':' :: _ => readValue fuel (r.2.skipGap.advance 1).skipGap >>= fun s =>
          afterField fuel (Entries.set done r.1 s.1) s.2
        | _ => r.2.skipGap.fail .expectedColon := by
  rw [readFields]
  rfl

/-- Fields are accounted for with one unit of fuel more than their values and the fields behind. -/
theorem accountsFields_succ (hvalue : AccountsValues fuel) (hfields : AccountsFields fuel) :
    AccountsFields (fuel + 1) := by
  intro done cur
  by_cases hquote : ∃ t, cur.rest = .scalar '"' :: t
  · obtain ⟨place, t⟩ := cur
    obtain ⟨t, rfl⟩ := hquote
    rw [readFields_string]
    cases hname : readString place (t.length + 1) ⟨place + 1, t⟩ with
    | error f =>
      intro hfault
      rw [isMalformed_of_readString hname] at hfault
      cases hfault
    | ok r =>
      obtain ⟨name, next⟩ := r
      have hbody := body_of_readString hname
      rw [ok_bind]
      dsimp only
      split
      next rest hcolon =>
        have hname : FieldName (.scalar '"' :: t) name (next.skipGap.advance 1).skipGap.rest :=
          ⟨t, _, _, rfl, hbody, gap_of_skipGap hcolon, gap_advance hcolon⟩
        refine (hvalue _).bind (.field hname) fun j next hj => ?_
        dsimp only
        unfold afterField
        split
        next rest hclose =>
          have hgap := gap_of_skipGap hclose
          rw [← rest_advance hclose] at hgap
          exact ⟨_, .lastField hname hj hgap, rfl⟩
        next rest hcomma =>
          have hgap := gap_of_skipGap hcomma
          have hrest := hfields (Entries.set done name j) (next.skipGap.advance 1).skipGap
          cases hread : readFields fuel (Entries.set done name j)
              (next.skipGap.advance 1).skipGap with
          | error f =>
            rw [hread] at hrest
            exact fun hfault => .laterField hname hj hgap (gap_advance hcomma) (hrest hfault)
          | ok r =>
            rw [hread] at hrest
            obtain ⟨fs, hfs, heq⟩ := hrest
            exact ⟨_, .field hname hj hgap (gap_advance hcomma) hfs, heq⟩
        next => exact accounts_fail rfl
      next => exact accounts_fail rfl
  · rw [readFields]
    split
    next t ht => exact absurd ⟨t, ht⟩ hquote
    next => exact accounts_fail rfl

/-- What is no string, array or object is a word or a number. -/
theorem readValue_other {cur : Cursor} (h : ∀ c t, cur.rest = c :: t →
      c ≠ .scalar '"' ∧ c ≠ .scalar '[' ∧ c ≠ .scalar '{') :
    readValue (fuel + 1) cur = match words.find? fun w => cur.rest.startsWith w.1 with
      | some (word, value) => .ok (value, cur.advance word.length)
      | none => readNumber cur := by
  rw [readValue]
  split
  next heq => exact absurd rfl (h _ _ heq).1
  next heq => exact absurd rfl (h _ _ heq).2.1
  next heq => exact absurd rfl (h _ _ heq).2.2
  next => rfl

/-- Values are accounted for with one unit of fuel more than their items and fields. -/
theorem accountsValues_succ (hitems : AccountsItems fuel) (hfields : AccountsFields fuel) :
    AccountsValues (fuel + 1) := by
  intro cur
  by_cases hother : ∀ c t, cur.rest = c :: t →
      c ≠ .scalar '"' ∧ c ≠ .scalar '[' ∧ c ≠ .scalar '{'
  · rw [readValue_other hother]
    split
    next word j hfind =>
      have hstart := List.find?_some hfind
      obtain ⟨rest, hrest⟩ := Text.startsWith_iff.1 hstart
      have hadvance : (cur.advance word.length).rest = rest := by
        rw [Cursor.advance, ← hrest, List.drop_left]
      have hspells : Spells (word ++ rest) (.value j) rest :=
        .word (List.mem_of_find?_eq_some hfind)
      rw [← hadvance] at hspells
      rw [← hrest, ← hadvance]
      exact hspells
    next => exact accounts_readNumber cur
  · obtain ⟨place, t⟩ := cur
    push Not at hother
    obtain ⟨c, t, rfl, hc⟩ := hother
    by_cases hquote : c = .scalar '"'
    · subst hquote
      rw [readValue_string]
      cases hread : readString place (t.length + 1) ⟨place + 1, t⟩ with
      | error f =>
        intro hfault
        rw [isMalformed_of_readString hread] at hfault
        cases hfault
      | ok r => exact .string (body_of_readString hread)
    by_cases hbracket : c = .scalar '['
    · subst hbracket
      rw [readValue_array]
      split
      next rest hclose =>
        have hgap := gap_of_skipGap hclose
        rw [← rest_advance hclose] at hgap
        exact .emptyArray hgap
      next =>
        exact (hitems _).bind (.array (gap_skipGap ⟨place + 1, t⟩))
          fun js next hjs => .array (gap_skipGap ⟨place + 1, t⟩) hjs
    · obtain rfl := hc hquote hbracket
      rw [readValue_object]
      split
      next rest hclose =>
        have hgap := gap_of_skipGap hclose
        rw [← rest_advance hclose] at hgap
        exact .emptyObject hgap
      next =>
        refine (hfields [] _).bind (.object (gap_skipGap ⟨place + 1, t⟩)) ?_
        rintro fields next ⟨fs, hfs, rfl⟩
        exact .object (gap_skipGap ⟨place + 1, t⟩) hfs

/-- Whatever is read is accounted for. -/
theorem accounts_reading (fuel : Nat) :
    AccountsValues fuel ∧ AccountsItems fuel ∧ AccountsFields fuel := by
  induction fuel with
  | zero =>
    exact ⟨fun _ => accounts_fail rfl, fun _ => accounts_fail rfl, fun _ _ => accounts_fail rfl⟩
  | succ fuel ih =>
    obtain ⟨hvalue, hitems, hfields⟩ := ih
    exact ⟨accountsValues_succ hitems hfields, accountsItems_succ hvalue hitems,
      accountsFields_succ hvalue hfields⟩

end

/-! ## Documents -/

/-- The mark that no document begins with. -/
def byteOrderMark : CodePoint := .scalar '\uFEFF'

/-- A document is read as one value with nothing but blanks behind. -/
theorem read_eq {t : Text} (h : ∀ u, t ≠ byteOrderMark :: u) :
    read t = readValue (2 * t.length + 2) (Cursor.mk 0 t).skipGap >>= fun r =>
      if r.2.skipGap.rest.isEmpty then pure r.1 else r.2.skipGap.fail .extraData := by
  unfold read
  split
  next => exact absurd rfl (h _)
  next => rfl

/-- A document in front of a value does not begin with a byte order mark. -/
theorem Gap.ne_mark {t u v : Text} (h : Gap t u) (hu : StartsValue u) : t ≠ byteOrderMark :: v := by
  obtain ⟨gap, hgap, rfl⟩ := h
  intro heq
  cases gap with
  | nil =>
    obtain ⟨c, u, rfl, -, -, hc⟩ := hu
    exact hc (List.cons.inj heq).1
  | cons c gap =>
    obtain ⟨rfl, -⟩ := List.cons.inj heq
    exact absurd (hgap _ List.mem_cons_self) (by decide)

/-- Blanks at the end are skipped. -/
theorem skipGap_end {t : Text} (h : IsGapText t) (place : Nat) :
    (Cursor.mk place t).skipGap.rest = [] := by
  have htake : t.takeWhile isGap = t := List.takeWhile_eq_self_iff.2 h
  rw [Cursor.skipGap, Cursor.advance, htake, List.drop_length]

/-- **A text is read exactly if it is a document**, and as what it stands for. -/
theorem read_eq_ok_iff {t : Text} {j : Json} : read t = .ok j ↔ Document t j := by
  constructor
  · intro h
    by_cases hmark : ∃ u, t = byteOrderMark :: u
    · obtain ⟨u, rfl⟩ := hmark
      cases h
    · rw [read_eq fun u hu => hmark ⟨u, hu⟩, bind_eq_ok] at h
      obtain ⟨⟨j', next⟩, hread, h⟩ := h
      dsimp only at h
      split at h
      next hempty =>
        cases h
        have hspells := (accounts_reading (2 * t.length + 2)).1 (Cursor.mk 0 t).skipGap
        rw [hread] at hspells
        obtain ⟨gap, hgap, hrest⟩ := gap_skipGap next
        rw [List.isEmpty_iff.1 hempty, List.append_nil] at hrest
        exact ⟨_, _, gap_skipGap ⟨0, t⟩, hspells, hrest ▸ hgap⟩
      next => cases h
  · rintro ⟨u, rest, hgap, hspells, hrest⟩
    have hstart := hspells.startsValue
    have hlength := hgap.length_le
    have hstops : Stops rest := Gap.stops ⟨rest, hrest, (List.append_nil rest).symm⟩ nofun
    rw [read_eq fun v => hgap.ne_mark hstart]
    obtain ⟨c, u, rfl, hc, -⟩ := hstart
    obtain ⟨n, hskip⟩ := hgap.skipGap_eq hc 0
    obtain ⟨m, hread⟩ := hspells.isRead (2 * t.length + 2) n hstops (by omega)
    rw [hskip, hread, ok_bind]
    dsimp only
    rw [skipGap_end hrest]
    rfl

/-- **A text is refused for an integer that is too long exactly if one stands in it** where it is
read up to. -/
theorem exists_oversized_iff {t : Text} :
    (∃ f, read t = .error f ∧ f.fault.isMalformed = false) ↔ OverrunsDocument t := by
  constructor
  · rintro ⟨f, h, hfault⟩
    by_cases hmark : ∃ u, t = byteOrderMark :: u
    · obtain ⟨u, rfl⟩ := hmark
      cases h
      cases hfault
    · rw [read_eq fun u hu => hmark ⟨u, hu⟩, bind_eq_error] at h
      rcases h with h | ⟨⟨j, next⟩, -, h⟩
      · have hrefused := (accounts_reading (2 * t.length + 2)).1 (Cursor.mk 0 t).skipGap
        rw [h] at hrefused
        exact ⟨_, gap_skipGap ⟨0, t⟩, hrefused hfault⟩
      · dsimp only at h
        split at h
        · cases h
        · cases h
          cases hfault
  · rintro ⟨u, hgap, hoverruns⟩
    have hstart := hoverruns.startsValue
    have hlength := hgap.length_le
    rw [read_eq fun v => hgap.ne_mark hstart]
    obtain ⟨c, u, rfl, hc, -⟩ := hstart
    obtain ⟨n, hskip⟩ := hgap.skipGap_eq hc 0
    obtain ⟨k, p, hread⟩ := hoverruns.refuses (2 * t.length + 2) n (by omega)
    exact ⟨_, by rw [hskip, hread]; rfl, rfl⟩

end Localization.Json
