import Localization.Proofs.Json.Numbers
import Localization.Proofs.Json.Strings

/-!
# The grammar of documents

`Spells` is the grammar of values, items and fields: what a text starts with, what that stands for,
and what follows. A document is one value between blanks. The grammar has integers of at most 4300
digits. Where one with more digits stands in the place of a value, and all before it is as the
grammar has it, a text overruns (`Overruns`).

The lemmas here are about the grammar alone: what parts of a document begin with, that none of them
is empty, and that nothing which follows a value goes on with a number.
-/

namespace Localization.Json

/-! ## The grammar -/

/-- Blanks at the start of a text, and what follows. -/
def Gap (t rest : Text) : Prop := ∃ gap, IsGapText gap ∧ t = gap ++ rest

/-- The name of a field with the colon after it. -/
def FieldName (t name rest : Text) : Prop :=
  ∃ u v w, t = .scalar '"' :: u ∧ Body u name v ∧ Gap v (.scalar ':' :: w) ∧ Gap w rest

/-- What stands in a document: a value, the items of an array, or the fields of an object. -/
inductive Part where
  | value (j : Json)
  | items (js : List Json)
  | fields (fs : List (Text × Json))

/-- A part of a document at the start of a text, and what follows; the items of an array and the
fields of an object go up to the closing bracket. -/
inductive Spells : Text → Part → Text → Prop where
  | word {word rest : Text} {j : Json} : (word, j) ∈ words → Spells (word ++ rest) (.value j) rest
  | number {t rest : Text} {j : Json} : Numeral t j rest → Spells t (.value j) rest
  | string {t s rest : Text} : Body t s rest → Spells (.scalar '"' :: t) (.value (.str s)) rest
  | emptyArray {t rest : Text} : Gap t (.scalar ']' :: rest) →
    Spells (.scalar '[' :: t) (.value (.arr [])) rest
  | array {t u rest : Text} {js : List Json} : Gap t u → Spells u (.items js) rest →
    Spells (.scalar '[' :: t) (.value (.arr js)) rest
  | emptyObject {t rest : Text} : Gap t (.scalar '}' :: rest) →
    Spells (.scalar '{' :: t) (.value (.obj [])) rest
  | object {t u rest : Text} {fs : List (Text × Json)} : Gap t u → Spells u (.fields fs) rest →
    Spells (.scalar '{' :: t) (.value (.obj (Entries.ofPairs fs))) rest
  | lastItem {t u rest : Text} {j : Json} : Spells t (.value j) u → Gap u (.scalar ']' :: rest) →
    Spells t (.items [j]) rest
  | item {t u v w rest : Text} {j : Json} {js : List Json} : Spells t (.value j) u →
    Gap u (.scalar ',' :: v) → Gap v w → Spells w (.items js) rest →
    Spells t (.items (j :: js)) rest
  | lastField {t name u v rest : Text} {j : Json} : FieldName t name u → Spells u (.value j) v →
    Gap v (.scalar '}' :: rest) → Spells t (.fields [(name, j)]) rest
  | field {t name u v w x rest : Text} {j : Json} {fs : List (Text × Json)} :
    FieldName t name u → Spells u (.value j) v → Gap v (.scalar ',' :: w) → Gap w x →
    Spells x (.fields fs) rest → Spells t (.fields ((name, j) :: fs)) rest

/-- A value between blanks. -/
def Document (t : Text) (j : Json) : Prop :=
  ∃ u rest, Gap t u ∧ Spells u (.value j) rest ∧ IsGapText rest

/-- A place in a document. -/
inductive Place where
  | value
  | items
  | fields

/-- An integer of more than 4300 digits in the place of a value, behind parts of a document. -/
inductive Overruns : Text → Place → Prop where
  | number {t : Text} : Overlong t → Overruns t .value
  | array {t u : Text} : Gap t u → Overruns u .items → Overruns (.scalar '[' :: t) .value
  | object {t u : Text} : Gap t u → Overruns u .fields → Overruns (.scalar '{' :: t) .value
  | item {t : Text} : Overruns t .value → Overruns t .items
  | laterItem {t u v w : Text} {j : Json} : Spells t (.value j) u → Gap u (.scalar ',' :: v) →
    Gap v w → Overruns w .items → Overruns t .items
  | field {t name u : Text} : FieldName t name u → Overruns u .value → Overruns t .fields
  | laterField {t name u v w x : Text} {j : Json} : FieldName t name u → Spells u (.value j) v →
    Gap v (.scalar ',' :: w) → Gap w x → Overruns x .fields → Overruns t .fields

/-- A document up to an integer of more than 4300 digits. -/
def OverrunsDocument (t : Text) : Prop := ∃ u, Gap t u ∧ Overruns u .value

/-! ## Blanks -/

/-- What follows blanks is no longer than the whole. -/
theorem Gap.length_le {t rest : Text} (h : Gap t rest) : rest.length ≤ t.length := by
  obtain ⟨gap, -, rfl⟩ := h
  rw [List.length_append]
  exact Nat.le_add_left _ _

/-- What does not go on with a number, by its first character. -/
theorem stops_of_head {t : Text} (h : ∀ c u, t = c :: u → c.isAsciiDigit = false ∧
    c ≠ .scalar '.' ∧ c ≠ .scalar 'e' ∧ c ≠ .scalar 'E') : Stops t := by
  refine ⟨fun ds rest hdigits => ?_, fun ds rest hpart => ?_, fun e rest hexponent => ?_⟩
  · by_contra hne
    obtain ⟨c, u, rfl, hc⟩ := hdigits.exists_cons hne
    rw [(h c u rfl).1] at hc
    cases hc
  · cases hpart with
    | none => rfl
    | point _ _ => exact absurd rfl (h _ _ rfl).2.1
  · cases hexponent with
    | none => rfl
    | mark hc _ _ _ => exact (hc.elim (h _ _ rfl).2.2.1 (h _ _ rfl).2.2.2).elim

/-- A blank is no part of a number. -/
theorem of_isGap {c : CodePoint} (h : isGap c = true) : c.isAsciiDigit = false ∧
    c ≠ .scalar '.' ∧ c ≠ .scalar 'e' ∧ c ≠ .scalar 'E' := by
  simp only [isGap, Bool.or_eq_true, decide_eq_true_eq] at h
  rcases h with ((rfl | rfl) | rfl) | rfl <;> decide

/-- The marks that follow values. -/
def closers : List CodePoint := [.scalar ',', .scalar ']', .scalar '}']

/-- Blanks in front of a closing mark do not go on with a number. -/
theorem Gap.stops {t rest : Text} (h : Gap t rest) (hrest : ∀ c u, rest = c :: u → c ∈ closers) :
    Stops t := by
  obtain ⟨gap, hgap, rfl⟩ := h
  have hcloser : ∀ c ∈ closers, c.isAsciiDigit = false ∧ c ≠ .scalar '.' ∧
      c ≠ .scalar 'e' ∧ c ≠ .scalar 'E' := by
    decide
  refine stops_of_head fun c u heq => ?_
  cases gap with
  | nil => exact hcloser c (hrest c u heq)
  | cons d gap =>
    obtain ⟨rfl, -⟩ := List.cons.inj heq
    exact of_isGap (hgap d List.mem_cons_self)

/-- Blanks and a closing mark behind them do not go on with a number. -/
theorem Gap.stops_of_closer {t rest : Text} {c : CodePoint} (h : Gap t (c :: rest))
    (hc : c ∈ closers) : Stops t :=
  h.stops fun _ _ heq => (List.cons.inj heq).1 ▸ hc

/-! ## First characters -/

/-- What a value can begin with, as far as it is told from what may stand in its place. -/
def StartsValue (t : Text) : Prop :=
  ∃ c u, t = c :: u ∧ isGap c = false ∧ c ≠ .scalar ']' ∧ c ≠ .scalar '\uFEFF'

/-- A number can begin a value. -/
theorem StartsNumber.startsValue {t : Text} (h : StartsNumber t) : StartsValue t := by
  obtain ⟨c, u, rfl | rfl, hc⟩ := h
  · refine ⟨c, u, rfl, ?_, ?_, ?_⟩
    · by_contra hgap
      rw [(of_isGap (by simpa using hgap)).1] at hc
      cases hc
    · rintro rfl
      cases hc
    · rintro rfl
      cases hc
  · exact ⟨_, _, rfl, by decide⟩

/-- A word that stands for a value can begin one. -/
theorem startsValue_word {word : Text} {j : Json} (h : (word, j) ∈ words) (rest : Text) :
    StartsValue (word ++ rest) := by
  have hall : ∀ w ∈ words, ∃ c u, w.1 = c :: u ∧ isGap c = false ∧ c ≠ .scalar ']' ∧
      c ≠ .scalar '\uFEFF' := by
    simp only [words, List.forall_mem_cons]
    exact ⟨⟨_, _, rfl, by decide⟩, ⟨_, _, rfl, by decide⟩, ⟨_, _, rfl, by decide⟩,
      ⟨_, _, rfl, by decide⟩, ⟨_, _, rfl, by decide⟩, ⟨_, _, rfl, by decide⟩,
      List.forall_mem_nil _⟩
  obtain ⟨c, u, hword, hc⟩ := hall _ h
  exact ⟨c, u ++ rest, congrArg (· ++ rest) hword, hc⟩

/-- What is a value or begins with one. -/
theorem Spells.startsValue {t rest : Text} {part : Part} (h : Spells t part rest) :
    match part with
    | .value _ | .items _ => StartsValue t
    | .fields _ => ∃ u, t = .scalar '"' :: u := by
  induction h with
  | word hw => exact startsValue_word hw _
  | number hn => exact hn.startsNumber.startsValue
  | string _ | emptyArray _ | array _ _ _ | emptyObject _ | object _ _ _ =>
    exact ⟨_, _, rfl, by decide⟩
  | lastItem _ _ ih | item _ _ _ _ ih _ => exact ih
  | lastField hname _ _ _ | field hname _ _ _ _ _ _ =>
    obtain ⟨u, _, _, rfl, -⟩ := hname
    exact ⟨u, rfl⟩

/-- What overruns begins as its place wants it. -/
theorem Overruns.startsValue {t : Text} {place : Place} (h : Overruns t place) :
    match place with
    | .value | .items => StartsValue t
    | .fields => ∃ u, t = .scalar '"' :: u := by
  induction h with
  | number hn => exact hn.startsNumber.startsValue
  | array _ _ _ | object _ _ _ => exact ⟨_, _, rfl, by decide⟩
  | item _ ih => exact ih
  | laterItem hvalue _ _ _ _ => exact hvalue.startsValue
  | field hname _ _ | laterField hname _ _ _ _ _ =>
    obtain ⟨u, _, _, rfl, -⟩ := hname
    exact ⟨u, rfl⟩

/-- The name of a field takes something of the text. -/
theorem FieldName.length_lt {t name rest : Text} (h : FieldName t name rest) :
    rest.length < t.length := by
  obtain ⟨u, v, w, rfl, hbody, hcolon, hgap⟩ := h
  have hbody := hbody.length_lt
  have hcolon := hcolon.length_le
  have hgap := hgap.length_le
  simp only [List.length_cons] at hcolon ⊢
  omega

/-- No part of a document is empty. -/
theorem Spells.length_lt {t rest : Text} {part : Part} (h : Spells t part rest) :
    rest.length < t.length := by
  induction h with
  | word hw =>
    have hall : ∀ w ∈ words, 0 < w.1.length := by
      simp only [words, List.forall_mem_cons]
      exact ⟨by decide, by decide, by decide, by decide, by decide, by decide,
        List.forall_mem_nil _⟩
    rw [List.length_append]
    exact Nat.lt_add_of_pos_left (hall _ hw)
  | number hn => exact hn.length_lt
  | string hbody => exact Nat.lt_succ_of_lt hbody.length_lt
  | emptyArray hgap | emptyObject hgap => exact Nat.lt_succ_of_lt hgap.length_le
  | array hgap _ ih | object hgap _ ih => exact Nat.lt_succ_of_lt (ih.trans_le hgap.length_le)
  | lastItem _ hgap ih => exact (Nat.lt_of_succ_le hgap.length_le).trans ih
  | item _ hcomma hgap _ ih ih' =>
    have hcomma := hcomma.length_le
    have hgap := hgap.length_le
    simp only [List.length_cons] at hcomma
    omega
  | lastField hname _ hgap ih =>
    exact ((Nat.lt_of_succ_le hgap.length_le).trans ih).trans hname.length_lt
  | field hname _ hcomma hgap _ ih ih' =>
    have hname := hname.length_lt
    have hcomma := hcomma.length_le
    have hgap := hgap.length_le
    simp only [List.length_cons] at hcomma
    omega

end Localization.Json
