import Mathlib.Data.List.Induction
import Mathlib.Data.List.TakeWhile
import Localization.Proofs.Escape
import Localization.Proofs.Text.Order

/-!
# The value of a string literal

The source language says what string a literal stands for: a sequence of code units of sixteen bits,
given by its grammar of string characters, escape sequences and line continuations in strict mode.
`StringValue` is that grammar with its values, written down by itself: an escape is one of the forms
of the grammar, with what it must not be followed by, and the value of digits is built up digit by
digit. A body that the grammar has a value for is resolved, and the text it stands for has these
code units (`resolve_stringValue`). Resolving goes by what comes first of several readings, so the
main step shows for each form that the reading which comes first is the one of the grammar
(`escape_of_sequence`).
-/

namespace Localization

/-- The code units of a code point's number: the number itself, or a pair beyond sixteen bits. -/
def utf16 (n : Nat) : List UInt16 :=
  if n < 0x10000 then [UInt16.ofNat n]
  else [UInt16.ofNat ((n - 0x10000) / 0x400 + 0xD800), UInt16.ofNat ((n - 0x10000) % 0x400 + 0xDC00)]

/-- The code units of a text; a surrogate is written as itself. -/
def Text.units (t : Text) : List UInt16 := t.flatMap fun c => utf16 c.toNat

/-- A code point of the basic plane is one unit. -/
theorem utf16_of_lt {n : Nat} (h : n < 0x10000) : utf16 n = [UInt16.ofNat n] := if_pos h

namespace Text

/-- The units of two texts put together are the units of the one and then those of the other. -/
theorem units_append (s t : Text) : units (s ++ t) = s.units ++ t.units :=
  List.flatMap_append

/-- A text of one code point has that code point's units. -/
theorem units_singleton (c : CodePoint) : units [c] = utf16 c.toNat :=
  List.flatMap_singleton ..

end Text

namespace Escape

/-! ## The grammar and its values -/

/-- The digits of hexadecimal numbers, in either case, with their values. -/
def hexDigits : List (CodePoint × Nat) :=
  (Text.ofString "0123456789abcdef").zipIdx ++ (Text.ofString "0123456789ABCDEF").zipIdx

/-- The value of one or more hexadecimal digits. -/
inductive HexNumber : Text → Nat → Prop where
  | digit {c : CodePoint} {value : Nat} : (c, value) ∈ hexDigits → HexNumber [c] value
  | more {digits : Text} {n : Nat} {c : CodePoint} {value : Nat} : HexNumber digits n →
    (c, value) ∈ hexDigits → HexNumber (digits ++ [c]) (16 * n + value)

/-- The characters that end a line: line feed, carriage return, line and paragraph separator. -/
def lineTerminators : Text := "\n\r\u2028\u2029"

/-- A line break, with what follows it: a carriage return and a line feed are one break. -/
inductive LineBreak (following : Text) : Text → Prop where
  | single {c : CodePoint} : c ∈ lineTerminators →
    (c = .scalar '\r' → following.head? ≠ some (.scalar '\n')) → LineBreak following [c]
  | pair : LineBreak following "\r\n"

/-- The characters with an escape of one letter or sign, and what these escapes stand for. -/
def singleEscapes : List (CodePoint × CodePoint) :=
  [('\'', '\''), ('"', '"'), ('\\', '\\'), ('b', '\x08'), ('f', '\x0c'), ('n', '\n'), ('r', '\r'),
    ('t', '\t'), ('v', '\x0b')]

/-- What may stand behind a backslash, with what follows it, and its value: an escape of one letter
or sign, a character that has no such escape and begins none, the null character, and numbers of two
digits, of four digits, and in braces. -/
inductive EscapeSequence (following : Text) : Text → List UInt16 → Prop where
  | single {c d : CodePoint} : (c, d) ∈ singleEscapes →
    EscapeSequence following [c] (utf16 d.toNat)
  | itself {c : CodePoint} : c ∉ singleEscapes.map Prod.fst → c.isAsciiDigit = false →
    c ≠ .scalar 'x' → c ≠ .scalar 'u' → c ∉ lineTerminators →
    EscapeSequence following [c] (utf16 c.toNat)
  | null : (∀ d, following.head? = some d → d.isAsciiDigit = false) →
    EscapeSequence following "0" [0]
  | twoDigits {digits : Text} {n : Nat} : HexNumber digits n → digits.length = 2 →
    EscapeSequence following (.scalar 'x' :: digits) [UInt16.ofNat n]
  | fourDigits {digits : Text} {n : Nat} : HexNumber digits n → digits.length = 4 →
    EscapeSequence following (.scalar 'u' :: digits) [UInt16.ofNat n]
  | codePoint {digits : Text} {n : Nat} : HexNumber digits n → n ≤ 0x10FFFF →
    EscapeSequence following (.scalar 'u' :: .scalar '{' :: (digits ++ [.scalar '}'])) (utf16 n)

/-- The bodies of literals in strict mode with their values, for literals in a given quote. -/
inductive StringValue (quote : CodePoint) : Text → List UInt16 → Prop where
  | empty : StringValue quote [] []
  | char {c : CodePoint} {rest : Text} {units : List UInt16} : c ≠ quote → c ≠ .scalar '\\' →
    c ≠ .scalar '\n' → c ≠ .scalar '\r' → StringValue quote rest units →
    StringValue quote (c :: rest) (utf16 c.toNat ++ units)
  | escape {sequence rest : Text} {value units : List UInt16} :
    EscapeSequence rest sequence value → StringValue quote rest units →
    StringValue quote (.scalar '\\' :: (sequence ++ rest)) (value ++ units)
  | continuation {lineBreak rest : Text} {units : List UInt16} : LineBreak rest lineBreak →
    StringValue quote rest units → StringValue quote (.scalar '\\' :: (lineBreak ++ rest)) units

/-! ## Numbers -/

/-- The table of hexadecimal digits is what `hexDigit?` reads. -/
theorem mem_hexDigits {c : CodePoint} {value : Nat} :
    (c, value) ∈ hexDigits ↔ c.hexDigit? = some value := by
  refine CodePoint.mem_table_iff (fun c v h => ?_) (by decide) (by decide)
  unfold CodePoint.hexDigit? at h
  grind

/-- A number is written by digits that are read one by one. -/
theorem hexNumber_iff {digits : Text} {n : Nat} : HexNumber digits n ↔ digits ≠ [] ∧
    ∃ values, digits.mapM CodePoint.hexDigit? = some values ∧ Text.fromDigits 16 values = n := by
  constructor
  · intro h
    induction h with
    | @digit c value hc =>
      refine ⟨List.cons_ne_nil _ _, [value], ?_, ?_⟩
      · rw [List.mapM_cons, mem_hexDigits.1 hc]
        rfl
      · simp [Text.fromDigits]
    | @more digits n c value _ hc ih =>
      obtain ⟨-, values, hvalues, hn⟩ := ih
      refine ⟨by simp, values ++ [value], ?_, ?_⟩
      · rw [List.mapM_append, hvalues, List.mapM_cons, mem_hexDigits.1 hc]
        rfl
      · rw [Text.fromDigits, List.foldl_append]
        change Text.fromDigits 16 values * 16 + value = _
        rw [hn, Nat.mul_comm]
  · rintro ⟨hne, values, hvalues, rfl⟩
    induction digits using List.reverseRecOn generalizing values with
    | nil => exact absurd rfl hne
    | append_singleton digits c ih =>
      rw [List.mapM_append] at hvalues
      obtain ⟨front, hfront, hvalues⟩ := Option.bind_eq_some_iff.1 hvalues
      obtain ⟨last, hlast, hvalues⟩ := Option.bind_eq_some_iff.1 hvalues
      obtain rfl : front ++ last = values := Option.some.inj hvalues
      obtain ⟨value, hc, hlast⟩ := Option.bind_eq_some_iff.1 hlast
      cases hlast
      have hc' := mem_hexDigits.2 hc
      by_cases hdigits : digits = []
      · subst hdigits
        cases hfront
        simpa [Text.fromDigits] using HexNumber.digit hc'
      · have hnumber := HexNumber.more (ih hdigits front hfront) hc'
        rw [Nat.mul_comm] at hnumber
        rw [Text.fromDigits, List.foldl_append]
        exact hnumber

/-- The digits of a hexadecimal number have values, and these make the number up. -/
theorem mapM_of_hexNumber {digits : Text} {n : Nat} (h : HexNumber digits n) :
    ∃ values, digits.mapM CodePoint.hexDigit? = some values ∧ Text.fromDigits 16 values = n :=
  (hexNumber_iff.1 h).2

/-- A hexadecimal number is read off the front of a text, whatever follows it. -/
theorem hexValue?_of_hexNumber {digits : Text} {n : Nat} (h : HexNumber digits n) (rest : Text) :
    hexValue? digits.length (digits ++ rest) = some n := by
  obtain ⟨values, hvalues, hn⟩ := mapM_of_hexNumber h
  have hlength : ¬ (digits ++ rest).length < digits.length := by
    rw [List.length_append]
    omega
  rw [hexValue?, if_neg hlength, List.take_left, hvalues, Option.map_some, hn]

/-- Where every code point is a digit, leaving out those that are none leaves all the values. -/
theorem filterMap_of_mapM {digits : Text} {values : List Nat}
    (h : digits.mapM CodePoint.hexDigit? = some values) :
    (∀ c ∈ digits, c.hexDigit?.isSome = true) ∧ digits.filterMap CodePoint.hexDigit? = values := by
  induction digits generalizing values with
  | nil =>
    cases h
    exact ⟨nofun, rfl⟩
  | cons c digits ih =>
    rw [List.mapM_cons] at h
    obtain ⟨value, hc, h⟩ := Option.bind_eq_some_iff.1 h
    obtain ⟨rest, hrest, h⟩ := Option.bind_eq_some_iff.1 h
    cases h
    obtain ⟨hall, hmap⟩ := ih hrest
    exact ⟨List.forall_mem_cons.2 ⟨by rw [hc]; rfl, hall⟩, by rw [List.filterMap_cons, hc, hmap]⟩

/-- A hexadecimal number has a digit. -/
theorem HexNumber.ne_nil {digits : Text} {n : Nat} (h : HexNumber digits n) : digits ≠ [] := by
  cases h with
  | digit _ => exact List.cons_ne_nil _ _
  | more _ _ => exact List.append_ne_nil_of_right_ne_nil _ (List.cons_ne_nil _ _)

/-- A hexadecimal number in braces is read with the count of its digits. -/
theorem bracedValue?_of_hexNumber {digits : Text} {n : Nat} (h : HexNumber digits n) (rest : Text) :
    bracedValue? (.scalar '{' :: (digits ++ .scalar '}' :: rest)) = some (n, digits.length) := by
  obtain ⟨values, hvalues, hn⟩ := mapM_of_hexNumber h
  obtain ⟨hall, hmap⟩ := filterMap_of_mapM hvalues
  have htake : (digits ++ .scalar '}' :: rest).takeWhile (fun c => c.hexDigit?.isSome) = digits := by
    rw [List.takeWhile_append_of_pos hall, List.takeWhile_cons_of_neg (by decide), List.append_nil]
  have hlength := (mapM_hexDigit? hvalues).1
  have hdrop : (digits ++ .scalar '}' :: rest).drop values.length = .scalar '}' :: rest := by
    rw [hlength, List.drop_left]
  simp only [bracedValue?, htake, hmap, hdrop]
  cases values with
  | nil => exact absurd (List.eq_nil_of_length_eq_zero hlength.symm) h.ne_nil
  | cons value values => simp only [hn, hlength]

/-- A text that starts with a digit does not start with a number in braces. -/
theorem bracedValue?_of_digit {digits : Text} {n : Nat} (h : HexNumber digits n) (rest : Text) :
    bracedValue? (digits ++ rest) = none := by
  obtain ⟨values, hvalues, -⟩ := mapM_of_hexNumber h
  obtain ⟨hall, -⟩ := filterMap_of_mapM hvalues
  obtain ⟨c, digits, rfl⟩ := List.exists_cons_of_ne_nil h.ne_nil
  have hc : c ≠ .scalar '{' := by
    rintro rfl
    exact absurd (hall _ List.mem_cons_self) (by decide)
  rw [List.cons_append, bracedValue?]
  simpa using hc

/-- The code point that a number names has that number. -/
theorem toNat_of_codePoint {n : Nat} {c : CodePoint} (h : codePoint n = .ok c) : c.toNat = n := by
  unfold codePoint CodePoint.ofNat? at h
  by_cases hvalid : n.isValidChar
  · rw [dif_pos hvalid] at h
    cases h
    exact UInt32.toNat_ofNatLT ..
  · rw [dif_neg hvalid] at h
    by_cases hrange : 0xD800 ≤ n ∧ n ≤ 0xDFFF
    · rw [if_pos hrange] at h
      cases h
      rw [CodePoint.toNat, Fin.val_ofNat, Nat.mod_eq_of_lt (by omega)]
      omega
    · rw [if_neg hrange] at h
      cases h

/-- The escape of a number stands for the code point with this number. -/
theorem units_of_codePoint {n : Nat} (h : n ≤ 0x10FFFF) (length : Nat) :
    ∃ t : Text, (codePoint n).map (fun c => ([c], length)) = .ok (t, length) ∧
      t.units = utf16 n := by
  obtain ⟨c, hc⟩ := exists_codePoint_iff.2 h
  refine ⟨[c], map_eq_ok.2 ⟨c, hc, rfl⟩, ?_⟩
  rw [Text.units_singleton, toNat_of_codePoint hc]

/-! ## Escapes -/

/-- A character that begins no number and no line break of two characters is read by itself. -/
theorem escape_of_plain {c : CodePoint} {following : Text} (hu : c ≠ .scalar 'u')
    (hx : c ≠ .scalar 'x')
    (hreturn : c = .scalar '\r' → following.head? ≠ some (.scalar '\n')) :
    escape (c :: following) =
      if isLineEnd c then .ok ([], 1) else .ok ([(simple? c).getD c], 1) := by
  unfold escape
  split
  next heq => cases heq
  next heq => exact absurd (List.cons.inj heq).1 hu
  next heq => exact absurd (List.cons.inj heq).1 hx
  next heq =>
    obtain ⟨rfl, rfl⟩ := List.cons.inj heq
    exact absurd rfl (hreturn rfl)
  next heq =>
    obtain ⟨rfl, rfl⟩ := List.cons.inj heq
    rfl

/-- A line end is one of the four line terminators. -/
theorem isLineEnd_iff {c : CodePoint} : isLineEnd c = true ↔ c ∈ lineTerminators := by
  simp [isLineEnd, lineTerminators, Text.ofString, Text.ofChars, or_assoc]

/-- A line break behind a backslash stands for nothing. -/
theorem escape_of_lineBreak {following lineBreak : Text} (h : LineBreak following lineBreak) :
    escape (lineBreak ++ following) = .ok ([], lineBreak.length) := by
  cases h with
  | @single c hc hreturn =>
    have hplain : ∀ c ∈ lineTerminators, c ≠ .scalar 'u' ∧ c ≠ .scalar 'x' := by decide
    obtain ⟨hu, hx⟩ := hplain c hc
    rw [List.singleton_append, escape_of_plain hu hx hreturn, if_pos (isLineEnd_iff.2 hc)]
    rfl
  | pair => rfl

/-- An escape of one letter is in the table of single escapes, or it is the null escape. -/
theorem mem_of_simple? {c d : CodePoint} (h : simple? c = some d) :
    (c, d) ∈ singleEscapes ∨ c = .scalar '0' := by
  unfold simple? at h
  split at h <;> cases h <;> decide

/-- An escape sequence behind a backslash is read whole, and stands for a text with its value. -/
theorem escape_of_sequence {following sequence : Text} {value : List UInt16}
    (h : EscapeSequence following sequence value) :
    ∃ t : Text, escape (sequence ++ following) = .ok (t, sequence.length) ∧ t.units = value := by
  cases h with
  | @single c d hc =>
    have hplain : ∀ p ∈ singleEscapes, p.1 ≠ .scalar 'u' ∧ p.1 ≠ .scalar 'x' ∧
        p.1 ≠ .scalar '\r' ∧ isLineEnd p.1 = false ∧ (simple? p.1).getD p.1 = p.2 := by
      decide
    obtain ⟨hu, hx, hreturn, hline, hd⟩ := hplain (c, d) hc
    refine ⟨[d], ?_, Text.units_singleton d⟩
    rw [List.singleton_append, escape_of_plain hu hx (absurd · hreturn), hline, hd]
    rfl
  | @itself c hsingle hdigit hx hu hline =>
    have hsimple : simple? c = none := by
      refine Option.eq_none_iff_forall_not_mem.2 fun d hd => ?_
      rcases mem_of_simple? hd with hmem | rfl
      · exact hsingle (List.mem_map.2 ⟨_, hmem, rfl⟩)
      · exact absurd hdigit (by decide)
    have hreturn : c ≠ .scalar '\r' := by
      rintro rfl
      exact hline (by decide)
    refine ⟨[c], ?_, Text.units_singleton c⟩
    rw [List.singleton_append, escape_of_plain hu hx (absurd · hreturn),
      if_neg (mt isLineEnd_iff.1 hline), hsimple]
    rfl
  | null =>
    refine ⟨[.scalar '\x00'], rfl, ?_⟩
    decide
  | @twoDigits digits n hn hlength =>
    have hvalue := hexValue?_of_hexNumber hn following
    rw [hlength] at hvalue
    have hlt : n < 16 ^ 2 := hexValue?_lt hvalue
    obtain ⟨t, ht, hunits⟩ := units_of_codePoint (n := n) (by omega) 3
    refine ⟨t, ?_, by rw [hunits, utf16_of_lt (by omega)]⟩
    rw [List.cons_append, escape, hvalue, List.length_cons, hlength]
    exact ht
  | @fourDigits digits n hn hlength =>
    have hvalue := hexValue?_of_hexNumber hn following
    rw [hlength] at hvalue
    have hlt : n < 16 ^ 4 := hexValue?_lt hvalue
    obtain ⟨t, ht, hunits⟩ := units_of_codePoint (n := n) (by omega) 5
    refine ⟨t, ?_, by rw [hunits, utf16_of_lt (by omega)]⟩
    rw [List.cons_append, escape, bracedValue?_of_digit hn, hvalue, List.length_cons, hlength]
    exact ht
  | @codePoint digits n hn hmax =>
    obtain ⟨t, ht, hunits⟩ := units_of_codePoint hmax (digits.length + 3)
    refine ⟨t, ?_, hunits⟩
    have hlength : (CodePoint.scalar 'u' :: .scalar '{' :: (digits ++ [.scalar '}'])).length =
        digits.length + 3 := by
      simp
    rw [hlength, List.cons_append, List.cons_append, List.append_assoc, List.singleton_append,
      escape, bracedValue?_of_hexNumber hn]
    exact ht

/-- An escape that has a value contributes it, and the resolution goes on behind the escape. -/
theorem resolve_escape {t value : Text} {length : Nat} (h : escape t = .ok (value, length)) :
    resolve (.scalar '\\' :: t) = (resolve (t.drop length)).map (value ++ ·) := by
  rw [resolve_cons, if_pos rfl, h]
  change (resolve (t.drop length) >>= fun later => .ok (value ++ later)) = _
  cases resolve (t.drop length) with
  | error e => rfl
  | ok later => rfl

/-- **The value of a string literal.** A body that has a value in strict mode stands for a text, and
the code units of the text are this value. -/
theorem resolve_stringValue {quote : CodePoint} {body : Text} {units : List UInt16}
    (h : StringValue quote body units) : ∃ t, resolve body = .ok t ∧ t.units = units := by
  induction h with
  | empty => exact ⟨[], rfl, rfl⟩
  | @char c rest units _ hbackslash _ _ _ ih =>
    obtain ⟨t, ht, hunits⟩ := ih
    refine ⟨c :: t, ?_, ?_⟩
    · rw [resolve_cons, if_neg hbackslash, ht]
      rfl
    · rw [← hunits]
      rfl
  | @escape sequence rest value units hsequence _ ih =>
    obtain ⟨t, ht, hunits⟩ := ih
    obtain ⟨s, hs, hvalue⟩ := escape_of_sequence hsequence
    refine ⟨s ++ t, ?_, by rw [Text.units_append, hvalue, hunits]⟩
    rw [resolve_escape hs, List.drop_left, ht]
    rfl
  | @continuation lineBreak rest units hbreak _ ih =>
    obtain ⟨t, ht, hunits⟩ := ih
    refine ⟨t, ?_, hunits⟩
    rw [resolve_escape (escape_of_lineBreak hbreak), List.drop_left, ht]
    rfl

/-- A body for double quotes with a single quote, numbers of all three kinds, of which one is half of
a pair, a character that needs no escape, a line break of two characters and an escape of one
letter. -/
def mixed : Text := "'\\x41\\ud83d\\u\x7b1f600\x7d\\q\\\r\n\\n"

/-- The value of a literal with an escape of every kind, unit by unit. -/
theorem stringValue_mixed :
    StringValue (.scalar '"') mixed [0x27, 0x41, 0xD83D, 0xD83D, 0xDE00, 0x71, 0x0A] := by
  have htwo : HexNumber (Text.ofChars ['4', '1']) 0x41 :=
    @HexNumber.more [.scalar '4'] 4 (.scalar '1') 1 (.digit (by decide)) (by decide)
  have hd8 : HexNumber (Text.ofChars ['d', '8']) 0xD8 :=
    @HexNumber.more [.scalar 'd'] 13 (.scalar '8') 8 (.digit (by decide)) (by decide)
  have hd83 : HexNumber (Text.ofChars ['d', '8', '3']) 0xD83 :=
    @HexNumber.more (Text.ofChars ['d', '8']) 0xD8 (.scalar '3') 3 hd8 (by decide)
  have hfour : HexNumber (Text.ofChars ['d', '8', '3', 'd']) 0xD83D :=
    @HexNumber.more (Text.ofChars ['d', '8', '3']) 0xD83 (.scalar 'd') 13 hd83 (by decide)
  have h1f : HexNumber (Text.ofChars ['1', 'f']) 0x1F :=
    @HexNumber.more [.scalar '1'] 1 (.scalar 'f') 15 (.digit (by decide)) (by decide)
  have h1f6 : HexNumber (Text.ofChars ['1', 'f', '6']) 0x1F6 :=
    @HexNumber.more (Text.ofChars ['1', 'f']) 0x1F (.scalar '6') 6 h1f (by decide)
  have h1f60 : HexNumber (Text.ofChars ['1', 'f', '6', '0']) 0x1F60 :=
    @HexNumber.more (Text.ofChars ['1', 'f', '6']) 0x1F6 (.scalar '0') 0 h1f6 (by decide)
  have hbraces : HexNumber (Text.ofChars ['1', 'f', '6', '0', '0']) 0x1F600 :=
    @HexNumber.more (Text.ofChars ['1', 'f', '6', '0']) 0x1F60 (.scalar '0') 0 h1f60 (by decide)
  have hend : StringValue (.scalar '"') (Text.ofChars ['\\', 'q', '\\', '\r', '\n', '\\', 'n'])
      [0x71, 0x0A] :=
    .escape (.itself (by decide) (by decide) (by decide) (by decide) (by decide))
      (.continuation .pair (.escape (.single (d := '\n') (by decide)) .empty))
  have hpair : StringValue (.scalar '"') _ ([0xD83D] ++ (utf16 0x1F600 ++ [0x71, 0x0A])) :=
    .escape (.fourDigits hfour rfl) (.escape (.codePoint hbraces (by decide)) hend)
  have h : StringValue (.scalar '"') _
      ([0x27] ++ ([0x41] ++ ([0xD83D] ++ (utf16 0x1F600 ++ [0x71, 0x0A])))) :=
    .char (c := '\'') (by decide) (by decide) (by decide) (by decide)
      (.escape (.twoDigits htwo rfl) hpair)
  exact h

/-- The body stands for a text with this value. -/
theorem resolve_stringValue_mixed :
    StringValue (.scalar '"') mixed [0x27, 0x41, 0xD83D, 0xD83D, 0xDE00, 0x71, 0x0A] ∧
      ∃ t, resolve mixed = .ok t ∧
        t.units = [0x27, 0x41, 0xD83D, 0xD83D, 0xDE00, 0x71, 0x0A] :=
  ⟨stringValue_mixed, resolve_stringValue stringValue_mixed⟩

end Escape

end Localization
