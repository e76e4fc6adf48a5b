import Mathlib.Tactic.SplitIfs
import Localization.Text.Utf8

/-!
# What reading UTF-8 gives back

Bytes that are read without a fault are the UTF-8 form of the characters read
(`encode_ofChars_of_decode`), and the UTF-8 form of a text is read as the text
(`decode_of_encode`). The reader accepts a character in four shapes, one for each number of
bytes; the ranges of the second byte keep out the longer forms of small numbers, the surrogates and
the numbers above the last character, so that the number read is a character's and its own form is
the bytes it was read from.

An ASCII byte in the form of a character is all of it (`utf8EncodeChar_of_ascii`): the bytes of the
longer forms are all above.
-/

namespace Localization.Utf8

/-! ## One character -/

/-- The four shapes a first byte announces. The range of the second byte is narrower after the
bytes `E0`, `ED`, `F0` and `F4`. -/
theorem lead_cases {b : UInt8} {acc : Nat} {rs : List (UInt8 × UInt8)}
    (h : lead b = some (acc, rs)) :
    (b.toNat < 0x80 ∧ acc = b.toNat ∧ rs = []) ∨
    (0xC2 ≤ b.toNat ∧ b.toNat < 0xE0 ∧ acc = b.toNat - 0xC0 ∧ rs = [(0x80, 0xBF)]) ∨
    (∃ low high : UInt8, 0xE0 ≤ b.toNat ∧ b.toNat < 0xF0 ∧ acc = b.toNat - 0xE0 ∧
      rs = [(low, high), (0x80, 0xBF)] ∧ 0x80 ≤ low.toNat ∧ high.toNat ≤ 0xBF ∧
      (b.toNat = 0xE0 → 0xA0 ≤ low.toNat) ∧ (b.toNat = 0xED → high.toNat ≤ 0x9F)) ∨
    (∃ low high : UInt8, 0xF0 ≤ b.toNat ∧ b.toNat ≤ 0xF4 ∧ acc = b.toNat - 0xF0 ∧
      rs = [(low, high), (0x80, 0xBF), (0x80, 0xBF)] ∧ 0x80 ≤ low.toNat ∧ high.toNat ≤ 0xBF ∧
      (b.toNat = 0xF0 → 0x90 ≤ low.toNat) ∧ (b.toNat = 0xF4 → high.toNat ≤ 0x8F)) := by
  unfold lead at h
  simp only [UInt8.lt_iff_toNat_lt, ← UInt8.toNat_inj, UInt8.reduceToNat] at h
  by_cases h80 : b.toNat < 0x80
  · rw [if_pos h80] at h
    cases h
    exact .inl ⟨h80, rfl, rfl⟩
  rw [if_neg h80] at h
  by_cases hC2 : b.toNat < 0xC2
  · rw [if_pos hC2] at h
    cases h
  rw [if_neg hC2] at h
  by_cases hE0 : b.toNat < 0xE0
  · rw [if_pos hE0] at h
    obtain ⟨rfl, rfl⟩ := Prod.mk.inj (Option.some.inj h)
    exact .inr (.inl ⟨Nat.le_of_not_lt hC2, hE0, rfl, rfl⟩)
  rw [if_neg hE0] at h
  by_cases hisE0 : b.toNat = 0xE0
  · rw [if_pos hisE0] at h
    cases h
    exact .inr (.inr (.inl ⟨0xA0, 0xBF, by omega, by omega, by omega, rfl, by decide, by decide,
      fun _ => by decide, by omega⟩))
  rw [if_neg hisE0] at h
  by_cases hisED : b.toNat = 0xED
  · rw [if_pos hisED] at h
    cases h
    exact .inr (.inr (.inl ⟨0x80, 0x9F, by omega, by omega, by omega, rfl, by decide, by decide,
      by omega, fun _ => by decide⟩))
  rw [if_neg hisED] at h
  by_cases hF0 : b.toNat < 0xF0
  · rw [if_pos hF0] at h
    obtain ⟨rfl, rfl⟩ := Prod.mk.inj (Option.some.inj h)
    exact .inr (.inr (.inl ⟨0x80, 0xBF, by omega, hF0, rfl, rfl, by decide, by decide, by omega,
      by omega⟩))
  rw [if_neg hF0] at h
  by_cases hisF0 : b.toNat = 0xF0
  · rw [if_pos hisF0] at h
    cases h
    exact .inr (.inr (.inr ⟨0x90, 0xBF, by omega, by omega, by omega, rfl, by decide, by decide,
      fun _ => by decide, by omega⟩))
  rw [if_neg hisF0] at h
  by_cases hF4 : b.toNat < 0xF4
  · rw [if_pos hF4] at h
    obtain ⟨rfl, rfl⟩ := Prod.mk.inj (Option.some.inj h)
    exact .inr (.inr (.inr ⟨0x80, 0xBF, by omega, by omega, rfl, rfl, by decide, by decide,
      by omega, by omega⟩))
  rw [if_neg hF4] at h
  by_cases hisF4 : b.toNat = 0xF4
  · rw [if_pos hisF4] at h
    cases h
    exact .inr (.inr (.inr ⟨0x80, 0x8F, by omega, by omega, by omega, rfl, by decide, by decide,
      by omega, fun _ => by decide⟩))
  · rw [if_neg hisF4] at h
    cases h

/-- A byte that had to follow is there and in its range. -/
theorem continuation_cons_eq_ok {taken acc n : Nat} {low high : UInt8} {rs : List (UInt8 × UInt8)}
    {bs rest : List UInt8} (h : continuation taken acc ((low, high) :: rs) bs = .ok (n, rest)) :
    ∃ b bs', bs = b :: bs' ∧ low.toNat ≤ b.toNat ∧ b.toNat ≤ high.toNat ∧
      continuation (taken + 1) (acc * 64 + (b.toNat - 0x80)) rs bs' = .ok (n, rest) := by
  cases bs with
  | nil => simp [continuation] at h
  | cons b bs =>
    simp only [continuation] at h
    split at h
    next hb => exact ⟨b, bs, rfl, hb.1, hb.2, h⟩
    next => cases h

/-- With no byte to go on with, the number is complete. -/
theorem continuation_nil_eq_ok {taken acc n : Nat} {bs rest : List UInt8}
    (h : continuation taken acc [] bs = .ok (n, rest)) : acc = n ∧ bs = rest := by
  simpa [continuation] using h

/-- The character of a valid number has that number. -/
theorem val_ofNat {n : Nat} (h : n.isValidChar) : (Char.ofNat n).val.toNat = n := by
  rw [Char.ofNat, dif_pos h]
  exact UInt32.toNat_ofNatLT ..

/-- A byte is told by its number. -/
theorem ofNat_eq_of_toNat {n : Nat} {b : UInt8} (h : n = b.toNat) : UInt8.ofNat n = b := by
  subst h
  exact UInt8.ofNat_toNat

/-- The bytes of one character are the form of the character read from them. -/
theorem encode_of_continuation {b : UInt8} {acc n : Nat} {rs : List (UInt8 × UInt8)}
    {bs rest : List UInt8} (hlead : lead b = some (acc, rs))
    (h : continuation 1 acc rs bs = .ok (n, rest)) :
    String.utf8EncodeChar (Char.ofNat n) ++ rest = b :: bs := by
  rcases lead_cases hlead with ⟨hb, hacc, rfl⟩ | ⟨hb, hb', hacc, rfl⟩ |
    ⟨low, high, hb, hb', hacc, rfl, hlow, hhigh, hfirst, hlast⟩ |
    ⟨low, high, hb, hb', hacc, rfl, hlow, hhigh, hfirst, hlast⟩
  · obtain ⟨rfl, rfl⟩ := continuation_nil_eq_ok h
    rw [String.utf8EncodeChar, val_ofNat (by unfold Nat.isValidChar; omega)]
    rw [if_pos (by omega), ofNat_eq_of_toNat hacc]
    rfl
  · obtain ⟨c, bs, rfl, hc, hc', h⟩ := continuation_cons_eq_ok h
    obtain ⟨rfl, rfl⟩ := continuation_nil_eq_ok h
    simp only [UInt8.reduceToNat] at hc hc'
    rw [String.utf8EncodeChar, val_ofNat (by unfold Nat.isValidChar; omega)]
    rw [if_neg (by omega), if_pos (by omega), ofNat_eq_of_toNat (b := b) (by omega),
      ofNat_eq_of_toNat (b := c) (by omega)]
    rfl
  · obtain ⟨c, bs, rfl, hc, hc', h⟩ := continuation_cons_eq_ok h
    obtain ⟨d, bs, rfl, hd, hd', h⟩ := continuation_cons_eq_ok h
    obtain ⟨rfl, rfl⟩ := continuation_nil_eq_ok h
    simp only [UInt8.reduceToNat] at hd hd'
    rw [String.utf8EncodeChar, val_ofNat (by unfold Nat.isValidChar; omega)]
    rw [if_neg (by omega), if_neg (by omega), if_pos (by omega),
      ofNat_eq_of_toNat (b := b) (by omega), ofNat_eq_of_toNat (b := c) (by omega),
      ofNat_eq_of_toNat (b := d) (by omega)]
    rfl
  · obtain ⟨c, bs, rfl, hc, hc', h⟩ := continuation_cons_eq_ok h
    obtain ⟨d, bs, rfl, hd, hd', h⟩ := continuation_cons_eq_ok h
    obtain ⟨e, bs, rfl, he, he', h⟩ := continuation_cons_eq_ok h
    obtain ⟨rfl, rfl⟩ := continuation_nil_eq_ok h
    simp only [UInt8.reduceToNat] at hd hd' he he'
    rw [String.utf8EncodeChar, val_ofNat (by unfold Nat.isValidChar; omega)]
    rw [if_neg (by omega), if_neg (by omega), if_neg (by omega),
      ofNat_eq_of_toNat (b := b) (by omega), ofNat_eq_of_toNat (b := c) (by omega),
      ofNat_eq_of_toNat (b := d) (by omega), ofNat_eq_of_toNat (b := e) (by omega)]
    rfl

/-- An ASCII byte in the form of a character is the whole form. -/
theorem utf8EncodeChar_of_ascii {c : Char} {b : UInt8} (hb : b ∈ String.utf8EncodeChar c)
    (hascii : b.toNat < 0x80) : String.utf8EncodeChar c = [b] := by
  have hhigh : ∀ n : Nat, 0x80 ≤ n → n < 0x100 → b ≠ UInt8.ofNat n := by
    rintro n hn hn' rfl
    rw [UInt8.toNat_ofNat'] at hascii
    omega
  revert hb
  fun_cases String.utf8EncodeChar c with
  | case1 v hv =>
    intro hb
    rw [List.mem_singleton.1 hb]
  | case2 v hv hv' =>
    intro hb
    simp only [List.mem_cons, List.not_mem_nil, or_false] at hb
    rcases hb with hb | hb
    all_goals exact absurd hb (hhigh _ (by omega) (by omega))
  | case3 v hv hv' hv'' =>
    intro hb
    simp only [List.mem_cons, List.not_mem_nil, or_false] at hb
    rcases hb with hb | hb | hb
    all_goals exact absurd hb (hhigh _ (by omega) (by omega))
  | case4 v hv hv' hv'' =>
    intro hb
    simp only [List.mem_cons, List.not_mem_nil, or_false] at hb
    rcases hb with hb | hb | hb | hb
    all_goals exact absurd hb (hhigh _ (by omega) (by omega))

/-! ## Reading the form of a character -/

/-- A byte in its range continues a character. -/
theorem continuation_cons {taken acc : Nat} {low high b : UInt8} {rs : List (UInt8 × UInt8)}
    {bs : List UInt8} (hb : low.toNat ≤ b.toNat ∧ b.toNat ≤ high.toNat) :
    continuation taken acc ((low, high) :: rs) (b :: bs) =
      continuation (taken + 1) (acc * 64 + (b.toNat - 0x80)) rs bs := by
  have hrange : low ≤ b ∧ b ≤ high := hb
  rw [continuation, if_pos hrange]

/-- A byte below 128 is a character of its own. -/
theorem lead_one {b : UInt8} (h : b.toNat < 0x80) : lead b = some (b.toNat, []) := by
  simp only [lead, UInt8.lt_iff_toNat_lt, UInt8.reduceToNat, if_pos h]

/-- A byte that leads in two gives five bits and wants one byte more. -/
theorem lead_two {b : UInt8} (h : 0xC2 ≤ b.toNat) (h' : b.toNat < 0xE0) :
    lead b = some (b.toNat - 0xC0, [(0x80, 0xBF)]) := by
  simp only [lead, UInt8.lt_iff_toNat_lt, UInt8.reduceToNat]
  rw [if_neg (by omega), if_neg (by omega), if_pos h']

/-- After the first of three bytes, a second byte `x` is in its range unless the form would be too
long for its number, or that of a surrogate. -/
theorem lead_three {b : UInt8} {x : Nat} (h : 0xE0 ≤ b.toNat) (h' : b.toNat < 0xF0)
    (hx : 0x80 ≤ x ∧ x ≤ 0xBF) (hlong : b.toNat = 0xE0 → 0xA0 ≤ x)
    (hsurrogate : b.toNat = 0xED → x ≤ 0x9F) :
    ∃ low high : UInt8, lead b = some (b.toNat - 0xE0, [(low, high), (0x80, 0xBF)]) ∧
      low.toNat ≤ x ∧ x ≤ high.toNat := by
  simp only [lead, UInt8.lt_iff_toNat_lt, ← UInt8.toNat_inj, UInt8.reduceToNat]
  rw [if_neg (by omega), if_neg (by omega), if_neg (by omega)]
  split_ifs with hE0 hED
  · exact ⟨0xA0, 0xBF, by rw [hE0], hlong hE0, hx.2⟩
  · exact ⟨0x80, 0x9F, by rw [hED], hx.1, hsurrogate hED⟩
  · exact ⟨0x80, 0xBF, rfl, hx.1, hx.2⟩

/-- After the first of four bytes, a second byte `x` is in its range unless the form would be too
long for its number, or its number too large. -/
theorem lead_four {b : UInt8} {x : Nat} (h : 0xF0 ≤ b.toNat) (h' : b.toNat ≤ 0xF4)
    (hx : 0x80 ≤ x ∧ x ≤ 0xBF) (hlong : b.toNat = 0xF0 → 0x90 ≤ x)
    (hlarge : b.toNat = 0xF4 → x ≤ 0x8F) :
    ∃ low high : UInt8, lead b = some (b.toNat - 0xF0, [(low, high), (0x80, 0xBF), (0x80, 0xBF)]) ∧
      low.toNat ≤ x ∧ x ≤ high.toNat := by
  simp only [lead, UInt8.lt_iff_toNat_lt, ← UInt8.toNat_inj, UInt8.reduceToNat]
  rw [if_neg (by omega), if_neg (by omega), if_neg (by omega), if_neg (by omega), if_neg (by omega),
    if_neg (by omega)]
  split_ifs with hF0 hF4 hF4'
  · exact ⟨0x90, 0xBF, by rw [hF0], hlong hF0, hx.2⟩
  · exact ⟨0x80, 0xBF, rfl, hx.1, hx.2⟩
  · exact ⟨0x80, 0x8F, by rw [hF4'], hx.1, hlarge hF4'⟩
  · omega

/-- A number below 256 is that of a byte. -/
theorem toNat_ofNat {n : Nat} (h : n < 0x100) : (UInt8.ofNat n).toNat = n := by
  rw [UInt8.toNat_ofNat', Nat.mod_eq_of_lt h]

/-- A byte made of six bits of a number continues a character by them. -/
theorem continuation_tail (taken acc n : Nat) (rs : List (UInt8 × UInt8)) (bs : List UInt8) :
    continuation taken acc ((0x80, 0xBF) :: rs) (UInt8.ofNat (n % 64 + 128) :: bs) =
      continuation (taken + 1) (acc * 64 + n % 64) rs bs := by
  have hbyte := toNat_ofNat (n := n % 64 + 128) (by omega)
  have hrange : (0x80 : UInt8).toNat ≤ n % 64 + 128 ∧ n % 64 + 128 ≤ (0xBF : UInt8).toNat := by
    simp only [UInt8.reduceToNat]
    omega
  rw [continuation_cons (by rwa [hbyte]), hbyte, Nat.add_sub_cancel]

/-- The form of a character is read as that character. -/
theorem continuation_utf8EncodeChar (c : Char) :
    ∃ b bs acc rs, String.utf8EncodeChar c = b :: bs ∧ lead b = some (acc, rs) ∧
      ∀ rest, continuation 1 acc rs (bs ++ rest) = .ok (c.toNat, rest) := by
  have hvalid : c.val.toNat.isValidChar := c.valid
  have hnumber : c.toNat = c.val.toNat := rfl
  unfold Nat.isValidChar at hvalid
  fun_cases String.utf8EncodeChar c with
  | case1 v hv =>
    have hb := toNat_ofNat (n := v) (by omega)
    refine ⟨_, _, _, _, rfl, lead_one (by omega), fun rest => ?_⟩
    rw [continuation, hb]
    rfl
  | case2 v hv hv' =>
    have hb := toNat_ofNat (n := v / 64 % 32 + 192) (by omega)
    refine ⟨_, _, _, _, rfl, lead_two (by omega) (by omega), fun rest => ?_⟩
    rw [List.cons_append, continuation_tail, continuation, hb]
    exact congrArg (fun n => Except.ok (n, rest)) (by omega)
  | case3 v hv hv' hv'' =>
    have hb := toNat_ofNat (n := v / 4096 % 16 + 224) (by omega)
    have hc := toNat_ofNat (n := v / 64 % 64 + 128) (by omega)
    obtain ⟨low, high, hlead, hrange⟩ := lead_three (b := UInt8.ofNat (v / 4096 % 16 + 224))
      (x := v / 64 % 64 + 128) (by omega) (by omega) (by omega) (by omega) (by omega)
    refine ⟨_, _, _, _, rfl, hlead, fun rest => ?_⟩
    rw [List.cons_append, continuation_cons (by rwa [hc]), List.cons_append, continuation_tail,
      continuation, hb, hc]
    exact congrArg (fun n => Except.ok (n, rest)) (by omega)
  | case4 v hv hv' hv'' =>
    have hb := toNat_ofNat (n := v / 262144 % 8 + 240) (by omega)
    have hc := toNat_ofNat (n := v / 4096 % 64 + 128) (by omega)
    obtain ⟨low, high, hlead, hrange⟩ := lead_four (b := UInt8.ofNat (v / 262144 % 8 + 240))
      (x := v / 4096 % 64 + 128) (by omega) (by omega) (by omega) (by omega) (by omega)
    refine ⟨_, _, _, _, rfl, hlead, fun rest => ?_⟩
    rw [List.cons_append, continuation_cons (by rwa [hc]), List.cons_append, continuation_tail,
      List.cons_append, continuation_tail, continuation, hb, hc]
    exact congrArg (fun n => Except.ok (n, rest)) (by omega)

/-! ## Texts -/

/-- The bytes of characters put together are the bytes of the one and then of the others. -/
theorem encodeChars_append (cs ds : List Char) :
    encodeChars (cs ++ ds) = encodeChars cs ++ encodeChars ds :=
  List.flatMap_append

/-- The characters that bytes are decoded to have these bytes. -/
theorem encodeChars_of_decodeFrom {offset : Nat} {bs : List UInt8} {cs : List Char}
    (h : decodeFrom offset bs = .ok cs) : encodeChars cs = bs := by
  fun_induction decodeFrom offset bs generalizing cs with
  | case1 =>
    cases h
    rfl
  | case2 => cases h
  | case3 => cases h
  | case4 offset b bs acc rs hlead n rest hrest ih =>
    cases hcs : decodeFrom (offset + 1 + rs.length) rest with
    | error f =>
      rw [hcs] at h
      cases h
    | ok cs' =>
      rw [hcs] at h
      cases h
      rw [← encode_of_continuation hlead hrest, ← ih hcs]
      rfl

/-- Characters are encoded without a fault. -/
theorem encodeFrom_ofChars (place : Nat) (cs : List Char) :
    encodeFrom place (Text.ofChars cs) = .ok (encodeChars cs) := by
  induction cs generalizing place with
  | nil => rfl
  | cons c cs ih =>
    have htail := ih (place + 1)
    simp only [Text.ofChars] at htail
    simp only [Text.ofChars, List.map_cons, encodeFrom, htail]
    rfl

instance (t : Text) : Decidable t.Encodable :=
  List.decidableBAll (fun c : CodePoint => c.isSurrogate = false) t

/-- A text without surrogates has a UTF-8 form. -/
theorem exists_encodeFrom {t : Text} (h : t.Encodable) (place : Nat) :
    ∃ bytes, encodeFrom place t = .ok bytes := by
  induction t generalizing place with
  | nil => exact ⟨[], rfl⟩
  | cons c t ih =>
    cases c with
    | surrogate i => exact absurd (h _ List.mem_cons_self) (by simp [CodePoint.isSurrogate])
    | scalar c =>
      obtain ⟨bytes, hbytes⟩ := ih (fun d hd => h d (List.mem_cons_of_mem _ hd)) (place + 1)
      exact ⟨_, by rw [encodeFrom, hbytes]; rfl⟩

/-- The text read from bytes has these bytes as its UTF-8 form. -/
theorem encode_ofChars_of_decode {bs : List UInt8} {cs : List Char} (h : decode bs = .ok cs) :
    encode (Text.ofChars cs) = .ok bs := by
  rw [encode, encodeFrom_ofChars, encodeChars_of_decodeFrom h]

/-- The UTF-8 form of characters is read as these characters. -/
theorem decodeFrom_encodeChars (offset : Nat) (cs : List Char) :
    decodeFrom offset (encodeChars cs) = .ok cs := by
  induction cs generalizing offset with
  | nil => rw [encodeChars, List.flatMap_nil, decodeFrom]
  | cons c cs ih =>
    obtain ⟨b, bs, acc, rs, hform, hlead, hread⟩ := continuation_utf8EncodeChar c
    have hsplit : encodeChars (c :: cs) = b :: (bs ++ encodeChars cs) := by
      rw [encodeChars, List.flatMap_cons, hform]
      rfl
    rw [hsplit, decodeFrom]
    simp only [hlead]
    split
    next taken cause h =>
      rw [hread] at h
      cases h
    next n rest h =>
      rw [hread] at h
      cases h
      rw [ih]
      show Except.ok (Char.ofNat c.toNat :: cs) = _
      rw [Char.ofNat_toNat]

/-- A text that has a UTF-8 form is made of characters, and the form is theirs. -/
theorem encodeFrom_eq_ok {place : Nat} {t : Text} {bytes : List UInt8}
    (h : encodeFrom place t = .ok bytes) :
    ∃ cs, t = Text.ofChars cs ∧ bytes = encodeChars cs := by
  induction t generalizing place bytes with
  | nil =>
    cases h
    exact ⟨[], rfl, rfl⟩
  | cons c t ih =>
    cases c with
    | surrogate i => cases h
    | scalar c =>
      cases hrest : encodeFrom (place + 1) t with
      | error f =>
        rw [encodeFrom, hrest] at h
        cases h
      | ok rest =>
        rw [encodeFrom, hrest] at h
        cases h
        obtain ⟨cs, rfl, rfl⟩ := ih hrest
        exact ⟨c :: cs, rfl, rfl⟩

/-- The UTF-8 form of a text is read as the text. -/
theorem decode_of_encode {t : Text} {bytes : List UInt8} (h : encode t = .ok bytes) :
    ∃ cs, t = Text.ofChars cs ∧ decode bytes = .ok cs := by
  obtain ⟨cs, ht, rfl⟩ := encodeFrom_eq_ok h
  exact ⟨cs, ht, decodeFrom_encodeChars 0 cs⟩

/-! ## Characters on show -/

/-- Characters show as themselves. -/
theorem shownLength_encodeChars_append (cs : List Char) (bs : List UInt8) :
    shownLength (encodeChars cs ++ bs) = cs.length + shownLength bs := by
  induction cs with
  | nil => rw [encodeChars, List.flatMap_nil, List.nil_append, List.length_nil, Nat.zero_add]
  | cons c cs ih =>
    obtain ⟨b, tail, acc, rs, hform, hlead, hread⟩ := continuation_utf8EncodeChar c
    have hsplit : encodeChars (c :: cs) ++ bs = b :: (tail ++ (encodeChars cs ++ bs)) := by
      rw [encodeChars, List.flatMap_cons, hform, List.append_assoc]
      rfl
    rw [hsplit, shownLength]
    simp only [hlead]
    split
    next h =>
      rw [hread] at h
      cases h
    next h =>
      rw [hread] at h
      cases h
      rw [ih, List.length_cons]
      omega

/-- Only no bytes show nothing. -/
theorem shownLength_eq_zero {bs : List UInt8} (h : shownLength bs = 0) : bs = [] := by
  cases bs with
  | nil => rfl
  | cons b bs =>
    rw [shownLength] at h
    split at h
    · omega
    · split at h
      · omega
      · omega

end Localization.Utf8
