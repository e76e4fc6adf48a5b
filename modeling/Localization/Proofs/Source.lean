import Mathlib.Data.List.Basic
import Mathlib.Data.List.Induction
import Mathlib.Data.List.TakeWhile
import Localization.Source
import Localization.Proofs.Text.Utf8

/-!
# Boundaries of characters

A byte offset is a boundary if no character of the file covers bytes on both sides of it. Moving
over an ASCII byte leads from one boundary to the next, in both directions, so that a slice between
boundaries is still one when ASCII bytes are trimmed off its ends. Different boundaries have
different locations (`location_ne_of_lt`).
-/

namespace Localization.Source

/-- Some characters from the start of the file end at the offset. -/
def IsBoundary (s : Source) (n : Nat) : Prop :=
  ∃ k, k ≤ s.chars.length ∧ (Utf8.encodeChars (s.chars.take k)).length = n

instance (s : Source) (n : Nat) : Decidable (s.IsBoundary n) :=
  inferInstanceAs (Decidable (∃ k, k ≤ s.chars.length ∧ _))

variable {s : Source} {n : Nat} {b : UInt8}

/-- The start of a file is a boundary. -/
theorem isBoundary_zero (s : Source) : s.IsBoundary 0 := ⟨0, Nat.zero_le _, rfl⟩

/-- Behind some first characters of a file there is a boundary. -/
theorem isBoundary_of_append {front back : List Char} (h : s.chars = front ++ back) :
    s.IsBoundary (Utf8.encodeChars front).length := by
  refine ⟨front.length, ?_, ?_⟩
  · simp [h]
  · simp [h]

/-- The bytes of a file are those of its parts. -/
theorem bytes_of_append {front back : List Char} (h : s.chars = front ++ back) :
    s.bytes = Utf8.encodeChars front ++ Utf8.encodeChars back := by
  rw [s.bytes_eq, h, Utf8.encodeChars_append]

/-- A byte among those of one character belongs to its form. -/
theorem mem_utf8EncodeChar {front back : List Char} {c : Char} (h : s.chars = front ++ c :: back)
    {i : Nat} (hi : i < (String.utf8EncodeChar c).length)
    (hb : s.bytes[(Utf8.encodeChars front).length + i]? = some b) :
    b ∈ String.utf8EncodeChar c := by
  have hsplit : Utf8.encodeChars (c :: back) =
      String.utf8EncodeChar c ++ Utf8.encodeChars back := rfl
  rw [bytes_of_append h, List.getElem?_append_right (Nat.le_add_right ..), Nat.add_sub_cancel_left,
    hsplit, List.getElem?_append_left hi] at hb
  exact List.mem_of_getElem? hb

/-- One more character takes its own bytes. -/
theorem length_encodeChars_concat (front : List Char) (c : Char) :
    (Utf8.encodeChars (front ++ [c])).length =
      (Utf8.encodeChars front).length + (String.utf8EncodeChar c).length := by
  simp [Utf8.encodeChars]

/-- Every character takes a byte. -/
theorem length_utf8EncodeChar_pos (c : Char) : 0 < (String.utf8EncodeChar c).length :=
  List.length_pos_iff.2 String.utf8EncodeChar_ne_nil

namespace IsBoundary

/-- At a boundary the characters of a file can be split. -/
theorem split (h : s.IsBoundary n) :
    ∃ front back, s.chars = front ++ back ∧ (Utf8.encodeChars front).length = n := by
  obtain ⟨k, -, hk⟩ := h
  exact ⟨s.chars.take k, s.chars.drop k, (List.take_append_drop ..).symm, hk⟩

/-- A boundary lies inside the file. -/
theorem le (h : s.IsBoundary n) : n ≤ s.bytes.length := by
  obtain ⟨front, back, hchars, rfl⟩ := h.split
  rw [bytes_of_append hchars, List.length_append]
  exact Nat.le_add_right ..

/-- An ASCII byte at the start of a character is all of it. -/
theorem succ (h : s.IsBoundary n) (hb : s.bytes[n]? = some b) (hascii : b.toNat < 0x80) :
    s.IsBoundary (n + 1) := by
  obtain ⟨front, back, hchars, rfl⟩ := h.split
  cases back with
  | nil => simp [bytes_of_append hchars, Utf8.encodeChars] at hb
  | cons c back =>
    have hmem := mem_utf8EncodeChar hchars (length_utf8EncodeChar_pos c) hb
    have hone := Utf8.utf8EncodeChar_of_ascii hmem hascii
    have hchars' : s.chars = (front ++ [c]) ++ back := by simp [hchars]
    have hnext := isBoundary_of_append hchars'
    rwa [length_encodeChars_concat, hone] at hnext

/-- An ASCII byte at the end of a character is all of it. -/
theorem pred (h : s.IsBoundary (n + 1)) (hb : s.bytes[n]? = some b) (hascii : b.toNat < 0x80) :
    s.IsBoundary n := by
  obtain ⟨front, back, hchars, hn⟩ := h.split
  rcases List.eq_nil_or_concat' front with rfl | ⟨front, c, rfl⟩
  · cases hn
  · rw [length_encodeChars_concat] at hn
    have hpos := length_utf8EncodeChar_pos c
    have hchars' : s.chars = front ++ c :: back := by simp [hchars]
    have hlast : (Utf8.encodeChars front).length + ((String.utf8EncodeChar c).length - 1) = n := by
      omega
    have hmem := mem_utf8EncodeChar hchars' (Nat.sub_lt hpos Nat.one_pos) (hlast ▸ hb)
    have hone := Utf8.utf8EncodeChar_of_ascii hmem hascii
    rw [hone, List.length_singleton] at hn
    exact Nat.succ.inj hn ▸ isBoundary_of_append hchars'

/-- ASCII bytes behind a boundary end at one. -/
theorem add_length (h : s.IsBoundary n) {bs rest : List UInt8}
    (hsplit : s.bytes.drop n = bs ++ rest) (hascii : ∀ b ∈ bs, b.toNat < 0x80) :
    s.IsBoundary (n + bs.length) := by
  induction bs generalizing n with
  | nil => exact h
  | cons b bs ih =>
    have hb : s.bytes[n]? = some b := by
      have hhead := congrArg (·[0]?) hsplit
      simpa using hhead
    have htail : s.bytes.drop (n + 1) = bs ++ rest := by
      rw [← List.tail_drop, hsplit]
      rfl
    have hnext := ih (h.succ hb (hascii b List.mem_cons_self)) htail
      fun b hb => hascii b (List.mem_cons_of_mem _ hb)
    rwa [List.length_cons, Nat.add_comm bs.length, ← Nat.add_assoc]

/-- ASCII bytes in front of a boundary start at one. -/
theorem sub_length (h : s.IsBoundary n) {front bs : List UInt8}
    (hsplit : s.bytes.take n = front ++ bs) (hascii : ∀ b ∈ bs, b.toNat < 0x80) :
    s.IsBoundary (n - bs.length) := by
  have hlen : n = front.length + bs.length := by
    rw [← List.length_append, ← hsplit, List.length_take, Nat.min_eq_left h.le]
  subst hlen
  rw [Nat.add_sub_cancel]
  induction bs using List.reverseRecOn with
  | nil => exact h
  | append_singleton bs b ih =>
    rw [List.length_append, List.length_singleton, ← Nat.add_assoc] at h hsplit
    have hb : s.bytes[front.length + bs.length]? = some b := by
      have hlast := congrArg (·[front.length + bs.length]?) hsplit
      rw [← List.append_assoc] at hlast
      simpa [List.getElem?_append_right] using hlast
    have hfront : s.bytes.take (front.length + bs.length) = front ++ bs := by
      have htake := congrArg (List.take (front.length + bs.length)) hsplit
      rwa [← List.append_assoc, List.take_take, Nat.min_eq_left (Nat.le_succ _),
        ← List.length_append, List.take_left, List.length_append] at htake
    have hpred := h.pred hb (hascii b (by simp))
    exact ih (fun b hb => hascii b (by simp [hb])) hpred hfront

variable {p : UInt8 → Bool}

/-- Trimming ASCII bytes off the start of a slice leads to a boundary. -/
theorem trim_start {start : Nat} (h : s.IsBoundary start) (hp : ∀ b, p b → b.toNat < 0x80)
    (stop : Nat) : s.IsBoundary (start + ((s.slice start stop).takeWhile p).length) := by
  have hslice : s.bytes.drop start =
      s.slice start stop ++ (s.bytes.drop start).drop (stop - start) := by
    rw [slice, List.drop_take, List.take_append_drop]
  rw [← List.takeWhile_append_dropWhile (p := p) (l := s.slice start stop),
    List.append_assoc] at hslice
  exact h.add_length hslice fun b hb => hp b (List.mem_takeWhile_imp hb)

/-- Trimming ASCII bytes off the end of a slice leads to a boundary. -/
theorem trim_stop {stop : Nat} (h : s.IsBoundary stop) (hp : ∀ b, p b → b.toNat < 0x80)
    (start : Nat) : s.IsBoundary (stop - ((s.slice start stop).reverse.takeWhile p).length) := by
  have hslice : s.bytes.take stop = (s.bytes.take stop).take start ++ s.slice start stop := by
    rw [slice, List.take_append_drop]
  have hrev := congrArg List.reverse
    (List.takeWhile_append_dropWhile (p := p) (l := (s.slice start stop).reverse))
  rw [List.reverse_append, List.reverse_reverse] at hrev
  rw [← hrev, ← List.append_assoc] at hslice
  have hstop := h.sub_length hslice fun b hb =>
    hp b (List.mem_takeWhile_imp (List.mem_reverse.1 hb))
  rwa [List.length_reverse] at hstop

end IsBoundary

/-! ## Slices -/

/-- A slice without some bytes at its ends. -/
theorem slice_trim (s : Source) (start stop : Nat) {a b : Nat} (hle : a + b ≤ stop - start) :
    s.slice (start + a) (stop - b) =
      ((s.slice start stop).take (stop - start - b)).drop a := by
  rw [slice, slice, List.take_drop, List.take_take, List.drop_drop]
  congr 2
  omega

/-- What lies between two boundaries is the form of some characters. -/
theorem exists_slice {m n : Nat} (hm : s.IsBoundary m) (hn : s.IsBoundary n) :
    ∃ cs, s.slice m n = Utf8.encodeChars cs := by
  obtain ⟨k, -, rfl⟩ := hm
  obtain ⟨front, back, hchars, rfl⟩ := hn.split
  have htake : s.bytes.take (Utf8.encodeChars front).length = Utf8.encodeChars front := by
    rw [bytes_of_append hchars, List.take_left]
  rw [slice, htake]
  rcases Nat.le_total k front.length with hle | hle
  · refine ⟨front.drop k, ?_⟩
    have hk : s.chars.take k = front.take k := by rw [hchars, List.take_append_of_le_length hle]
    conv_lhs => rw [hk, ← List.take_append_drop k front, Utf8.encodeChars_append]
    simp
  · -- the first boundary is not in front of the second one, so that nothing lies between
    refine ⟨[], List.drop_eq_nil_of_le ?_⟩
    have hk : s.chars.take k = front ++ back.take (k - front.length) := by
      rw [hchars, List.take_append, List.take_of_length_le hle]
    rw [hk, Utf8.encodeChars_append, List.length_append]
    exact Nat.le_add_right ..

/-! ## Locations -/

/-- The bytes behind the last line feed are those of characters. -/
theorem exists_lastLine (cs : List Char) :
    ∃ line, (Utf8.encodeChars cs).reverse.takeWhile (· ≠ 0x0A) =
      (Utf8.encodeChars line).reverse := by
  induction cs using List.reverseRecOn with
  | nil => exact ⟨[], rfl⟩
  | append_singleton cs c ih =>
    obtain ⟨line, hline⟩ := ih
    have hone : Utf8.encodeChars [c] = String.utf8EncodeChar c := by simp [Utf8.encodeChars]
    rw [Utf8.encodeChars_append, List.reverse_append, hone]
    by_cases hfeed : 0x0A ∈ String.utf8EncodeChar c
    · rw [Utf8.utf8EncodeChar_of_ascii hfeed (by decide)]
      exact ⟨[], rfl⟩
    · refine ⟨line ++ [c], ?_⟩
      rw [List.takeWhile_append_of_pos, hline, Utf8.encodeChars_append, List.reverse_append, hone]
      intro b hb
      simpa using fun h : b = 0x0A => hfeed (h ▸ List.mem_reverse.1 hb)

/-- Further on in a file there is another location. -/
theorem location_ne_of_lt {m : Nat} (hm : s.IsBoundary m) (hlt : m < n)
    (hn : n ≤ s.bytes.length) : s.location m ≠ s.location n := by
  intro heq
  obtain ⟨front, back, hchars, rfl⟩ := hm.split
  have hfront : s.bytes.take (Utf8.encodeChars front).length = Utf8.encodeChars front := by
    rw [bytes_of_append hchars, List.take_left]
  obtain ⟨mid, hmid⟩ : ∃ mid, s.bytes.take n = Utf8.encodeChars front ++ mid := by
    refine ⟨(s.bytes.take n).drop (Utf8.encodeChars front).length, ?_⟩
    conv_lhs => rw [← List.take_append_drop (Utf8.encodeChars front).length (s.bytes.take n)]
    rw [List.take_take, Nat.min_eq_left (Nat.le_of_lt hlt), hfront]
  have hlength := congrArg List.length hmid
  rw [List.length_append, List.length_take, Nat.min_eq_left hn] at hlength
  simp only [location, hfront, hmid, Location.mk.injEq, List.count_append] at heq
  obtain ⟨hline, hcolumn⟩ := heq
  -- On the same line there is no line feed in between, so that the column has grown.
  have hfeed : 0x0A ∉ mid := List.count_eq_zero.1 (by omega)
  obtain ⟨line, hlast⟩ := exists_lastLine front
  rw [List.reverse_append, List.takeWhile_append_of_pos
    (fun b hb => by simpa using fun h : b = 0x0A => hfeed (h ▸ List.mem_reverse.1 hb)), hlast,
    ← List.reverse_append, List.reverse_reverse, List.reverse_reverse,
    Utf8.shownLength_encodeChars_append] at hcolumn
  have hshown := Utf8.shownLength_encodeChars_append line []
  rw [List.append_nil] at hshown
  have hnil : mid = [] :=
    Utf8.shownLength_eq_zero (by rw [hshown, Utf8.shownLength] at hcolumn; omega)
  rw [hnil] at hlength
  simp at hlength
  omega

end Localization.Source
