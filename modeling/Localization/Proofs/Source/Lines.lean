import Mathlib.Data.List.GetD
import Localization.Proofs.Source

/-!
# Lines

The characters in front of a boundary are those of the lines that are over and those of its own line
(`Reaches`). Its location counts both (`Reaches.location_eq`): a line feed is one byte and no other
character has that byte in its form, so bytes may be searched for it, and the bytes behind the last
one are again those of characters. Further on in a file, locations only grow
(`IsBoundary.location_before`): what comes in between either ends a line or makes the own line
longer.

The line can also be found by halving a table of the offsets that lines start at (`searched`). Up to
an offset there is one start more than line feeds, all later ones are greater, and halving finds
where that changes (`bisect_eq`).
-/

namespace Localization

namespace Utf8

/-- Different characters have different bytes. -/
theorem encodeChars_injective : Function.Injective encodeChars := by
  intro cs ds h
  have hread := decodeFrom_encodeChars 0 cs
  rw [h, decodeFrom_encodeChars] at hread
  exact (Except.ok.inj hread).symm

/-- Only a line feed has the byte of a line feed in its form. -/
theorem count_utf8EncodeChar (c : Char) :
    (String.utf8EncodeChar c).count 0x0A = if c = '\n' then 1 else 0 := by
  by_cases hmem : 0x0A ∈ String.utf8EncodeChar c
  · have hone := utf8EncodeChar_of_ascii hmem (by decide)
    have hfeed : encodeChars [c] = encodeChars ['\n'] := by
      rw [encodeChars, List.flatMap_singleton, hone]
      rfl
    rw [if_pos (List.cons.inj (encodeChars_injective hfeed)).1, hone]
    rfl
  · have hne : c ≠ '\n' := by
      rintro rfl
      exact hmem (by decide)
    rw [if_neg hne, List.count_eq_zero.2 hmem]

/-- The bytes have as many line feeds as the characters. -/
theorem count_encodeChars (cs : List Char) : (encodeChars cs).count 0x0A = cs.count '\n' := by
  induction cs with
  | nil => rfl
  | cons c cs ih =>
    rw [encodeChars, List.flatMap_cons, List.count_append, count_utf8EncodeChar, List.count_cons,
      Nat.add_comm, ← ih]
    simp only [beq_iff_eq]
    rfl

end Utf8

/-- One location comes before another: on an earlier line, or on the same line further to the front.
-/
def Location.Before (a b : Location) : Prop :=
  a.line < b.line ∨ a.line = b.line ∧ a.column < b.column

/-- A location is not before itself. -/
theorem Location.Before.ne {a b : Location} (h : a.Before b) : a ≠ b := by
  rintro rfl
  rcases h with h | ⟨-, h⟩ <;> exact Nat.lt_irrefl _ h

/-- Of two locations at most one is before the other. -/
theorem Location.Before.asymm {a b : Location} (h : a.Before b) : ¬ b.Before a := by
  unfold Before at h ⊢
  omega

namespace Source

variable {s : Source} {m n : Nat} {lines line : List Char}

/-! ## What stands in front of an offset -/

/-- The characters in front of an offset: those of the lines that are over, each with its line feed,
and those of the offset's own line. -/
structure Reaches (s : Source) (lines line : List Char) (n : Nat) : Prop where
  chars : lines ++ line <+: s.chars
  length : (Utf8.encodeChars (lines ++ line)).length = n
  ended : ∀ c ∈ lines.getLast?, c = '\n'
  unbroken : '\n' ∉ line

/-- Characters up to the last line feed, and those behind it. -/
theorem exists_lines (cs : List Char) : ∃ lines line, cs = lines ++ line ∧
    (∀ c ∈ lines.getLast?, c = '\n') ∧ '\n' ∉ line := by
  induction cs using List.reverseRecOn with
  | nil => exact ⟨[], [], rfl, nofun, List.not_mem_nil⟩
  | append_singleton cs c ih =>
    by_cases hc : c = '\n'
    · refine ⟨cs ++ [c], [], (List.append_nil _).symm, ?_, List.not_mem_nil⟩
      simp [hc]
    · obtain ⟨lines, line, rfl, hended, hline⟩ := ih
      refine ⟨lines, line ++ [c], List.append_assoc .., hended, ?_⟩
      simp [hline, Ne.symm hc]

/-- In front of every boundary stand whole lines and a part of one. -/
theorem IsBoundary.exists_reaches (h : s.IsBoundary n) : ∃ lines line, s.Reaches lines line n := by
  obtain ⟨front, back, hchars, hlength⟩ := h.split
  obtain ⟨lines, line, rfl, hended, hline⟩ := exists_lines front
  exact ⟨lines, line, ⟨back, hchars.symm⟩, hlength, hended, hline⟩

/-- **A location counts lines and characters**: one more than the line feeds in front of it, and the
characters of its own line. -/
theorem Reaches.location_eq (h : s.Reaches lines line n) :
    s.location n = ⟨1 + lines.count '\n', line.length⟩ := by
  obtain ⟨⟨back, hchars⟩, rfl, hended, hline⟩ := h
  have hfront : s.bytes.take (Utf8.encodeChars (lines ++ line)).length =
      Utf8.encodeChars (lines ++ line) := by
    rw [bytes_of_append hchars.symm, List.take_left]
  have hunbroken : ∀ b ∈ (Utf8.encodeChars line).reverse, decide (b ≠ 0x0A) = true := by
    intro b hb
    refine decide_eq_true fun hfeed => hline (List.count_pos_iff.1 ?_)
    rw [← Utf8.count_encodeChars]
    exact List.count_pos_iff.2 (hfeed ▸ List.mem_reverse.1 hb)
  -- Going back from the offset, the first line feed is the one that ends the lines.
  have hstop : (Utf8.encodeChars lines).reverse.takeWhile (· ≠ 0x0A) = [] := by
    rcases List.eq_nil_or_concat' lines with rfl | ⟨init, c, rfl⟩
    · rfl
    · rw [hended c (by simp), Utf8.encodeChars_append, List.reverse_append]
      rfl
  have hshown := Utf8.shownLength_encodeChars_append line []
  rw [List.append_nil, Utf8.shownLength, Nat.add_zero] at hshown
  simp only [location, hfront]
  rw [Utf8.count_encodeChars, Utf8.encodeChars_append, List.reverse_append,
    List.takeWhile_append_of_pos hunbroken, hstop, List.append_nil, List.reverse_reverse, hshown,
    List.count_append, List.count_eq_zero.2 hline, Nat.add_zero, Nat.add_comm]

/-- Between two boundaries there is at least one character. -/
theorem Reaches.exists_between (h : s.Reaches lines line m) (hn : s.IsBoundary n) (hlt : m < n) :
    ∃ mid, mid ≠ [] ∧ lines ++ line ++ mid <+: s.chars ∧
      (Utf8.encodeChars (lines ++ line ++ mid)).length = n := by
  obtain ⟨front, back, hchars, rfl⟩ := hn.split
  have hfront : front <+: s.chars := ⟨back, hchars.symm⟩
  rcases List.prefix_or_prefix_of_prefix h.chars hfront with ⟨mid, rfl⟩ | ⟨mid, hmid⟩
  · refine ⟨mid, ?_, hfront, rfl⟩
    rintro rfl
    rw [List.append_nil, h.length] at hlt
    exact Nat.lt_irrefl _ hlt
  · rw [← h.length, ← hmid, Utf8.encodeChars_append, List.length_append] at hlt
    omega

/-- **Further on in a file the location is greater.** -/
theorem IsBoundary.location_before (hm : s.IsBoundary m) (hn : s.IsBoundary n) (hlt : m < n) :
    (s.location m).Before (s.location n) := by
  obtain ⟨lines, line, h⟩ := hm.exists_reaches
  obtain ⟨mid, hne, hchars, hlength⟩ := h.exists_between hn hlt
  obtain ⟨lines', line', rfl, hended, hline'⟩ := exists_lines mid
  rcases List.eq_nil_or_concat' lines' with rfl | ⟨init, c, rfl⟩
  · -- no line ends in between, so that the own line is longer
    have h' : s.Reaches lines (line ++ line') n := by
      refine ⟨?_, ?_, h.ended, by simp [h.unbroken, hline']⟩
      · simpa using hchars
      · simpa using hlength
    rw [h.location_eq, h'.location_eq]
    refine .inr ⟨rfl, ?_⟩
    have hpos : 0 < line'.length := List.length_pos_iff.2 (by simpa using hne)
    show line.length < (line ++ line').length
    rw [List.length_append]
    exact Nat.lt_add_of_pos_right hpos
  · obtain rfl := hended c (by simp)
    have h' : s.Reaches (lines ++ line ++ (init ++ ['\n'])) line' n := by
      refine ⟨?_, ?_, by simp, hline'⟩
      · simpa using hchars
      · simpa using hlength
    rw [h.location_eq, h'.location_eq]
    refine .inl ?_
    simp only [List.count_append, List.count_singleton_self]
    omega

/-- Locations are ordered as the boundaries are. -/
theorem IsBoundary.location_before_iff (hm : s.IsBoundary m) (hn : s.IsBoundary n) :
    (s.location m).Before (s.location n) ↔ m < n := by
  refine ⟨fun h => ?_, hm.location_before hn⟩
  rcases Nat.lt_trichotomy m n with hlt | rfl | hlt
  · exact hlt
  · exact absurd rfl h.ne
  · exact absurd (hn.location_before hm hlt) h.asymm

/-- Different boundaries have different locations. -/
theorem IsBoundary.location_inj (hm : s.IsBoundary m) (hn : s.IsBoundary n)
    (h : s.location m = s.location n) : m = n := by
  rcases Nat.lt_trichotomy m n with hlt | heq | hlt
  · exact absurd h (hm.location_before hn hlt).ne
  · exact heq
  · exact absurd h.symm (hn.location_before hm hlt).ne

/-! ## Searching the starts of lines -/

/-- The offsets behind the line feeds among bytes that start at offset `i`. -/
def startsAfter (i : Nat) : List UInt8 → List Nat
  | [] => []
  | b :: bs => if b = 0x0A then (i + 1) :: startsAfter (i + 1) bs else startsAfter (i + 1) bs

/-- The offsets that lines start at. -/
def lineStarts (s : Source) : List Nat := 0 :: startsAfter 0 s.bytes

/-- How many of increasing numbers are at most `x`; it is at least `lo` and at most `hi`, and the
range is halved until one number is left. -/
def bisect (xs : List Nat) (x lo hi : Nat) : Nat :=
  if lo < hi then
    let mid := (lo + hi) / 2
    if x < xs.getD mid 0 then bisect xs x lo mid else bisect xs x (mid + 1) hi
  else lo
termination_by hi - lo

/-- The location of a byte offset, on the last of the lines that start at or before it. -/
def searched (s : Source) (n : Nat) : Location :=
  let i := bisect s.lineStarts n 0 s.lineStarts.length - 1
  ⟨i + 1, Utf8.shownLength (s.slice (s.lineStarts.getD i 0) n)⟩

/-- Halving finds the place where numbers get greater than `x`. -/
theorem bisect_eq {xs front back : List Nat} {x lo hi : Nat} (hxs : xs = front ++ back)
    (hfront : ∀ k ∈ front, k ≤ x) (hback : ∀ k ∈ back, x < k) (hlo : lo ≤ front.length)
    (hhi : front.length ≤ hi) (hbound : hi ≤ xs.length) : bisect xs x lo hi = front.length := by
  fun_induction bisect xs x lo hi with
  | case1 lo hi hlt mid hless ih =>
    refine ih hlo ?_ (by omega)
    by_contra hmid
    have hmem : xs.getD mid 0 ∈ front := by
      rw [hxs, List.getD_append _ _ _ _ (by omega), List.getD_eq_getElem _ _ (by omega)]
      exact List.getElem_mem _
    exact absurd (hfront _ hmem) (by omega)
  | case2 lo hi hlt mid hless ih =>
    refine ih ?_ hhi hbound
    by_contra hmid
    have hlength : mid - front.length < back.length := by
      rw [hxs, List.length_append] at hbound
      omega
    have hmem : xs.getD mid 0 ∈ back := by
      rw [hxs, List.getD_append_right _ _ _ _ (by omega), List.getD_eq_getElem _ _ hlength]
      exact List.getElem_mem _
    exact absurd (hback _ hmem) hless
  | case3 lo hi hge => omega

/-- The starts of lines among bytes are those among the first and those among the others. -/
theorem startsAfter_append (i : Nat) (bs cs : List UInt8) :
    startsAfter i (bs ++ cs) = startsAfter i bs ++ startsAfter (i + bs.length) cs := by
  induction bs generalizing i with
  | nil => rfl
  | cons b bs ih =>
    have hoffset : i + (b :: bs).length = i + 1 + bs.length := by
      rw [List.length_cons]
      omega
    rw [List.cons_append, startsAfter, startsAfter, ih, hoffset]
    split
    · rfl
    · rfl

/-- A line starts behind the first byte and no later than behind the last. -/
theorem mem_startsAfter {i k : Nat} {bs : List UInt8} (h : k ∈ startsAfter i bs) :
    i < k ∧ k ≤ i + bs.length := by
  induction bs generalizing i with
  | nil => cases h
  | cons b bs ih =>
    have hrest : k = i + 1 ∨ k ∈ startsAfter (i + 1) bs := by
      rw [startsAfter] at h
      split at h
      · exact List.mem_cons.1 h
      · exact .inr h
    rw [List.length_cons]
    rcases hrest with rfl | hk
    · omega
    · have hbounds := ih hk
      omega

/-- As many lines start among bytes as there are line feeds. -/
theorem length_startsAfter (i : Nat) (bs : List UInt8) :
    (startsAfter i bs).length = bs.count 0x0A := by
  induction bs generalizing i with
  | nil => rfl
  | cons b bs ih =>
    rw [startsAfter, List.count_cons]
    by_cases hb : b = 0x0A
    · rw [if_pos hb, if_pos (by simp [hb]), List.length_cons, ih]
    · rw [if_neg hb, if_neg (by simp [hb]), ih, Nat.add_zero]

/-- The last line starts right behind the last line feed. -/
theorem getLast?_startsAfter (i : Nat) (bs : List UInt8) :
    (i :: startsAfter i bs).getLast? =
      some (i + (bs.length - (bs.reverse.takeWhile (· ≠ 0x0A)).length)) := by
  induction bs using List.reverseRecOn with
  | nil => rfl
  | append_singleton bs b ih =>
    rw [startsAfter_append, List.reverse_append, List.length_append, List.length_singleton]
    by_cases hb : b = 0x0A
    · have hstarts : startsAfter (i + bs.length) [b] = [i + bs.length + 1] := by
        rw [startsAfter, if_pos hb, startsAfter]
      rw [hstarts, ← List.cons_append, List.getLast?_concat, hb]
      rfl
    · have hstarts : startsAfter (i + bs.length) [b] = [] := by
        rw [startsAfter, if_neg hb, startsAfter]
      have hle := (List.takeWhile_sublist (l := bs.reverse) (p := (· ≠ 0x0A))).length_le
      rw [List.length_reverse] at hle
      rw [hstarts, List.append_nil, ih, List.reverse_singleton, List.singleton_append,
        List.takeWhile_cons_of_pos (by simpa using hb), List.length_cons]
      congr 2
      omega

/-- **The search finds the location.** -/
theorem location_eq_searched (s : Source) (n : Nat) : s.location n = s.searched n := by
  have hbytes := List.take_append_drop n s.bytes
  have hlength : (s.bytes.take n).length ≤ n := List.length_take_le ..
  have hstarts : s.lineStarts = (0 :: startsAfter 0 (s.bytes.take n)) ++
      startsAfter (s.bytes.take n).length (s.bytes.drop n) := by
    rw [lineStarts]
    conv_lhs => rw [← hbytes, startsAfter_append, Nat.zero_add]
    rfl
  have hfront : ∀ k ∈ 0 :: startsAfter 0 (s.bytes.take n), k ≤ n := by
    intro k hk
    rcases List.mem_cons.1 hk with rfl | hk
    · exact Nat.zero_le n
    · have hbounds := mem_startsAfter hk
      omega
  have hback : ∀ k ∈ startsAfter (s.bytes.take n).length (s.bytes.drop n), n < k := by
    intro k hk
    have hbounds := mem_startsAfter hk
    rw [List.length_take, List.length_drop] at hbounds
    omega
  have hcount : (0 :: startsAfter 0 (s.bytes.take n)).length = (s.bytes.take n).count 0x0A + 1 := by
    rw [List.length_cons, length_startsAfter]
  have hfound : bisect s.lineStarts n 0 s.lineStarts.length = (s.bytes.take n).count 0x0A + 1 := by
    rw [← hcount]
    refine bisect_eq hstarts hfront hback (Nat.zero_le _) ?_ (Nat.le_refl _)
    rw [hstarts, List.length_append]
    exact Nat.le_add_right ..
  have hstart : s.lineStarts.getD ((s.bytes.take n).count 0x0A) 0 = (s.bytes.take n).length -
      ((s.bytes.take n).reverse.takeWhile (· ≠ 0x0A)).length := by
    have hlast := getLast?_startsAfter 0 (s.bytes.take n)
    rw [List.getLast?_eq_getElem?, hcount, Nat.add_sub_cancel, Nat.zero_add] at hlast
    rw [hstarts, List.getD_append _ _ _ _ (by omega), List.getD_eq_getElem?_getD, hlast]
    rfl
  -- Dropping what comes before the last line feed leaves what follows it.
  have hslice : s.slice ((s.bytes.take n).length -
        ((s.bytes.take n).reverse.takeWhile (· ≠ 0x0A)).length) n =
      ((s.bytes.take n).reverse.takeWhile (· ≠ 0x0A)).reverse := by
    have hsplit := congrArg List.reverse
      (List.takeWhile_append_dropWhile (p := (· ≠ 0x0A)) (l := (s.bytes.take n).reverse))
    rw [List.reverse_append, List.reverse_reverse] at hsplit
    have hfrontLength : (s.bytes.take n).length -
        ((s.bytes.take n).reverse.takeWhile (· ≠ 0x0A)).length =
        ((s.bytes.take n).reverse.dropWhile (· ≠ 0x0A)).reverse.length := by
      have hsum := congrArg List.length hsplit
      have hback : ((s.bytes.take n).reverse.takeWhile (· ≠ 0x0A)).reverse.length =
        ((s.bytes.take n).reverse.takeWhile (· ≠ 0x0A)).length := List.length_reverse
      rw [List.length_append, hback] at hsum
      omega
    rw [slice, hfrontLength]
    exact (congrArg (List.drop _) hsplit.symm).trans List.drop_left
  rw [searched, hfound, Nat.add_sub_cancel, hstart, hslice]
  rfl

end Source

end Localization
