import Mathlib.Data.List.Basic
import Mathlib.Data.List.Infix
import Mathlib.Data.List.TakeWhile
import Localization.Text.Blank

/-!
# Parts of texts

Starting with, ending with and holding a text are being a prefix, a suffix and a part of it. A text
is stripped to nothing exactly if it is blank all through. Splitting takes apart what joining put
together, if the mark between the pieces stands in none of them.
-/

namespace Localization.Text

/-! ## Leads, tails and parts -/

/-- A lead is dropped from a text exactly when the text is the lead and what is left. -/
theorem dropLead?_eq_some {lead t rest : Text} :
    dropLead? lead t = some rest ↔ t = lead ++ rest := by
  fun_induction dropLead? lead t with
  | case1 t => simp
  | case2 a lead => simp
  | case3 lead b t ih => simp [ih]
  | case4 a lead b t hne => simp [Ne.symm hne]

/-- A text starts with a lead when that is a prefix of it. -/
theorem startsWith_iff {t lead : Text} : t.startsWith lead = true ↔ lead <+: t := by
  rw [startsWith, Option.isSome_iff_exists]
  constructor
  · rintro ⟨rest, h⟩
    exact ⟨rest, (dropLead?_eq_some.1 h).symm⟩
  · rintro ⟨rest, h⟩
    exact ⟨rest, dropLead?_eq_some.2 h.symm⟩

/-- A text ends with a tail when that is a suffix of it. -/
theorem endsWith_iff {t tail : Text} : t.endsWith tail = true ↔ tail <:+ t := by
  rw [endsWith, startsWith_iff, List.reverse_prefix]

/-- A text holds a part when that stands somewhere in it. -/
theorem holds_iff {t part : Text} : t.holds part = true ↔ part <:+: t := by
  induction t with
  | nil => rw [holds, Bool.or_false, startsWith_iff, List.prefix_nil, List.infix_nil]
  | cons c t ih => rw [holds, Bool.or_eq_true, startsWith_iff, ih, List.infix_cons_iff]

/-! ## Blank texts -/

/-- Trimming the end leaves nothing exactly when all is of the class. -/
theorem trimEnd_eq_nil {p : CodePoint → Bool} {t : Text} :
    trimEnd p t = [] ↔ ∀ c ∈ t, p c = true := by
  induction t with
  | nil => simp [trimEnd]
  | cons c t ih =>
    rw [trimEnd, List.forall_mem_cons, ← ih]
    split
    next h => simp [h]
    next h => exact ⟨fun hc => absurd hc (List.cons_ne_nil _ _), fun hand => absurd hand.2 h⟩

/-- What is trimmed away at the end leaves nothing of its class there. -/
theorem trimEnd_eq_concat {p : CodePoint → Bool} {t u : Text} {c : CodePoint}
    (h : trimEnd p t = u ++ [c]) : p c = false := by
  induction t generalizing u with
  | nil => simp [trimEnd] at h
  | cons d t ih =>
    rw [trimEnd] at h
    split at h
    next hnil =>
      split at h
      next => simp at h
      next hd =>
        have hlast : d = c := by simpa using congrArg List.getLast? h
        rw [← hlast]
        simpa using hd
    next hne =>
      cases u with
      | nil => exact absurd (List.cons.inj h).2 hne
      | cons a u => exact ih (List.cons.inj h).2

/-- A text is stripped to nothing exactly if all of it is blank. -/
theorem strip_eq_nil {t : Text} : t.strip = [] ↔ ∀ c ∈ t, c.isBlank = true := by
  rw [strip, trim, trimEnd_eq_nil]
  constructor
  · intro h c hc
    rw [← List.takeWhile_append_dropWhile (p := CodePoint.isBlank) (l := t),
      List.mem_append] at hc
    exact hc.elim List.mem_takeWhile_imp (h c)
  · intro h c hc
    exact h c ((List.dropWhile_sublist _).subset hc)

/-! ## Splitting and joining -/

/-- There is always a first part. -/
theorem splitOn_ne_nil (sep : CodePoint) (t : Text) : splitOn sep t ≠ [] := by
  cases t with
  | nil => exact List.cons_ne_nil _ _
  | cons c t =>
    rw [splitOn]
    split
    · exact List.cons_ne_nil _ _
    · split <;> exact List.cons_ne_nil _ _

/-- A text without the separator is one part. -/
theorem splitOn_of_not_mem {sep : CodePoint} {t : Text} (h : sep ∉ t) : splitOn sep t = [t] := by
  induction t with
  | nil => rfl
  | cons c t ih =>
    obtain ⟨hc, ht⟩ := not_or.1 (mt List.mem_cons.2 h)
    rw [splitOn, if_neg (Ne.symm hc), ih ht]

/-- The first separator ends the first part. -/
theorem splitOn_append {sep : CodePoint} {s : Text} (h : sep ∉ s) (t : Text) :
    splitOn sep (s ++ sep :: t) = s :: splitOn sep t := by
  induction s with
  | nil => rw [List.nil_append, splitOn, if_pos rfl]
  | cons c s ih =>
    obtain ⟨hc, hs⟩ := not_or.1 (mt List.mem_cons.2 h)
    rw [List.cons_append, splitOn, if_neg (Ne.symm hc), ih hs]

/-- One part is joined to itself. -/
theorem join_singleton (sep t : Text) : join sep [t] = t := by
  simp [join, List.intercalate]

/-- A part in front of others is joined by the separator. -/
theorem join_cons (sep t : Text) {ts : List Text} (h : ts ≠ []) :
    join sep (t :: ts) = t ++ sep ++ join sep ts := by
  obtain ⟨s, ts, rfl⟩ := List.exists_cons_of_ne_nil h
  simp [join, List.intercalate]

/-- The first code point of the first part comes first. -/
theorem join_cons_cons (sep : Text) (c : CodePoint) (t : Text) (ts : List Text) :
    join sep ((c :: t) :: ts) = c :: join sep (t :: ts) := by
  by_cases hts : ts = []
  · rw [hts, join_singleton, join_singleton]
  · rw [join_cons sep _ hts, join_cons sep t hts]
    rfl

/-- What is joined begins with the first part. -/
theorem prefix_join (sep t : Text) (ts : List Text) : t <+: join sep (t :: ts) := by
  by_cases hts : ts = []
  · rw [hts, join_singleton]
  · rw [join_cons sep t hts, List.append_assoc]
    exact List.prefix_append t _

/-- A part behind others is joined by the separator. -/
theorem join_concat (sep : Text) {ts : List Text} (h : ts ≠ []) (t : Text) :
    join sep (ts ++ [t]) = join sep ts ++ sep ++ t := by
  induction ts with
  | nil => exact absurd rfl h
  | cons s ts ih =>
    by_cases hts : ts = []
    · subst hts
      rw [List.singleton_append, join_cons sep s (List.cons_ne_nil _ _), join_singleton,
        join_singleton]
    · rw [List.cons_append, join_cons sep s (by simp), ih hts, join_cons sep s hts]
      simp

/-- What is joined has only the code points of its parts and of the separator. -/
theorem forall_mem_join {p : CodePoint → Prop} {sep : Text} (hsep : ∀ c ∈ sep, p c)
    (ts : List Text) : (∀ c ∈ join sep ts, p c) ↔ ∀ t ∈ ts, ∀ c ∈ t, p c := by
  induction ts with
  | nil => simp [join]
  | cons t ts ih =>
    by_cases hts : ts = []
    · rw [hts, join_singleton, List.forall_mem_singleton]
    · rw [join_cons sep t hts, List.append_assoc, List.forall_mem_append, List.forall_mem_append,
        ih, List.forall_mem_cons]
      exact and_congr_right fun _ => and_iff_right hsep

/-- Splitting takes apart what was joined. -/
theorem splitOn_join {sep : CodePoint} {ts : List Text} (hne : ts ≠ []) (h : ∀ t ∈ ts, sep ∉ t) :
    splitOn sep (join [sep] ts) = ts := by
  induction ts with
  | nil => exact absurd rfl hne
  | cons t ts ih =>
    obtain ⟨ht, hrest⟩ := List.forall_mem_cons.1 h
    by_cases hts : ts = []
    · rw [hts, join_singleton, splitOn_of_not_mem ht]
    · rw [join_cons [sep] t hts, List.append_assoc, List.singleton_append, splitOn_append ht,
        ih hts hrest]

end Localization.Text
