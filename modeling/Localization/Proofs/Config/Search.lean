import Mathlib.Data.List.Infix
import Localization.Config.Script
import Localization.Proofs.Text.Classes
import Localization.Proofs.Text.Parts

/-!
# Searching a script for a setting

The value of a setting is looked for at every place of a script, one after another. A search passes
over a text if it finds nothing in it, whatever follows, and goes on behind it as if the script
started there (`Passes`). It passes over a text without a colon that ends outside of a word
(`Closed.passes`), since a name that starts in such a text would have to end in it too; and over
another name with its colon, if the name that is looked for is no ending of that one
(`passes_name`). So in a script whose colons all stand behind names, the first value of a setting is
found at the first of these names that is its own.
-/

namespace Localization.Script

variable {n m t u : Text} {c : CodePoint} {w : Bool} {opens : CodePoint → Bool}
  {read : Text → Option Text}

/-- A name of a setting: a text of characters of words. -/
structure IsName (n : Text) : Prop where
  ne_nil : n ≠ []
  word : ∀ c ∈ n, c.isWord = true

/-- A colon is no word character. -/
theorem isWord_colon : CodePoint.isWord (.scalar ':') = false := by decide

/-- A name has word characters only. -/
theorem IsName.not_mem (h : IsName n) (hc : c.isWord = false) : c ∉ n := by
  intro hmem
  rw [h.word c hmem] at hc
  cases hc

/-! ## Names and their colons -/

/-- A value is found only where the name stands with a colon behind it. -/
theorem valueHere?_eq_none (h : ¬ n ++ [.scalar ':'] <+: t) : valueHere? n opens read t = none := by
  cases hdrop : Text.dropLead? (n ++ [.scalar ':']) t with
  | none =>
    have hcolon : Text.dropLead? (n ++ ":") t = none := hdrop
    rw [valueHere?, hcolon, Option.bind_none]
  | some rest => exact absurd ⟨rest, (Text.dropLead?_eq_some.1 hdrop).symm⟩ h

/-- Behind the name and a colon the first character that is not blank opens the value. -/
theorem valueHere?_eq {rest : Text} (hopens : opens c = true) (hblank : c.isBlank = false) :
    valueHere? n opens read (n ++ ":" ++ (" " ++ c :: rest)) = read rest := by
  have hspace : CodePoint.isBlank (.scalar ' ') = true := by decide
  have hdrop : Text.dropLead? (n ++ ":") (n ++ ":" ++ (" " ++ c :: rest)) =
      some (.scalar ' ' :: c :: rest) := Text.dropLead?_eq_some.2 rfl
  rw [valueHere?, hdrop, Option.bind_some, List.dropWhile_cons_of_pos hspace,
    List.dropWhile_cons_of_neg (by simp [hblank])]
  exact if_pos hopens

/-- What stands in front of the first colon is told by the whole. -/
theorem eq_of_colon (hn : .scalar ':' ∉ n) (hm : .scalar ':' ∉ m)
    (h : n ++ .scalar ':' :: t = m ++ .scalar ':' :: u) : n = m := by
  have hsplit := congrArg (Text.splitOn (.scalar ':')) h
  rw [Text.splitOn_append hn, Text.splitOn_append hm] at hsplit
  exact (List.cons.inj hsplit).1

/-! ## Passing over a text -/

/-- A search that finds nothing at any place of a text goes on behind it; whether a word ends there
is told by the last character. -/
theorem value?_append {rest : Text}
    (h : ∀ u, u ≠ [] → u <:+ t → ¬ n ++ [.scalar ':'] <+: u ++ rest) (inWord : Bool) :
    value? n w opens read inWord (t ++ rest) =
      value? n w opens read (t.foldl (fun _ c => c.isWord) inWord) rest := by
  induction t generalizing inWord with
  | nil => rfl
  | cons c t ih =>
    have hhere : valueHere? n opens read (c :: t ++ rest) = none :=
      valueHere?_eq_none (h (c :: t) (List.cons_ne_nil _ _) List.suffix_rfl)
    rw [List.cons_append] at hhere ⊢
    rw [value?, hhere, ite_self]
    exact ih (fun u hu hsuffix => h u hu (hsuffix.trans (List.suffix_cons c t))) c.isWord

/-- A search for a name goes on behind a text as if it started there. -/
def Passes (n t : Text) : Prop :=
  ∀ (w : Bool) (opens : CodePoint → Bool) (read : Text → Option Text) (rest : Text),
    value? n w opens read false (t ++ rest) = value? n w opens read false rest

/-- A search goes on behind nothing. -/
theorem Passes.nil (n : Text) : Passes n [] := fun _ _ _ _ => rfl

/-- A search goes on behind two texts if it does behind each. -/
theorem Passes.append (ht : Passes n t) (hu : Passes n u) : Passes n (t ++ u) := by
  intro w opens read rest
  rw [List.append_assoc, ht, hu]

/-- A search goes on behind texts in a row if it does behind each. -/
theorem Passes.flatten {ts : List Text} (h : ∀ t ∈ ts, Passes n t) : Passes n ts.flatten := by
  induction ts with
  | nil => exact .nil n
  | cons t ts ih =>
    rw [List.forall_mem_cons] at h
    exact h.1.append (ih h.2)

/-- A search goes on behind texts with separators between them if it does behind all of these. -/
theorem Passes.join {sep : Text} {ts : List Text} (hsep : Passes n sep)
    (h : ∀ t ∈ ts, Passes n t) : Passes n (Text.join sep ts) := by
  induction ts with
  | nil => exact .nil n
  | cons t ts ih =>
    rw [List.forall_mem_cons] at h
    by_cases hts : ts = []
    · rw [hts, Text.join_singleton]
      exact h.1
    · rw [Text.join_cons sep t hts]
      exact (h.1.append hsep).append (ih h.2)

/-- Nothing is found in a text that is passed over to its end. -/
theorem Passes.value?_eq_none (h : Passes n t) : value? n w opens read false t = none := by
  have hend := h w opens read []
  rw [List.append_nil] at hend
  exact hend

/-- A value that starts right here is the first one. -/
theorem value?_of_here {v : Text} (h : valueHere? n opens read t = some v) :
    value? n w opens read false t = some v := by
  cases t with
  | nil =>
    rw [valueHere?_eq_none (by simp)] at h
    cases h
  | cons c t => rw [value?, Bool.and_false, if_neg Bool.false_ne_true, h]

/-- A text without a colon that ends outside of a word. -/
structure Closed (t : Text) : Prop where
  no_colon : .scalar ':' ∉ t
  ends : ∃ c, t.getLast? = some c ∧ c.isWord = false

/-- Whether a text ends in a word character is settled by its last one. -/
theorem foldl_isWord_of_getLast? (h : t.getLast? = some c) (b : Bool) :
    t.foldl (fun _ c => c.isWord) b = c.isWord := by
  obtain ⟨init, rfl⟩ := List.getLast?_eq_some_iff.1 h
  rw [List.foldl_append]
  rfl

/-- A name that starts in a closed text ends in it, but no colon follows there. -/
theorem Closed.passes (h : Closed t) (hn : IsName n) : Passes n t := by
  intro w opens read rest
  obtain ⟨c, hlast, hc⟩ := h.ends
  rw [value?_append, foldl_isWord_of_getLast? hlast, hc]
  rintro u hne ⟨front, rfl⟩ hprefix
  rw [List.getLast?_append_of_ne_nil _ hne] at hlast
  have hcolon : .scalar ':' ∉ u := fun hmem => h.no_colon (List.mem_append_right _ hmem)
  rcases List.prefix_or_prefix_of_prefix hprefix (List.prefix_append u rest) with hle | hle
  · exact hcolon (hle.subset (by simp))
  · rcases List.prefix_concat_iff.1 hle with rfl | hle
    · exact hcolon (by simp)
    · exact hn.not_mem hc (hle.subset (List.mem_of_getLast? hlast))

/-- A name is passed over with its colon if the one that is looked for is no ending of it. -/
theorem passes_name (hn : IsName n) (hm : IsName m) (h : ¬ n <:+ m) :
    Passes n (m ++ [.scalar ':']) := by
  intro w opens read rest
  rw [value?_append, foldl_isWord_of_getLast? List.getLast?_concat, isWord_colon]
  intro u hne hsuffix hprefix
  obtain hnil | ⟨v, rfl, hv⟩ := List.suffix_concat_iff.1 hsuffix
  · exact hne hnil
  · obtain ⟨z, hz⟩ := hprefix
    have hcolon : .scalar ':' ∉ v := fun hmem => hm.not_mem isWord_colon (hv.subset hmem)
    have heq : n = v := by
      refine eq_of_colon (hn.not_mem isWord_colon) hcolon (t := z) (u := rest) ?_
      simpa using hz
    exact h (heq ▸ hv)

/-! ## Texts in quotes -/

/-- A text between quotes. -/
def quoted (t : Text) : Text := "'" ++ t ++ "'"

/-- What is read up to a character stands in front of its first occurrence. -/
theorem upTo?_eq {p : CodePoint → Bool} {rest : Text} (ht : ∀ c ∈ t, p c = false)
    (hc : p c = true) : upTo? p (t ++ c :: rest) = some t := by
  have hany : (t ++ c :: rest).any p = true := by simp [hc]
  rw [upTo?, if_pos hany, List.takeWhile_append_of_pos fun d hd => by simp [ht d hd],
    List.takeWhile_cons_of_neg (by simp [hc]), List.append_nil]

/-- A text without quotes and line feeds is read up to its closing quote. -/
theorem quotedText?_eq {rest : Text} (hquote : ∀ c ∈ t, isQuote c = false)
    (hfeed : .scalar '\n' ∉ t) : quotedText? (t ++ .scalar '\'' :: rest) = some t := by
  have hclose : isQuote (.scalar '\'') = true := by decide
  have hskip : ∀ c ∈ t, (!isQuote c && decide (c ≠ .scalar '\n')) = true := by
    intro c hc
    have hne : c ≠ .scalar '\n' := fun heq => hfeed (heq ▸ hc)
    simp [hquote c hc, hne]
  rw [quotedText?, List.dropWhile_append_of_pos hskip,
    List.dropWhile_cons_of_neg (by simp [hclose])]
  dsimp only
  rw [if_pos hclose, upTo?_eq hquote hclose]

/-- The value of a setting that is written in quotes. -/
theorem valueHere?_quoted {rest : Text} (hquote : ∀ c ∈ t, isQuote c = false)
    (hfeed : .scalar '\n' ∉ t) :
    valueHere? n isQuote quotedText? (n ++ ":" ++ (" " ++ (quoted t ++ rest))) = some t := by
  have hsplit : quoted t ++ rest = .scalar '\'' :: (t ++ .scalar '\'' :: rest) := by
    rw [quoted, List.append_assoc, List.append_assoc]
    rfl
  rw [hsplit, valueHere?_eq (by decide) (by decide), quotedText?_eq hquote hfeed]

end Localization.Script
