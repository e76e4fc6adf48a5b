import Mathlib.Data.List.DropRight
import Localization.Proofs.Text.Parts

/-!
# Words

The words of a text are its maximal runs of code points that are not blank. Blanks at its ends do
not change them, so a stripped text has the same words (`words_strip`). Words that are joined with
single spaces are found again (`words_join`); so joining the words of a text gives the text back
exactly if it consists of words with single spaces between them (`join_words_iff`). The words hold
all that is not blank (`flatten_wordsBy`); so joining them deletes blanks of every sort, and puts in
blanks of ASCII only (`dense_join_words`). Joining them is what replacing the runs of blanks in the
stripped text comes to (`replaceRuns_strip`). And code points can be dropped from a text before its
words are taken or from the words afterwards (`wordsBy_filter`).
-/

namespace Localization.Text

section
variable {p : CodePoint → Bool} {s t w : Text} {c : CodePoint}

/-- A blank in front makes no word. -/
theorem wordsBy_cons_of_blank (hc : p c = true) (t : Text) : wordsBy p (c :: t) = wordsBy p t := by
  rw [wordsBy.eq_def]
  exact if_pos hc

/-- A code point that is no blank is part of a word. -/
theorem wordsBy_ne_nil (hc : p c = false) (t : Text) : wordsBy p (c :: t) ≠ [] := by
  rw [wordsBy.eq_def]
  dsimp only
  rw [if_neg (by simp [hc])]
  split
  · exact List.cons_ne_nil _ _
  · split
    · exact List.cons_ne_nil _ _
    · split <;> exact List.cons_ne_nil _ _

/-- A code point in front of another one that is not blank joins that one's word. -/
theorem wordsBy_cons_cons {d : CodePoint} (hc : p c = false) (hd : p d = false) (t : Text) :
    ∃ word rest, wordsBy p (d :: t) = word :: rest ∧
      wordsBy p (c :: d :: t) = (c :: word) :: rest := by
  obtain ⟨word, rest, hwords⟩ := List.exists_cons_of_ne_nil (wordsBy_ne_nil hd t)
  refine ⟨word, rest, hwords, ?_⟩
  rw [wordsBy, if_neg (by simp [hc]), if_neg (by simp [hd]), hwords]

/-- A blank parts the words before it from those behind it. -/
theorem wordsBy_append (hc : p c = true) (s t : Text) :
    wordsBy p (s ++ c :: t) = wordsBy p s ++ wordsBy p t := by
  induction s with
  | nil => exact wordsBy_cons_of_blank hc t
  | cons a s ih =>
    cases ha : p a with
    | true => rw [List.cons_append, wordsBy_cons_of_blank ha, wordsBy_cons_of_blank ha, ih]
    | false =>
      cases s with
      | nil => simp [wordsBy, ha, hc]
      | cons b s =>
        cases hb : p b with
        | true =>
          have hfirst : ∀ r, wordsBy p (a :: b :: r) = [a] :: wordsBy p (b :: r) := fun r => by
            rw [wordsBy, if_neg (by simp [ha]), if_pos hb]
          rw [List.cons_append, List.cons_append, hfirst, hfirst, List.cons_append, ← ih]
          rfl
        | false =>
          obtain ⟨word, rest, hwords, hmore⟩ := wordsBy_cons_cons ha hb s
          obtain ⟨word', rest', hwords', hmore'⟩ := wordsBy_cons_cons ha hb (s ++ c :: t)
          rw [List.cons_append, hwords, hwords', List.cons_append, List.cons.injEq] at ih
          rw [List.cons_append, List.cons_append, hmore, hmore', ih.1, ih.2]
          rfl

/-- A blank text has no word. -/
theorem wordsBy_of_blank (h : ∀ c ∈ t, p c = true) : wordsBy p t = [] := by
  induction t with
  | nil => rfl
  | cons c t ih =>
    rw [List.forall_mem_cons] at h
    rw [wordsBy_cons_of_blank h.1, ih h.2]

/-- Blanks at the ends of a text do not change its words. -/
theorem wordsBy_between {u v : Text} (hu : ∀ c ∈ u, p c = true) (hv : ∀ c ∈ v, p c = true) :
    wordsBy p (u ++ t ++ v) = wordsBy p t := by
  have hfront : wordsBy p (u ++ t) = wordsBy p t := by
    induction u with
    | nil => rfl
    | cons c u ih =>
      rw [List.forall_mem_cons] at hu
      rw [List.cons_append, wordsBy_cons_of_blank hu.1, ih hu.2]
  cases v with
  | nil => rw [List.append_nil, hfront]
  | cons c v =>
    rw [List.forall_mem_cons] at hv
    rw [wordsBy_append hv.1, wordsBy_of_blank hv.2, List.append_nil, hfront]

/-- A text without blanks is one word. -/
theorem wordsBy_of_not_blank (hne : t ≠ []) (h : ∀ c ∈ t, p c = false) : wordsBy p t = [t] := by
  induction t with
  | nil => exact absurd rfl hne
  | cons c t ih =>
    rw [List.forall_mem_cons] at h
    cases t with
    | nil => simp [wordsBy, h.1]
    | cons d t =>
      obtain ⟨word, rest, hwords, hmore⟩ :=
        wordsBy_cons_cons h.1 ((List.forall_mem_cons.1 h.2).1) t
      rw [ih (List.cons_ne_nil _ _) h.2, List.cons.injEq] at hwords
      rw [hmore, ← hwords.1, ← hwords.2]

/-- A word is not empty and holds no blank. -/
theorem of_mem_wordsBy (h : w ∈ wordsBy p t) : w ≠ [] ∧ ∀ c ∈ w, p c = false := by
  induction t generalizing w with
  | nil => cases h
  | cons c t ih =>
    cases hc : p c with
    | true =>
      rw [wordsBy_cons_of_blank hc] at h
      exact ih h
    | false =>
      have hsingle : [c] ≠ [] ∧ ∀ d ∈ [c], p d = false :=
        ⟨List.cons_ne_nil _ _, List.forall_mem_singleton.2 hc⟩
      rw [wordsBy.eq_def] at h
      dsimp only at h
      rw [if_neg (by simp [hc])] at h
      split at h
      · rw [List.mem_singleton.1 h]
        exact hsingle
      · split at h
        · rcases List.mem_cons.1 h with rfl | h
          · exact hsingle
          · exact ih h
        · split at h
          next =>
            rw [List.mem_singleton.1 h]
            exact hsingle
          next word rest hwords =>
            rw [hwords] at ih
            rcases List.mem_cons.1 h with rfl | h
            · obtain ⟨-, hword⟩ := ih List.mem_cons_self
              exact ⟨List.cons_ne_nil _ _, List.forall_mem_cons.2 ⟨hc, hword⟩⟩
            · exact ih (List.mem_cons_of_mem _ h)

end

/-- The words of a text are all of it that is not blank. -/
theorem flatten_wordsBy (p : CodePoint → Bool) (t : Text) :
    (wordsBy p t).flatten = t.filter fun c => !p c := by
  induction t with
  | nil => rfl
  | cons c t ih =>
    cases hc : p c with
    | true => rw [wordsBy_cons_of_blank hc, ih, List.filter_cons_of_neg (by simp [hc])]
    | false =>
      rw [List.filter_cons_of_pos (by simp [hc]), ← ih]
      cases t with
      | nil => simp [wordsBy, hc]
      | cons d t =>
        cases hd : p d with
        | true =>
          rw [wordsBy, if_neg (by simp [hc]), if_pos hd]
          rfl
        | false =>
          obtain ⟨word, rest, hwords, hmore⟩ := wordsBy_cons_cons hc hd t
          rw [hmore, hwords]
          rfl

/-- A text has no words exactly if it is blank all through. -/
theorem wordsBy_eq_nil {p : CodePoint → Bool} {t : Text} :
    wordsBy p t = [] ↔ ∀ c ∈ t, p c = true := by
  refine ⟨fun h c hc => ?_, wordsBy_of_blank⟩
  have hnone := flatten_wordsBy p t
  rw [h, List.flatten_nil, eq_comm, List.filter_eq_nil_iff] at hnone
  simpa using hnone c hc

/-- Induction over a text by its runs without a blank, each with the blank that ends it. -/
@[elab_as_elim]
theorem induct_runs (p : CodePoint → Bool) {motive : Text → Prop}
    (last : ∀ u, (∀ c ∈ u, p c = false) → motive u)
    (ended : ∀ u c t, (∀ c ∈ u, p c = false) → p c = true → motive t → motive (u ++ c :: t))
    (t : Text) : motive t := by
  -- The run in front of `t` is carried along until a blank ends it.
  suffices h : ∀ u, (∀ c ∈ u, p c = false) → motive (u ++ t) from h [] nofun
  induction t with
  | nil =>
    intro u hu
    rw [List.append_nil]
    exact last u hu
  | cons c t ih =>
    intro u hu
    cases hc : p c with
    | true => exact ended u c t hu hc (ih [] nofun)
    | false =>
      rw [List.append_cons]
      exact ih (u ++ [c]) (List.forall_mem_append.2 ⟨hu, List.forall_mem_singleton.2 hc⟩)

/-! ## Reduced words -/

/-- Texts with the code points of a class only, without those of which nothing is left. -/
def reduced (keep : CodePoint → Bool) (ts : List Text) : List Text :=
  (ts.map (List.filter keep)).filter (!·.isEmpty)

/-- Reducing texts is reducing the first and then the others. -/
theorem reduced_append (keep : CodePoint → Bool) (ts us : List Text) :
    reduced keep (ts ++ us) = reduced keep ts ++ reduced keep us := by
  rw [reduced, List.map_append, List.filter_append]
  rfl

/-- One text is reduced to its code points of the class, if it has any. -/
theorem reduced_singleton (keep : CodePoint → Bool) (t : Text) :
    reduced keep [t] = if t.filter keep = [] then [] else [t.filter keep] := by
  by_cases h : t.filter keep = [] <;> simp [reduced, h]

/-- Reduced texts are not empty and are of the class. -/
theorem of_mem_reduced {keep : CodePoint → Bool} {ts : List Text} {w : Text}
    (h : w ∈ reduced keep ts) : w ≠ [] ∧ ∀ c ∈ w, keep c = true := by
  obtain ⟨hw, hne⟩ := List.mem_filter.1 h
  obtain ⟨t, -, rfl⟩ := List.mem_map.1 hw
  exact ⟨by simpa using hne, fun c hc => (List.mem_filter.1 hc).2⟩

/-- If blanks are kept, dropping code points from a text drops them from its words, and with them
the words of which nothing is left. -/
theorem wordsBy_filter (p keep : CodePoint → Bool) (t : Text) :
    wordsBy p (t.filter fun c => keep c || p c) = reduced keep (wordsBy p t) := by
  have hrun : ∀ u : Text, (∀ c ∈ u, p c = false) →
      wordsBy p (u.filter fun c => keep c || p c) = reduced keep (wordsBy p u) := by
    intro u hu
    have hfilter : (u.filter fun c => keep c || p c) = u.filter keep :=
      List.filter_congr fun c hc => by rw [hu c hc, Bool.or_false]
    have hkept : ∀ c ∈ u.filter keep, p c = false := fun c hc => hu c (List.mem_of_mem_filter hc)
    by_cases hempty : u = []
    · rw [hempty]
      rfl
    · rw [hfilter, wordsBy_of_not_blank hempty hu, reduced_singleton]
      split
      next hnil => rw [hnil, wordsBy]
      next hnil => exact wordsBy_of_not_blank hnil hkept
  induction t using induct_runs p with
  | last u hu => exact hrun u hu
  | ended u c t hu hc ih =>
    rw [List.filter_append, List.filter_cons_of_pos (by rw [hc, Bool.or_true]), wordsBy_append hc,
      wordsBy_append hc, hrun u hu, ih, reduced_append]

/-! ## Stripped texts -/

/-- A text is its trimmed form and code points of the class behind. -/
theorem exists_trimEnd (p : CodePoint → Bool) (t : Text) :
    ∃ v, (∀ c ∈ v, p c = true) ∧ t = trimEnd p t ++ v := by
  induction t with
  | nil => exact ⟨[], nofun, rfl⟩
  | cons c t ih =>
    obtain ⟨v, hv, ht⟩ := ih
    rw [trimEnd]
    split
    next hnil =>
      rw [hnil, List.nil_append] at ht
      split
      next hc => exact ⟨c :: t, List.forall_mem_cons.2 ⟨hc, ht ▸ hv⟩, rfl⟩
      next => exact ⟨t, ht ▸ hv, rfl⟩
    next => exact ⟨v, hv, congrArg (c :: ·) ht⟩

/-- What is stripped off a text is blank. -/
theorem exists_strip (t : Text) : ∃ u v, (∀ c ∈ u, c.isBlank = true) ∧
    (∀ c ∈ v, c.isBlank = true) ∧ t = u ++ t.strip ++ v := by
  obtain ⟨v, hv, hend⟩ := exists_trimEnd CodePoint.isBlank (t.dropWhile CodePoint.isBlank)
  refine ⟨t.takeWhile CodePoint.isBlank, v, fun c hc => List.mem_takeWhile_imp hc, hv, ?_⟩
  rw [strip, trim, trimStart, List.append_assoc, ← hend, List.takeWhile_append_dropWhile]

/-- Trimming the end twice is trimming it once. -/
theorem trimEnd_trimEnd (p : CodePoint → Bool) (t : Text) :
    trimEnd p (trimEnd p t) = trimEnd p t := by
  induction t with
  | nil => rfl
  | cons c t ih =>
    rw [trimEnd]
    split
    next =>
      split
      next => rfl
      next hc => simp [trimEnd, hc]
    next hne =>
      rw [trimEnd, ih]
      split
      next hnil => exact absurd hnil hne
      next => rfl

/-- Where nothing is dropped at the start, what stands there is not of the class. -/
theorem head_of_dropWhile_eq {p : CodePoint → Bool} {c : CodePoint} {t : Text}
    (h : (c :: t).dropWhile p = c :: t) : p c = false := by
  by_contra hblank
  rw [Bool.not_eq_false] at hblank
  rw [List.dropWhile_cons_of_pos hblank] at h
  have hshort := (List.dropWhile_sublist (l := t) p).length_le
  rw [h, List.length_cons] at hshort
  exact Nat.not_succ_le_self _ hshort

/-- Trimming the end brings no blank to the front. -/
theorem dropWhile_trimEnd {p : CodePoint → Bool} {t : Text} (h : t.dropWhile p = t) :
    (trimEnd p t).dropWhile p = trimEnd p t := by
  cases t with
  | nil => rfl
  | cons c t =>
    have hc := head_of_dropWhile_eq h
    rw [trimEnd]
    split
    next => rw [if_neg (by simp [hc]), List.dropWhile_cons_of_neg (by simp [hc])]
    next => rw [List.dropWhile_cons_of_neg (by simp [hc])]

/-- A trimmed text has no blank in front. -/
theorem dropWhile_strip (t : Text) : t.strip.dropWhile CodePoint.isBlank = t.strip :=
  dropWhile_trimEnd (List.dropWhile_idempotent _ _)

/-- A stripped text has nothing more to strip. -/
theorem strip_strip (t : Text) : t.strip.strip = t.strip := by
  rw [strip.eq_def t.strip, trim, trimStart, dropWhile_strip]
  exact trimEnd_trimEnd _ _

/-- A text that is not blank at its ends is stripped already. -/
theorem strip_eq_self {t : Text} (hhead : ∀ c ∈ t.head?, c.isBlank = false)
    (hlast : ∀ c ∈ t.getLast?, c.isBlank = false) : t.strip = t := by
  obtain ⟨u, v, hu, hv, ht⟩ := exists_strip t
  have hu' : u = [] := by
    cases u with
    | nil => rfl
    | cons c u =>
      have hblank := hu c List.mem_cons_self
      rw [hhead c (by rw [ht]; rfl)] at hblank
      cases hblank
  have hv' : v = [] := by
    obtain rfl | ⟨v, c, rfl⟩ := List.eq_nil_or_concat v
    · rfl
    · have hblank := hv c (by simp)
      rw [hlast c (by rw [ht]; simp)] at hblank
      cases hblank
  rw [hu', hv', List.nil_append, List.append_nil] at ht
  exact ht.symm

/-- What is of the class behind a text is trimmed off. -/
theorem trimEnd_append_of_forall {p : CodePoint → Bool} (t : Text) {v : Text}
    (hv : ∀ c ∈ v, p c = true) : trimEnd p (t ++ v) = trimEnd p t := by
  induction t with
  | nil => exact trimEnd_eq_nil.2 hv
  | cons c t ih => rw [List.cons_append, trimEnd, trimEnd, ih]

/-- Code points of a class around a text are trimmed off. -/
theorem trim_between {p : CodePoint → Bool} {u v : Text} (hu : ∀ c ∈ u, p c = true)
    (hv : ∀ c ∈ v, p c = true) (t : Text) : trim p (u ++ t ++ v) = trim p t := by
  rw [trim, trimStart, List.append_assoc, List.dropWhile_append_of_pos hu, List.dropWhile_append,
    trim, trimStart]
  split
  next h =>
    rw [List.isEmpty_iff.1 h, List.dropWhile_eq_nil_iff.2 hv]
  next => exact trimEnd_append_of_forall _ hv

/-- Blanks around a text are stripped off. -/
theorem strip_between {u v : Text} (hu : ∀ c ∈ u, c.isBlank = true)
    (hv : ∀ c ∈ v, c.isBlank = true) (t : Text) : (u ++ t ++ v).strip = t.strip :=
  trim_between hu hv t

/-- A text without code points of a class has none of them to trim off. -/
theorem trim_eq_self {p : CodePoint → Bool} {t : Text} (h : ∀ c ∈ t, p c = false) :
    trim p t = t := by
  have hstart : trimStart p t = t := by
    cases t with
    | nil => rfl
    | cons c t =>
      rw [trimStart, List.dropWhile_cons_of_neg (by simp [h c List.mem_cons_self])]
  obtain ⟨v, hv, ht⟩ := exists_trimEnd p t
  have hnil : v = [] := by
    refine List.eq_nil_iff_forall_not_mem.2 fun c hc => ?_
    have hno := h c (ht ▸ List.mem_append_right _ hc)
    rw [hv c hc] at hno
    cases hno
  rw [trim, hstart]
  conv_rhs => rw [ht, hnil, List.append_nil]

/-- Blanks that are stripped off at the end first make no difference. -/
theorem strip_trimEnd (t : Text) : (trimEnd CodePoint.isBlank t).strip = t.strip := by
  obtain ⟨v, hv, ht⟩ := exists_trimEnd CodePoint.isBlank t
  have hbetween := strip_between (u := []) nofun hv (trimEnd CodePoint.isBlank t)
  rw [List.nil_append, ← ht] at hbetween
  exact hbetween.symm

/-- A trimmed text is part of the text. -/
theorem isInfix_strip (t : Text) : t.strip <:+: t := by
  obtain ⟨u, v, -, -, ht⟩ := exists_strip t
  exact ⟨u, v, ht.symm⟩

/-- A text that is neither empty nor blank at its ends. -/
structure Tight (w : Text) : Prop where
  ne_nil : w ≠ []
  head : ∀ c ∈ w.head?, c.isBlank = false
  last : ∀ c ∈ w.getLast?, c.isBlank = false

/-- What is left of a stripped text is not blank at its ends. -/
theorem tight_strip {t : Text} (h : t.strip ≠ []) : t.strip.Tight where
  ne_nil := h
  head c hc := by
    obtain ⟨d, u, hstrip⟩ := List.exists_cons_of_ne_nil h
    have hdrop := dropWhile_strip t
    rw [hstrip] at hc hdrop
    cases hc
    exact head_of_dropWhile_eq hdrop
  last c hc := by
    obtain hnil | ⟨u, d, hstrip⟩ := List.eq_nil_or_concat t.strip
    · exact absurd hnil h
    · rw [List.concat_eq_append] at hstrip
      rw [hstrip, List.getLast?_concat] at hc
      cases hc
      exact trimEnd_eq_concat hstrip

/-- What is not blank at its ends is not stripped off. -/
theorem Tight.infix_strip_iff {w : Text} (hw : w.Tight) (t : Text) : w <:+: t.strip ↔ w <:+: t := by
  obtain ⟨u, v, hu, hv, ht⟩ := exists_strip t
  generalize t.strip = m at ht ⊢
  subst ht
  refine ⟨fun h => h.trans ⟨u, v, rfl⟩, ?_⟩
  rintro ⟨a, b, hab⟩
  -- What is found begins behind what was stripped off in front, and it ends before the rest.
  obtain ⟨a', hmiddle⟩ : ∃ a', m ++ v = a' ++ w ++ b := by
    rw [List.append_assoc, List.append_assoc, List.append_eq_append_iff] at hab
    rcases hab with ⟨x, rfl, hx⟩ | ⟨a', rfl, hmiddle⟩
    · cases x with
      | nil => exact ⟨[], hx.symm⟩
      | cons c x =>
        obtain ⟨d, w, rfl⟩ := List.exists_cons_of_ne_nil hw.ne_nil
        obtain rfl := (List.cons.inj hx).1
        have hblank := hu d (by simp)
        rw [hw.head d rfl] at hblank
        cases hblank
    · exact ⟨a', hmiddle.trans (List.append_assoc ..).symm⟩
  rw [List.append_eq_append_iff] at hmiddle
  rcases hmiddle with ⟨x, hx, rfl⟩ | ⟨x, rfl, -⟩
  · obtain rfl | ⟨x, c, rfl⟩ := List.eq_nil_or_concat x
    · exact ⟨a', [], by rw [List.append_nil, hx, List.append_nil]⟩
    · have hlast : w.getLast? = some c := by
        rw [← List.getLast?_append_of_ne_nil a' hw.ne_nil, hx]
        simp
      have hblank := hv c (by simp)
      rw [hw.last c hlast] at hblank
      cases hblank
  · exact ⟨a', x, rfl⟩

/-- What begins with a text that is not blank at its ends is stripped at its other end only. -/
theorem Tight.strip_append {w : Text} (hw : w.Tight) (t : Text) :
    (w ++ t).strip = w ++ trimEnd CodePoint.isBlank t := by
  have hstripped : (w ++ trimEnd CodePoint.isBlank t).strip = w ++ trimEnd CodePoint.isBlank t := by
    refine strip_eq_self (fun c hc => hw.head c ?_) fun c hc => ?_
    · rwa [List.head?_append_of_ne_nil _ hw.ne_nil] at hc
    · obtain hnil | ⟨u, d, hend⟩ := List.eq_nil_or_concat (trimEnd CodePoint.isBlank t)
      · rw [hnil, List.append_nil] at hc
        exact hw.last c hc
      · rw [List.concat_eq_append] at hend
        rw [hend, ← List.append_assoc, List.getLast?_concat] at hc
        cases hc
        exact trimEnd_eq_concat hend
  obtain ⟨v, hv, ht⟩ := exists_trimEnd CodePoint.isBlank t
  have hbetween := strip_between (u := []) nofun hv (w ++ trimEnd CodePoint.isBlank t)
  rw [List.nil_append, List.append_assoc, ← ht] at hbetween
  rw [hbetween, hstripped]

/-- Trimming changes no word. -/
theorem words_strip (t : Text) : t.strip.words = t.words := by
  obtain ⟨u, v, hu, hv, ht⟩ := exists_strip t
  conv_rhs => rw [ht]
  exact (wordsBy_between hu hv).symm

/-! ## Single spaces -/

/-- A text consists of words with single spaces between them. -/
def SingleSpaced (t : Text) : Prop :=
  ∃ ws : List Text, (∀ w ∈ ws, w ≠ [] ∧ ∀ c ∈ w, c.isBlank = false) ∧ t = join " " ws

/-- Words that are joined with single spaces are found again. -/
theorem words_join {ws : List Text} (h : ∀ w ∈ ws, w ≠ [] ∧ ∀ c ∈ w, c.isBlank = false) :
    words (join " " ws) = ws := by
  induction ws with
  | nil => rfl
  | cons w ws ih =>
    obtain ⟨⟨hne, hw⟩, hws⟩ := List.forall_mem_cons.1 h
    have hword : words w = [w] := wordsBy_of_not_blank hne hw
    by_cases hnil : ws = []
    · rw [hnil, join_singleton, hword]
    · have hspace : CodePoint.isBlank (.scalar ' ') = true := by decide
      have hjoin : join " " (w :: ws) = w ++ .scalar ' ' :: join " " ws := by
        rw [join_cons _ w hnil, List.append_assoc]
        rfl
      rw [hjoin]
      exact (wordsBy_append hspace w _).trans (congr (congrArg _ hword) (ih hws))

/-- **Joining the words of a text** gives the text back exactly if it has single spaces only. -/
theorem join_words_iff {t : Text} : join " " t.words = t ↔ t.SingleSpaced := by
  constructor
  · intro h
    exact ⟨t.words, fun w hw => of_mem_wordsBy hw, h.symm⟩
  · rintro ⟨ws, hws, rfl⟩
    rw [words_join hws]

/-! ## Replaced runs -/

/-- A text with `sep` in the place of every run of code points of a class. -/
def replaceRuns (p : CodePoint → Bool) (sep : Text) : Text → Text
  | [] => []
  | c :: t =>
    if p c then
      -- The last code point of a run stands for all of it.
      if t.head?.any p then replaceRuns p sep t else sep ++ replaceRuns p sep t
    else c :: replaceRuns p sep t

/-- Replacing the runs of blanks in a text that does not end in one joins its words, behind what
stands for a run at its start. -/
theorem replaceRuns_eq_join {p : CodePoint → Bool} (sep : Text) {t : Text} (hne : t ≠ [])
    (hlast : ∀ c ∈ t.getLast?, p c = false) :
    replaceRuns p sep t = (if t.head?.any p then sep else []) ++ join sep (wordsBy p t) := by
  induction t with
  | nil => exact absurd rfl hne
  | cons c t ih =>
    by_cases hnil : t = []
    · subst hnil
      have hc : p c = false := hlast c rfl
      simp [replaceRuns, wordsBy, hc, join_singleton]
    · obtain ⟨d, t, rfl⟩ := List.exists_cons_of_ne_nil hnil
      rw [List.getLast?_cons_cons] at hlast
      rw [replaceRuns, ih hnil hlast]
      cases hc : p c with
      | true => cases hd : p d <;> simp [wordsBy_cons_of_blank hc, hc, hd]
      | false =>
        cases hd : p d with
        | true =>
          have hwords : wordsBy p (d :: t) ≠ [] := by
            intro hblank
            have hend := hlast _ (List.getLast_mem_getLast? hnil)
            rw [wordsBy_eq_nil.1 hblank _ (List.getLast_mem hnil)] at hend
            cases hend
          have hfirst : wordsBy p (c :: d :: t) = [c] :: wordsBy p (d :: t) := by
            rw [wordsBy, if_neg (by simp [hc]), if_pos hd]
          rw [hfirst, join_cons sep [c] hwords]
          simp [hc, hd]
        | false =>
          obtain ⟨word, rest, hwords, hmore⟩ := wordsBy_cons_cons hc hd t
          simp [hc, hd, hmore, hwords, join_cons_cons]

/-- Replacing the runs of blanks in a stripped text joins the words of the text. -/
theorem replaceRuns_strip (sep t : Text) :
    replaceRuns CodePoint.isBlank sep t.strip = join sep t.words := by
  by_cases hnil : t.strip = []
  · rw [← words_strip, hnil]
    rfl
  · have htight := tight_strip hnil
    have hhead : ¬ t.strip.head?.any CodePoint.isBlank = true := by
      rw [Option.any_eq_true]
      rintro ⟨c, hc, hblank⟩
      rw [htight.head c hc] at hblank
      cases hblank
    rw [replaceRuns_eq_join sep hnil htight.last, if_neg hhead, List.nil_append]
    exact congrArg _ (words_strip t)

/-! ## Deleted blanks -/

/-- A text without the blanks of ASCII. -/
def dense (t : Text) : Text := t.filter fun c => !c.isAsciiBlank

/-- A blank of the first 128 code points is a blank. -/
theorem isBlank_of_isAsciiBlank {c : CodePoint} (h : c.isAsciiBlank = true) :
    c.isBlank = true := by
  have hranges : ∀ n ≤ 0x20, (n == 0x20 || (0x09 ≤ n && n ≤ 0x0D)) = true →
      inRanges blankRanges n = true := by
    decide
  refine hranges c.toNat ?_ h
  simp only [CodePoint.isAsciiBlank, Bool.or_eq_true, beq_iff_eq, Bool.and_eq_true,
    decide_eq_true_eq] at h
  omega

/-- If nothing is wanted of what stands between texts, all that is wanted of them joined is wanted
of the texts. -/
theorem filter_join {q : CodePoint → Bool} {sep : Text} (hsep : sep.filter q = [])
    (ts : List Text) : (join sep ts).filter q = ts.flatten.filter q := by
  induction ts with
  | nil => rfl
  | cons t ts ih =>
    by_cases hnil : ts = []
    · rw [hnil, join_singleton, List.flatten_singleton]
    · rw [join_cons sep t hnil, List.flatten_cons, List.filter_append, List.filter_append, hsep,
        List.append_nil, List.filter_append, ih]

/-- Joining the words of a text deletes all its blanks. -/
theorem dense_join_words (t : Text) :
    dense (join " " t.words) = t.filter fun c => !c.isBlank := by
  have hsep : dense " " = [] := by decide
  rw [dense, filter_join hsep, words, flatten_wordsBy, List.filter_filter]
  refine List.filter_congr fun c _ => ?_
  cases hblank : c.isBlank with
  | true => rw [Bool.not_true, Bool.and_false]
  | false =>
    have hascii : c.isAsciiBlank = false := by
      refine Bool.eq_false_iff.2 fun h => ?_
      rw [isBlank_of_isAsciiBlank h] at hblank
      cases hblank
    rw [hascii]
    rfl

/-- **Joining the words of a text keeps everything but blanks of ASCII** exactly if these are all
the blanks it has. -/
theorem dense_join_words_iff {t : Text} : dense (join " " t.words) = dense t ↔
    ∀ c ∈ t, c.isBlank = true → c.isAsciiBlank = true := by
  rw [dense_join_words]
  constructor
  · intro h c hc hblank
    by_contra hother
    have hkept : c ∈ dense t := List.mem_filter.2 ⟨hc, by simpa using hother⟩
    rw [← h] at hkept
    simp [hblank] at hkept
  · intro h
    refine List.filter_congr fun c hc => congrArg _ (Bool.eq_iff_iff.2 ?_)
    exact ⟨h c hc, isBlank_of_isAsciiBlank⟩

end Localization.Text
