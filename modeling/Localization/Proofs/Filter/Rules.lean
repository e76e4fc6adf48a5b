import Mathlib.Data.List.TakeWhile
import Localization.Filter
import Localization.Proofs.Text.Classes
import Localization.Proofs.Text.Parts

/-!
# The rules of the filter in words

The filter decides by walking a text. Here each of its rules is said by what a text is made of: a
name in code by its characters and one of three forms, an address by its scheme or its beginning, a
path by its beginning, a class of a style sheet by its characters, and code by its first character.
`isTechnical_iff` puts the rules together. Names and classes are made of word characters and a few
marks, so a text with a blank inside is neither (`not_isName_of_blank`,
`not_isStyleClass_of_blank`).
-/

namespace Localization.Filter

variable {t : Text} {c : CodePoint}

/-! ## Names -/

/-- The underscore and the dollar sign, which mark a name as one wherever they stand. -/
def IsMark (c : CodePoint) : Prop := c = .scalar '_' ∨ c = .scalar '$'

/-- Characters of names. -/
def IsNamePoint (c : CodePoint) : Prop := c.isWord = true ∨ c = .scalar '$'

/-- Names in lower case start with a lower-case letter or a mark. -/
def StartsLow (t : Text) : Prop := ∃ c rest, t = c :: rest ∧ (c.isAsciiLower = true ∨ IsMark c)

/-- Marked names start with a letter or a mark and have a digit or a mark later on. -/
def MarkedLater (t : Text) : Prop :=
  ∃ c rest, t = c :: rest ∧ (c.isAsciiLetter = true ∨ IsMark c) ∧
    ∃ d ∈ rest, d.isDigit = true ∨ IsMark d

/-- Names with an inner capital: a capital, lower-case letters and digits, and a capital again. -/
def InnerCapital (t : Text) : Prop :=
  ∃ c lower d rest, t = c :: (lower ++ d :: rest) ∧ c.isAsciiUpper = true ∧ lower ≠ [] ∧
    (∀ x ∈ lower, x.isAsciiLower = true ∨ x.isAsciiDigit = true) ∧ d.isAsciiUpper = true

/-- A name in code. -/
def IsName (t : Text) : Prop :=
  (∀ c ∈ t, IsNamePoint c) ∧ (StartsLow t ∨ MarkedLater t ∨ InnerCapital t)

/-- The check for code points of names is the rule for them. -/
theorem isCodePoint_iff : isCodePoint c = true ↔ IsNamePoint c := by
  rw [isCodePoint, Bool.or_eq_true, decide_eq_true_eq, IsNamePoint]

/-- A mark is a code point that names may have. -/
theorem IsMark.isNamePoint (h : IsMark c) : IsNamePoint c := by
  obtain rfl | rfl := h
  · exact .inl rfl
  · exact .inr rfl

/-- Whatever may come first in a name may come later. -/
theorem isNamePoint_of_lead (h : c.isAsciiLetter = true ∨ IsMark c) : IsNamePoint c := by
  obtain h | h := h
  · rw [CodePoint.isAsciiLetter, Bool.or_eq_true] at h
    exact .inl (h.elim CodePoint.isWord_of_isAsciiUpper CodePoint.isWord_of_isAsciiLower)
  · exact h.isNamePoint

/-- What a lower-case name starts with is a code point that names may have. -/
theorem isNamePoint_of_low (h : c.isAsciiLower = true ∨ IsMark c) : IsNamePoint c :=
  h.elim (fun h => .inl (CodePoint.isWord_of_isAsciiLower h)) IsMark.isNamePoint

/-- The check for names in lower case is the rule for them. -/
theorem isLowerName_iff : isLowerName t = true ↔ (∀ c ∈ t, IsNamePoint c) ∧ StartsLow t := by
  cases t with
  | nil => simp [isLowerName, StartsLow]
  | cons c t =>
    have hform : StartsLow (c :: t) ↔ c.isAsciiLower = true ∨ IsMark c := by simp [StartsLow]
    rw [hform, List.forall_mem_cons]
    simp only [isLowerName, Bool.and_eq_true, Bool.or_eq_true, decide_eq_true_eq, or_assoc,
      List.all_eq_true, isCodePoint_iff]
    exact ⟨fun ⟨h, hall⟩ => ⟨⟨isNamePoint_of_low h, hall⟩, h⟩, fun ⟨⟨_, hall⟩, h⟩ => ⟨h, hall⟩⟩

/-- The check for marked names is the rule for them. -/
theorem isMarkedName_iff : isMarkedName t = true ↔ (∀ c ∈ t, IsNamePoint c) ∧ MarkedLater t := by
  cases t with
  | nil => simp [isMarkedName, MarkedLater]
  | cons c t =>
    have hform : MarkedLater (c :: t) ↔ (c.isAsciiLetter = true ∨ IsMark c) ∧
        ∃ d ∈ t, d.isDigit = true ∨ IsMark d := by
      simp [MarkedLater]
    rw [hform, List.forall_mem_cons]
    simp only [isMarkedName, Bool.and_eq_true, Bool.or_eq_true, decide_eq_true_eq, or_assoc,
      List.all_eq_true, List.any_eq_true, isCodePoint_iff]
    exact ⟨fun ⟨⟨h, hall⟩, hlater⟩ => ⟨⟨isNamePoint_of_lead h, hall⟩, h, hlater⟩,
      fun ⟨⟨_, hall⟩, h, hlater⟩ => ⟨⟨h, hall⟩, hlater⟩⟩

/-- A capital is neither a lower-case letter nor a digit. -/
theorem not_lower_of_isAsciiUpper (h : c.isAsciiUpper = true) :
    (c.isAsciiLower || c.isAsciiDigit) = false := by
  simp only [CodePoint.isAsciiUpper, CodePoint.isAsciiLower, CodePoint.isAsciiDigit,
    Bool.and_eq_true, Bool.or_eq_false_iff, Bool.and_eq_false_iff, decide_eq_true_eq,
    decide_eq_false_iff_not] at h ⊢
  omega

/-- The lower-case part of a name with an inner capital ends at that capital. -/
theorem isCamelName_cons : isCamelName (c :: t) = true ↔ c.isAsciiUpper = true ∧
    ∃ lower d rest, t = lower ++ d :: rest ∧ lower ≠ [] ∧
      (∀ x ∈ lower, x.isAsciiLower = true ∨ x.isAsciiDigit = true) ∧ d.isAsciiUpper = true ∧
      ∀ x ∈ rest, IsNamePoint x := by
  obtain ⟨lower, hlower⟩ : ∃ l, t.takeWhile (fun d => d.isAsciiLower || d.isAsciiDigit) = l :=
    ⟨_, rfl⟩
  have hcamel : isCamelName (c :: t) = true ↔ (c.isAsciiUpper = true ∧ lower ≠ []) ∧
      ∃ d rest, t.drop lower.length = d :: rest ∧ d.isAsciiUpper = true ∧
        ∀ x ∈ rest, IsNamePoint x := by
    simp only [isCamelName, hlower, Bool.and_eq_true]
    cases t.drop lower.length with
    | nil => simp
    | cons d rest => simp [isCodePoint_iff]
  rw [hcamel]
  constructor
  · rintro ⟨⟨hc, hne⟩, d, rest, hdrop, hd, hrest⟩
    obtain ⟨s, hs⟩ := List.takeWhile_prefix (fun d => d.isAsciiLower || d.isAsciiDigit) (l := t)
    rw [hlower] at hs
    rw [← hs, List.drop_left] at hdrop
    refine ⟨hc, lower, d, rest, by rw [← hs, hdrop], hne, fun x hx => ?_, hd, hrest⟩
    rw [← hlower] at hx
    simpa using List.mem_takeWhile_imp hx
  · rintro ⟨hc, lower', d, rest, rfl, hne, hall, hd, hrest⟩
    obtain rfl : lower' = lower := by
      rw [← hlower, List.takeWhile_append_of_pos fun x hx => Bool.or_eq_true_iff.2 (hall x hx),
        List.takeWhile_cons_of_neg (by simp [not_lower_of_isAsciiUpper hd]), List.append_nil]
    exact ⟨⟨hc, hne⟩, d, rest, List.drop_left, hd, hrest⟩

/-- A name with an inner capital is one if what comes after that capital is. -/
theorem forall_isNamePoint_camel {lower rest : Text} {d : CodePoint} (hc : c.isAsciiUpper = true)
    (hlower : ∀ x ∈ lower, x.isAsciiLower = true ∨ x.isAsciiDigit = true)
    (hd : d.isAsciiUpper = true) (hrest : ∀ x ∈ rest, IsNamePoint x) :
    ∀ x ∈ c :: (lower ++ d :: rest), IsNamePoint x := by
  rw [List.forall_mem_cons, List.forall_mem_append, List.forall_mem_cons]
  refine ⟨.inl (CodePoint.isWord_of_isAsciiUpper hc), fun x hx => .inl ?_,
    .inl (CodePoint.isWord_of_isAsciiUpper hd), hrest⟩
  exact (hlower x hx).elim CodePoint.isWord_of_isAsciiLower CodePoint.isWord_of_isAsciiDigit

/-- The check for names with an inner capital is the rule for them. -/
theorem isCamelName_iff : isCamelName t = true ↔ (∀ c ∈ t, IsNamePoint c) ∧ InnerCapital t := by
  cases t with
  | nil => simp [isCamelName, InnerCapital]
  | cons c t =>
    rw [isCamelName_cons]
    constructor
    · rintro ⟨hc, lower, d, rest, rfl, hne, hall, hd, hrest⟩
      exact ⟨forall_isNamePoint_camel hc hall hd hrest, c, lower, d, rest, rfl, hc, hne, hall, hd⟩
    · rintro ⟨hpoints, _, lower, d, rest, ⟨rfl, rfl⟩, hc, hne, hall, hd⟩
      exact ⟨hc, lower, d, rest, rfl, hne, hall, hd, fun x hx => hpoints x (by simp [hx])⟩

/-- The check for names is the rule for them. -/
theorem isName_iff : isName t = true ↔ IsName t := by
  rw [isName, Bool.or_eq_true, Bool.or_eq_true, isLowerName_iff, isMarkedName_iff,
    isCamelName_iff, IsName]
  tauto

/-! ## Addresses and paths -/

/-- Characters of a scheme after the first. -/
def IsSchemePoint (c : CodePoint) : Prop :=
  c.isAsciiLetter = true ∨ c.isAsciiDigit = true ∨ c = .scalar '+' ∨ c = .scalar '.' ∨
    c = .scalar '-'

/-- A text starts with a scheme and what separates it from the rest. -/
def HasScheme (t : Text) : Prop :=
  ∃ c scheme rest, t = c :: (scheme ++ rest) ∧ c.isAsciiLetter = true ∧
    (∀ d ∈ scheme, IsSchemePoint d) ∧ ("://" : Text) <+: rest

/-- An address. -/
def IsAddress (t : Text) : Prop :=
  HasScheme t ∨ ∃ lead ∈ (["mailto:", "tel:", "www."] : List Text), lead <+: t

/-- A colon ends a scheme, so what separates it from the rest comes after the longest run of its
characters. -/
theorem hasScheme_iff : hasScheme t = true ↔ HasScheme t := by
  cases t with
  | nil => simp [hasScheme, HasScheme]
  | cons c t =>
    rw [hasScheme, Bool.and_eq_true, Text.startsWith_iff]
    constructor
    · rintro ⟨hc, hrest⟩
      refine ⟨c, _, _, congrArg _ List.takeWhile_append_dropWhile.symm, hc, fun d hd => ?_, hrest⟩
      simpa [IsSchemePoint, or_assoc] using List.mem_takeWhile_imp hd
    · rintro ⟨_, scheme, rest, ⟨rfl, rfl⟩, hc, hscheme, after, rfl⟩
      refine ⟨hc, ?_⟩
      rw [List.dropWhile_append_of_pos]
      · exact ⟨after, rfl⟩
      · intro d hd
        simpa [IsSchemePoint, or_assoc] using hscheme d hd

/-- The check for addresses is the rule for them. -/
theorem isAddress_iff : isAddress t = true ↔ IsAddress t := by
  simp [isAddress, IsAddress, hasScheme_iff, Text.startsWith_iff, or_assoc]

/-- The beginnings of paths other than a drive. -/
def pathLeads : List Text := ["/", "\\", "./", ".\\", "../", "..\\", "~/", "~\\"]

/-- A path of a file. -/
def IsPath (t : Text) : Prop :=
  (∃ lead ∈ pathLeads, lead <+: t) ∨
    ∃ c rest, t = c :: rest ∧ c.isAsciiLetter = true ∧ (":\\" : Text) <+: rest

/-- A beginning is met one character after the other. -/
theorem cons_prefix_iff {lead : Text} :
    c :: lead <+: t ↔ t.head? = some c ∧ lead <+: t.tail := by
  cases t with
  | nil => simp
  | cons d t => simp [List.cons_prefix_cons, eq_comm]

/-- The check for paths is the rule for them. -/
theorem isPath_iff : isPath t = true ↔ IsPath t := by
  have hleads : pathLeads = [[.scalar '/'], [.scalar '\\'], [.scalar '.', .scalar '/'],
      [.scalar '.', .scalar '\\'], [.scalar '.', .scalar '.', .scalar '/'],
      [.scalar '.', .scalar '.', .scalar '\\'], [.scalar '~', .scalar '/'],
      [.scalar '~', .scalar '\\']] := rfl
  cases t with
  | nil => simp [isPath, IsPath, hleads]
  | cons c t =>
    have hslash (o : Option CodePoint) :
        (o.any fun c => c = .scalar '/' || c = .scalar '\\') = true ↔
          o = some (.scalar '/') ∨ o = some (.scalar '\\') := by
      cases o with
      | none => simp
      | some d => simp
    have hdrive : (∃ d rest, c :: t = d :: rest ∧ d.isAsciiLetter = true ∧
        (":\\" : Text) <+: rest) ↔ c.isAsciiLetter = true ∧ (":\\" : Text) <+: t := by
      simp
    simp only [isPath, IsPath, hleads, hslash, hdrive, List.mem_cons, List.not_mem_nil, or_false,
      exists_eq_or_imp, exists_eq_left, cons_prefix_iff, List.nil_prefix, and_true, List.head?_cons,
      List.tail_cons, Option.some.injEq, Bool.or_eq_true, Bool.and_eq_true, decide_eq_true_eq,
      Text.startsWith_iff, beq_iff_eq, and_or_left, or_assoc]

/-! ## Style sheets and code -/

/-- A class of a style sheet. -/
def IsStyleClass (t : Text) : Prop :=
  ∃ c rest, t = .scalar '.' :: c :: rest ∧ c.isAsciiLetter = true ∧
    ∀ d ∈ rest, d.isWord = true ∨ d = .scalar '-'

/-- The check for style classes is the rule for them. -/
theorem isStyleClass_iff : isStyleClass t = true ↔ IsStyleClass t := by
  fun_cases isStyleClass t with
  | case1 c rest => simp [IsStyleClass]
  | case2 t hother =>
    refine iff_of_false Bool.false_ne_true ?_
    rintro ⟨c, rest, rfl, -⟩
    exact hother c rest rfl

/-- A text that starts like code. -/
def StartsLikeCode (t : Text) : Prop := ∃ c rest, t = c :: rest ∧ c ∈ ("\x7b\x7d[]();" : Text)

/-- The check for code is the rule for it. -/
theorem startsLikeCode_iff : startsLikeCode t = true ↔ StartsLikeCode t := by
  cases t with
  | nil => simp [startsLikeCode, StartsLikeCode]
  | cons c t => simp [startsLikeCode, StartsLikeCode]

/-! ## All rules -/

/-- A text is for machines by one of the rules. -/
def IsTechnical (t : Text) : Prop :=
  IsName t ∨ IsAddress t ∨ IsPath t ∨ IsStyleClass t ∨ StartsLikeCode t

/-- **The filter's walk follows the rules.** -/
theorem isTechnical_iff : isTechnical t = true ↔ IsTechnical t := by
  simp only [isTechnical, Bool.or_eq_true, isName_iff, isAddress_iff, isPath_iff, isStyleClass_iff,
    startsLikeCode_iff, IsTechnical, or_assoc]

/-! ## Blanks -/

/-- A text with a blank in it is no name. -/
theorem not_isName_of_blank (hc : c ∈ t) (hblank : c.isBlank = true) : ¬ IsName t := by
  rintro ⟨hall, -⟩
  obtain hword | rfl := hall c hc
  · rw [CodePoint.isWord_of_isBlank hblank] at hword
    exact Bool.false_ne_true hword
  · exact absurd hblank (by decide)

/-- A text with a blank in it is no style class. -/
theorem not_isStyleClass_of_blank (hc : c ∈ t) (hblank : c.isBlank = true) : ¬ IsStyleClass t := by
  rintro ⟨d, rest, rfl, hd, hrest⟩
  have hword := CodePoint.isWord_of_isBlank hblank
  obtain rfl | hc := List.mem_cons.1 hc
  · exact absurd hblank (by decide)
  obtain rfl | hc := List.mem_cons.1 hc
  · rw [CodePoint.isAsciiLetter, Bool.or_eq_true] at hd
    have := hd.elim CodePoint.isWord_of_isAsciiUpper CodePoint.isWord_of_isAsciiLower
    exact Bool.false_ne_true (hword.symm.trans this)
  · obtain h | rfl := hrest c hc
    · exact Bool.false_ne_true (hword.symm.trans h)
    · exact absurd hblank (by decide)

end Localization.Filter
