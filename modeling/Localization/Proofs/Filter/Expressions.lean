import Mathlib
import Localization.Proofs.Filter.Rules
import Localization.Proofs.Regex.Matcher

/-!
# The expressions behind the rules

Each rule of the filter stands for a regular expression for the start of a text. Its pattern is kept
here beside the items it is read as, and the expression is found in a text exactly if the rule holds
of it. Where an expression looks for an end as well, the rule may hold of all but a last line feed
(`search_name`, `search_styleClass`); a text without blanks at its ends has none. So what the filter
excludes is what its rules say, and what one of the patterns finds (`excludes_iff_rules`).
-/

namespace Localization.Filter

open Regex

variable {t : Text} {c : CodePoint} {P : Text → Prop} {p : CodePoint → Prop}
  {widths : Nat → Nat × Nat} {rest : List Goal} {steps : Nat}

/-! ## Items -/

/-- Characters as members of a set. -/
def eachOf (cs : List Char) : List SetItem := cs.map fun c => .point c.toNat

/-- The lower-case letters of ASCII as members of a set. -/
def lower : SetItem := .range 0x61 0x7A

/-- The capital letters of ASCII as members of a set. -/
def upper : SetItem := .range 0x41 0x5A

/-- The digits of ASCII as members of a set. -/
def asciiDigit : SetItem := .range 0x30 0x39

/-- The digits of every script as members of a set. -/
def digit : SetItem := .category .digit false

/-- The characters of words as members of a set. -/
def word : SetItem := .category .word false

/-- A character of a set. -/
def anyOf (members : List SetItem) : Item := .set false members

/-- Characters of a set, as many as there are but not fewer than `least`. -/
def many (least : Nat) (members : List SetItem) : Item :=
  .repeated .greedy least none [anyOf members]

/-- Characters one after the other. -/
def inTurn (t : Text) : List Item := t.map fun c => .point c.toNat

/-- The expression of a pattern for the start of a text. -/
def anchored (pattern : Text) (items : List Item) : Regex :=
  ⟨pattern, .off, .place .lineStart :: items, [(0, 0)]⟩

@[simp] theorem holds_eachOf {cs : List Char} :
    (∃ m ∈ eachOf cs, m.holds .off c.toNat = true) ↔ ∃ d ∈ cs, c = .scalar d := by
  have hone (d : Char) :
      (SetItem.point d.toNat).holds .off c.toNat = true ↔ c = .scalar d := by
    rw [← CodePoint.toNat_injective.eq_iff]
    exact beq_iff_eq
  simp [eachOf, hone]

@[simp] theorem holds_lower : lower.holds .off c.toNat = c.isAsciiLower := rfl

@[simp] theorem holds_upper : upper.holds .off c.toNat = c.isAsciiUpper := rfl

@[simp] theorem holds_asciiDigit : asciiDigit.holds .off c.toNat = c.isAsciiDigit := rfl

@[simp] theorem holds_digit : digit.holds .off c.toNat = c.isDigit := by
  simp [digit, SetItem.holds, Category.holds, Flags.off, CodePoint.ofNat_toNat]

@[simp] theorem holds_word : word.holds .off c.toNat = c.isWord := by
  simp [word, SetItem.holds, Category.holds, Flags.off, CodePoint.ofNat_toNat]

/-- Characters of a set admit a text by a run of them. -/
theorem admits_many {members : List SetItem} {least : Nat} (hi : Takes .off (anyOf members) p)
    (h : Admits widths rest steps P) :
    Admits widths (.item .off (many least members) :: rest) (steps + 2) fun t =>
      ∃ run t', t = run ++ t' ∧ (∀ c ∈ run, p c) ∧ least ≤ run.length ∧ P t' :=
  (admits_repeated hi (by simp) h).congr fun t => by simp [Repeats]

/-- An expression for the start of a text is found where its items admit the text. -/
theorem search_anchored {pattern : Text} {items : List Item}
    (h : ∀ widths, Admits widths (goals .off items) steps P)
    (hsteps : steps ≤ 2 * extentOf (.place .lineStart :: items) + 5) :
    (anchored pattern items).search t = true ↔ P t :=
  search_iff rfl rfl (h _) hsteps t

/-! ## Ends -/

/-- A text is in a class, or all of it but a last line feed is. -/
def UpToFeed (P : Text → Prop) (t : Text) : Prop :=
  ∃ u rest, t = u ++ rest ∧ P u ∧ (rest = [] ∨ rest = [.scalar '\n'])

/-- Without a line feed at the end a text is itself in the class. -/
theorem upToFeed_iff (h : ∀ u, t ≠ u ++ [.scalar '\n']) : UpToFeed P t ↔ P t := by
  constructor
  · rintro ⟨u, _, rfl, hu, rfl | rfl⟩
    · rwa [List.append_nil]
    · exact absurd rfl (h u)
  · intro ht
    exact ⟨t, [], t.append_nil.symm, ht, .inl rfl⟩

/-- The same classes are the same up to a last line feed. -/
theorem upToFeed_congr {Q : Text → Prop} (h : ∀ u, P u ↔ Q u) : UpToFeed P t ↔ UpToFeed Q t := by
  simp only [UpToFeed, h]

/-- A text is in one of two classes up to a last line feed when it is so in one of them. -/
theorem upToFeed_or {Q : Text → Prop} :
    UpToFeed (fun u => P u ∨ Q u) t ↔ UpToFeed P t ∨ UpToFeed Q t := by
  constructor
  · rintro ⟨u, e, ht, hu | hu, he⟩
    · exact .inl ⟨u, e, ht, hu, he⟩
    · exact .inr ⟨u, e, ht, hu, he⟩
  · rintro (⟨u, e, ht, hu, he⟩ | ⟨u, e, ht, hu, he⟩)
    · exact ⟨u, e, ht, .inl hu, he⟩
    · exact ⟨u, e, ht, .inr hu, he⟩

/-- The end of a line stands at the end of a text or in front of its last line feed. -/
theorem admits_end (widths : Nat → Nat × Nat) :
    Admits widths (goals .off [.place .lineEnd]) 2 fun t => t = [] ∨ t = [.scalar '\n'] :=
  (admits_lineEnd rfl (admits_nil widths)).congr fun _ => and_iff_left trivial

/-! ## Names -/

/-- Names in code, up to the end of the text. -/
def namePattern : Text :=
  "^(?:[a-z_$][\\w$]*|[A-Za-z_$][\\w$]*[\\d_$][\\w$]*|[A-Z][a-z0-9]+[A-Z][\\w$]*)$"

/-- What comes after the decisive part of a name. -/
def nameRest : Item := many 0 (word :: eachOf ['$'])

/-- What the pattern of names is read as behind the start. -/
def nameItems : List Item :=
  [.branch
    [[anyOf (lower :: eachOf ['_', '$']), nameRest],
     [anyOf (upper :: lower :: eachOf ['_', '$']), nameRest, anyOf (digit :: eachOf ['_', '$']),
      nameRest],
     [anyOf [upper], many 1 [lower, asciiDigit], anyOf [upper], nameRest]],
   .place .lineEnd]

/-- The pattern of names compiles to its items, whatever names characters have. -/
theorem compile_name (characters : Regex.CharacterNames) :
    Regex.compile characters namePattern = .ok (anchored namePattern nameItems) := by
  cbv

/-- A part of a name is one code point that names may have. -/
theorem takes_nameRest : Takes .off (anyOf (word :: eachOf ['$'])) IsNamePoint :=
  takes_set fun c => by simp [IsNamePoint]

/-- The rest of a name admits its characters up to the end. -/
theorem admits_nameRest (widths : Nat → Nat × Nat) :
    Admits widths (goals .off [nameRest, .place .lineEnd]) 4
      (UpToFeed fun u => ∀ c ∈ u, IsNamePoint c) :=
  (admits_many takes_nameRest (admits_end widths)).congr fun t => by simp [UpToFeed]

-- Each form of a name is followed over its items, and the branch puts the forms together. The end
-- admits a last line feed, so every form holds of all but that.

/-- The first branch of names takes those in lower case. -/
theorem admits_lowerName (widths : Nat → Nat × Nat) :
    Admits widths (goals .off [anyOf (lower :: eachOf ['_', '$']), nameRest, .place .lineEnd]) 4
      (UpToFeed fun u => (∀ c ∈ u, IsNamePoint c) ∧ StartsLow u) := by
  have hfirst : Takes .off (anyOf (lower :: eachOf ['_', '$']))
      fun c => c.isAsciiLower = true ∨ IsMark c :=
    takes_set fun c => by simp [IsMark]
  refine (admits_take hfirst (admits_nameRest widths)).congr fun t => ?_
  constructor
  · rintro ⟨c, _, rfl, hc, u, e, rfl, hu, he⟩
    exact ⟨c :: u, e, rfl, ⟨List.forall_mem_cons.2 ⟨isNamePoint_of_low hc, hu⟩, c, u, rfl, hc⟩, he⟩
  · rintro ⟨_, e, rfl, ⟨hall, c, u, rfl, hc⟩, he⟩
    exact ⟨c, u ++ e, rfl, hc, u, e, rfl, (List.forall_mem_cons.1 hall).2, he⟩

/-- The second branch of names takes the marked ones. -/
theorem admits_markedName (widths : Nat → Nat × Nat) :
    Admits widths (goals .off [anyOf (upper :: lower :: eachOf ['_', '$']), nameRest,
        anyOf (digit :: eachOf ['_', '$']), nameRest, .place .lineEnd]) 6
      (UpToFeed fun u => (∀ c ∈ u, IsNamePoint c) ∧ MarkedLater u) := by
  have hfirst : Takes .off (anyOf (upper :: lower :: eachOf ['_', '$']))
      fun c => c.isAsciiLetter = true ∨ IsMark c :=
    takes_set fun c => by simp [IsMark, CodePoint.isAsciiLetter, or_assoc]
  have hmark : Takes .off (anyOf (digit :: eachOf ['_', '$']))
      fun c => c.isDigit = true ∨ IsMark c :=
    takes_set fun c => by simp [IsMark]
  refine (admits_take hfirst (admits_many takes_nameRest
    (admits_take hmark (admits_nameRest widths)))).congr fun t => ?_
  constructor
  · rintro ⟨c, _, rfl, hc, run, _, rfl, hrun, -, d, _, rfl, hd, u, e, rfl, hu, he⟩
    have hpoint : IsNamePoint d :=
      hd.elim (fun h => .inl (CodePoint.isWord_of_isDigit h)) IsMark.isNamePoint
    refine ⟨c :: (run ++ d :: u), e, by simp, ⟨?_, c, _, rfl, hc, d, by simp, hd⟩, he⟩
    rw [List.forall_mem_cons, List.forall_mem_append, List.forall_mem_cons]
    exact ⟨isNamePoint_of_lead hc, hrun, hpoint, hu⟩
  · rintro ⟨_, e, rfl, ⟨hall, c, later, rfl, hc, d, hmem, hd⟩, he⟩
    obtain ⟨run, u, rfl⟩ := List.append_of_mem hmem
    rw [List.forall_mem_cons, List.forall_mem_append, List.forall_mem_cons] at hall
    exact ⟨c, _, rfl, hc, run, d :: (u ++ e), by simp, hall.2.1, Nat.zero_le _, d, u ++ e, rfl, hd,
      u, e, rfl, hall.2.2.2, he⟩

/-- The third branch of names takes those with an inner capital. -/
theorem admits_camelName (widths : Nat → Nat × Nat) :
    Admits widths (goals .off [anyOf [upper], many 1 [lower, asciiDigit], anyOf [upper], nameRest,
        .place .lineEnd]) 6
      (UpToFeed fun u => (∀ c ∈ u, IsNamePoint c) ∧ InnerCapital u) := by
  have hcapital : Takes .off (anyOf [upper]) fun c => c.isAsciiUpper = true :=
    takes_set fun c => by simp
  have hlower : Takes .off (anyOf [lower, asciiDigit])
      fun c => c.isAsciiLower = true ∨ c.isAsciiDigit = true :=
    takes_set fun c => by simp
  refine (admits_take hcapital (admits_many hlower
    (admits_take hcapital (admits_nameRest widths)))).congr fun t => ?_
  constructor
  · rintro ⟨c, _, rfl, hc, run, _, rfl, hrun, hne, d, _, rfl, hd, u, e, rfl, hu, he⟩
    exact ⟨c :: (run ++ d :: u), e, by simp, ⟨forall_isNamePoint_camel hc hrun hd hu, c, run, d, u,
      rfl, hc, List.length_pos_iff.1 hne, hrun, hd⟩, he⟩
  · rintro ⟨_, e, rfl, ⟨hall, c, run, d, u, rfl, hc, hne, hrun, hd⟩, he⟩
    rw [List.forall_mem_cons, List.forall_mem_append, List.forall_mem_cons] at hall
    exact ⟨c, _, rfl, hc, run, d :: (u ++ e), by simp, hrun, List.length_pos_iff.2 hne, d, u ++ e,
      rfl, hd, u, e, rfl, hall.2.2.2, he⟩

/-- The pattern of names is found in names, a line feed at the end allowed. -/
theorem search_name : (anchored namePattern nameItems).search t = true ↔ UpToFeed IsName t := by
  refine search_anchored (fun widths => (admits_branch (.cons ((admits_lowerName widths).mono
    (by omega : 4 ≤ 6)) (.cons (admits_markedName widths) (.cons (admits_camelName widths)
      .nil)))).congr fun t => ?_) (by decide)
  have hname (u : Text) : IsName u ↔ (∀ c ∈ u, IsNamePoint c) ∧ StartsLow u ∨
      (∀ c ∈ u, IsNamePoint c) ∧ MarkedLater u ∨ (∀ c ∈ u, IsNamePoint c) ∧ InnerCapital u := by
    rw [IsName, and_or_left, and_or_left]
  rw [upToFeed_congr hname, upToFeed_or, upToFeed_or]
  simp

/-! ## Beginnings -/

/-- Characters one after the other at the end of an expression admit what starts with them. -/
theorem admits_inTurn (widths : Nat → Nat × Nat) (lead : Text) :
    Admits widths (goals .off (inTurn lead)) 1 fun t => lead <+: t := by
  rw [← List.append_nil (goals .off (inTurn lead))]
  exact (admits_points rfl lead (admits_nil widths)).congr fun t => by
    simp [List.IsPrefix, eq_comm]

/-- Addresses by their scheme or beginning. -/
def addressPattern : Text := "^(?:[a-zA-Z][a-zA-Z0-9+.\\-]*://|mailto:|tel:|www\\.)"

/-- What the pattern of addresses is read as behind the start. -/
def addressItems : List Item :=
  [.branch
    [anyOf [lower, upper] :: many 0 (lower :: upper :: asciiDigit :: eachOf ['+', '.', '-']) ::
        inTurn "://",
      inTurn "mailto:", inTurn "tel:", inTurn "www."]]

/-- The pattern of addresses compiles to its items, whatever names characters have. -/
theorem compile_address (characters : Regex.CharacterNames) :
    Regex.compile characters addressPattern = .ok (anchored addressPattern addressItems) := by
  cbv

/-- A letter is in lower or in upper case. -/
theorem isAsciiLetter_iff :
    c.isAsciiLetter = true ↔ c.isAsciiLower = true ∨ c.isAsciiUpper = true := by
  rw [CodePoint.isAsciiLetter, Bool.or_eq_true, or_comm]

/-- The class of letters takes one letter. -/
theorem takes_letter : Takes .off (anyOf [lower, upper]) fun c => c.isAsciiLetter = true :=
  takes_set fun c => by simp [isAsciiLetter_iff]

/-- The first branch of addresses takes what has a scheme. -/
theorem admits_scheme (widths : Nat → Nat × Nat) :
    Admits widths (goals .off (anyOf [lower, upper] ::
      many 0 (lower :: upper :: asciiDigit :: eachOf ['+', '.', '-']) :: inTurn "://")) 3
        HasScheme := by
  have hpoint : Takes .off (anyOf (lower :: upper :: asciiDigit :: eachOf ['+', '.', '-']))
      IsSchemePoint :=
    takes_set fun c => by simp [IsSchemePoint, isAsciiLetter_iff, or_assoc]
  refine (admits_take takes_letter (admits_many hpoint (admits_inTurn widths "://"))).congr
    fun t => ?_
  constructor
  · rintro ⟨c, _, rfl, hc, scheme, rest, rfl, hscheme, -, hrest⟩
    exact ⟨c, scheme, rest, rfl, hc, hscheme, hrest⟩
  · rintro ⟨c, scheme, rest, rfl, hc, hscheme, hrest⟩
    exact ⟨c, scheme ++ rest, rfl, hc, scheme, rest, rfl, hscheme, Nat.zero_le _, hrest⟩

/-- The pattern of addresses is found in addresses. -/
theorem search_address :
    (anchored addressPattern addressItems).search t = true ↔ IsAddress t := by
  have hlead (widths : Nat → Nat × Nat) (lead : Text) :
      Admits widths (goals .off (inTurn lead) ++ goals .off []) 3 fun t => lead <+: t := by
    rw [goals, goals, List.map_nil, List.append_nil]
    exact (admits_inTurn widths lead).mono (by omega)
  refine search_anchored (fun widths => (admits_branch (.cons (admits_scheme widths)
    (.cons (hlead widths "mailto:") (.cons (hlead widths "tel:") (.cons (hlead widths "www.")
      .nil))))).congr fun t => ?_) (by decide)
  simp [IsAddress]

/-- Paths by their beginning. -/
def pathPattern : Text := "^(?:[/\\\\]|\\.\x7b1,2\x7d[/\\\\]|~[/\\\\]|[a-zA-Z]:\\\\)"

/-- A slash in either direction. -/
def slash : Item := anyOf (eachOf ['/', '\\'])

/-- What the pattern of paths is read as behind the start. -/
def pathItems : List Item :=
  [.branch
    [[slash],
     [.repeated .greedy 1 (some 2) (inTurn "."), slash],
     inTurn "~" ++ [slash],
     anyOf [lower, upper] :: inTurn ":\\"]]

/-- The pattern of paths compiles to its items, whatever names characters have. -/
theorem compile_path (characters : Regex.CharacterNames) :
    Regex.compile characters pathPattern = .ok (anchored pathPattern pathItems) := by
  cbv

/-- A slash of either kind at the end of an expression admits what starts with one. -/
theorem admits_slash (widths : Nat → Nat × Nat) :
    Admits widths (goals .off [slash]) 1 fun t => ("/" : Text) <+: t ∨ ("\\" : Text) <+: t := by
  have hslash : Takes .off slash fun c => c = .scalar '/' ∨ c = .scalar '\\' :=
    takes_set fun c => by simp
  refine (admits_take hslash (admits_nil widths)).congr fun t => ?_
  change _ ↔ [CodePoint.scalar '/'] <+: t ∨ [CodePoint.scalar '\\'] <+: t
  cases t with
  | nil => simp
  | cons c t => simp [List.cons_prefix_cons, eq_comm]

/-- Something and then a slash. -/
theorem exists_append_slash {lead : Text} :
    (∃ t', t = lead ++ t' ∧ (("/" : Text) <+: t' ∨ ("\\" : Text) <+: t')) ↔
      lead ++ ("/" : Text) <+: t ∨ lead ++ ("\\" : Text) <+: t := by
  constructor
  · rintro ⟨t', rfl, h⟩
    rwa [List.prefix_append_right_inj, List.prefix_append_right_inj]
  · rintro (⟨rest, rfl⟩ | ⟨rest, rfl⟩)
    · exact ⟨"/" ++ rest, List.append_assoc .., .inl ⟨rest, rfl⟩⟩
    · exact ⟨"\\" ++ rest, List.append_assoc .., .inr ⟨rest, rfl⟩⟩

/-- One dot or two and then a slash. -/
theorem admits_dots (widths : Nat → Nat × Nat) :
    Admits widths (goals .off [.repeated .greedy 1 (some 2) (inTurn "."), slash]) 3 fun t =>
      ∃ lead ∈ (["./", ".\\", "../", "..\\"] : List Text), lead <+: t := by
  refine (admits_repeated (takes_point rfl (.scalar '.')) (by simp)
    (admits_slash widths)).congr fun t => ?_
  have hdots : Repeats (· = .scalar '.') 1 (some 2)
      (fun t => ("/" : Text) <+: t ∨ ("\\" : Text) <+: t) 0 t ↔
        (∃ t', t = ("." : Text) ++ t' ∧ (("/" : Text) <+: t' ∨ ("\\" : Text) <+: t')) ∨
          ∃ t', t = (".." : Text) ++ t' ∧ (("/" : Text) <+: t' ∨ ("\\" : Text) <+: t') := by
    constructor
    · rintro ⟨taken, t', rfl, hall, hleast, hmost, ht⟩
      have hlen : taken.length ≤ 2 := by simpa using hmost 2 rfl
      obtain - | ⟨a, - | ⟨b, - | ⟨d, taken⟩⟩⟩ := taken
      · simp at hleast
      · obtain rfl : a = .scalar '.' := hall a (by simp)
        exact .inl ⟨t', rfl, ht⟩
      · obtain rfl : a = .scalar '.' := hall a (by simp)
        obtain rfl : b = .scalar '.' := hall b (by simp)
        exact .inr ⟨t', rfl, ht⟩
      · simp at hlen
    · rintro (⟨t', rfl, ht⟩ | ⟨t', rfl, ht⟩)
      · exact ⟨".", t', rfl, by decide, by decide, by decide, ht⟩
      · exact ⟨"..", t', rfl, by decide, by decide, by decide, ht⟩
  rw [hdots, exists_append_slash, exists_append_slash, or_assoc]
  simp only [List.mem_cons, List.not_mem_nil, or_false, exists_eq_or_imp, exists_eq_left]
  rfl

/-- One branch of paths takes what starts at the home folder. -/
theorem admits_home (widths : Nat → Nat × Nat) :
    Admits widths (goals .off (inTurn "~" ++ [slash])) 3 fun t =>
      ("~/" : Text) <+: t ∨ ("~\\" : Text) <+: t := by
  refine (admits_points rfl "~" ((admits_slash widths).mono (by omega : 1 ≤ 3))).congr
    fun t => exists_append_slash

/-- One branch of paths takes what starts with a drive. -/
theorem admits_drive (widths : Nat → Nat × Nat) :
    Admits widths (goals .off (anyOf [lower, upper] :: inTurn ":\\")) 3 fun t =>
      ∃ c rest, t = c :: rest ∧ c.isAsciiLetter = true ∧ (":\\" : Text) <+: rest :=
  (admits_take takes_letter (admits_inTurn widths ":\\")).mono (by omega)

/-- The pattern of paths is found in paths. -/
theorem search_path : (anchored pathPattern pathItems).search t = true ↔ IsPath t := by
  refine search_anchored (fun widths => (admits_branch (.cons ((admits_slash widths).mono
    (by omega : 1 ≤ 3)) (.cons (admits_dots widths) (.cons (admits_home widths)
      (.cons (admits_drive widths) .nil))))).congr fun t => ?_) (by decide)
  simp only [List.mem_cons, List.not_mem_nil, or_false, exists_eq_or_imp, exists_eq_left, IsPath,
    pathLeads, or_assoc]

/-- Code by its first character. -/
def codePattern : Text := "^[\x7b\x7d\\[\\]();]"

/-- What the pattern of code is read as behind the start. -/
def codeItems : List Item := [anyOf (eachOf ['\x7b', '\x7d', '[', ']', '(', ')', ';'])]

/-- The pattern of code compiles to its items, whatever names characters have. -/
theorem compile_code (characters : Regex.CharacterNames) :
    Regex.compile characters codePattern = .ok (anchored codePattern codeItems) := by
  cbv

/-- The pattern of code is found in what starts like code. -/
theorem search_code : (anchored codePattern codeItems).search t = true ↔ StartsLikeCode t := by
  have hcode : Takes .off (anyOf (eachOf ['\x7b', '\x7d', '[', ']', '(', ')', ';']))
      fun c => c ∈ ("\x7b\x7d[]();" : Text) :=
    takes_set fun c => holds_eachOf.trans (by
      change _ ↔ c ∈ [CodePoint.scalar '\x7b', .scalar '\x7d', .scalar '[', .scalar ']',
        .scalar '(', .scalar ')', .scalar ';']
      simp)
  refine search_anchored (fun widths => (admits_take hcode (admits_nil widths)).congr
    fun t => ?_) (by decide)
  simp [StartsLikeCode]

/-! ## Classes of style sheets -/

/-- Classes of style sheets, up to the end of the text. -/
def styleClassPattern : Text := "^\\.[a-zA-Z][\\w-]*$"

/-- What the pattern of style classes is read as behind the start. -/
def styleClassItems : List Item :=
  inTurn "." ++ [anyOf [lower, upper], many 0 (word :: eachOf ['-']), .place .lineEnd]

/-- The pattern of style classes compiles to its items, whatever names characters have. -/
theorem compile_styleClass (characters : Regex.CharacterNames) :
    Regex.compile characters styleClassPattern =
      .ok (anchored styleClassPattern styleClassItems) := by
  cbv

/-- The pattern of style classes is found in style classes, a line feed at the end allowed. -/
theorem search_styleClass :
    (anchored styleClassPattern styleClassItems).search t = true ↔ UpToFeed IsStyleClass t := by
  have hpoint : Takes .off (anyOf (word :: eachOf ['-']))
      fun c => c.isWord = true ∨ c = .scalar '-' :=
    takes_set fun c => by simp
  refine search_anchored (fun widths => (admits_points rfl "." (admits_take takes_letter
    (admits_many hpoint (admits_end widths)))).congr fun t => ?_) (by decide)
  constructor
  · rintro ⟨_, rfl, c, _, rfl, hc, u, e, rfl, hu, -, he⟩
    exact ⟨.scalar '.' :: c :: u, e, rfl, ⟨c, u, rfl, hc, hu⟩, he⟩
  · rintro ⟨_, e, rfl, ⟨c, u, rfl, hc, hu⟩, he⟩
    exact ⟨c :: (u ++ e), rfl, c, u ++ e, rfl, hc, u, e, rfl, hu, Nat.zero_le _, he⟩

/-! ## What is excluded -/

/-- The patterns of the rules. -/
def rulePatterns : List Text :=
  [namePattern, addressPattern, pathPattern, styleClassPattern, codePattern]

/-- Stripped of blanks a text is for machines if the expression of some pattern is found in it. -/
theorem isTechnical_strip_iff (characters : Regex.CharacterNames) : IsTechnical t.strip ↔
    ∃ p ∈ rulePatterns, ∃ r, Regex.compile characters p = .ok r ∧ r.search t.strip = true := by
  have hfeed (u : Text) : t.strip ≠ u ++ [.scalar '\n'] := by
    intro h
    have hblank := Text.trimEnd_eq_concat h
    exact absurd hblank (by decide)
  simp only [rulePatterns, List.mem_cons, List.not_mem_nil, or_false, exists_eq_or_imp,
    exists_eq_left, compile_name, compile_address, compile_path, compile_styleClass, compile_code,
    Except.ok.injEq, exists_eq_left', search_name, search_address, search_path, search_styleClass,
    search_code, upToFeed_iff hfeed, IsTechnical]

/-- **The filter excludes what its rules say.** Where no expressions of its own are set, a text is
left alone if it is blank, too short once stripped, or for machines by one of the rules; the rules
say what the patterns find in it, whatever the names of characters are, and with a blank inside it
is neither a name nor a class of a style sheet. -/
theorem excludes_iff_rules (characters : Regex.CharacterNames) (minLength : Int) (t : Text) :
    ((⟨minLength, []⟩ : Filter).excludes t = true ↔
      t.strip = [] ∨ (t.strip.length : Int) < minLength ∨ IsTechnical t.strip) ∧
    (IsTechnical t.strip ↔
      ∃ p ∈ rulePatterns, ∃ r,
        Regex.compile characters p = .ok r ∧ r.search t.strip = true) ∧
    ((∃ c ∈ t.strip, c.isBlank = true) → ¬ IsName t.strip ∧ ¬ IsStyleClass t.strip) := by
  refine ⟨?_, isTechnical_strip_iff characters, ?_⟩
  · simp only [excludes, List.any_nil, Bool.or_false, Bool.or_eq_true, List.isEmpty_iff,
      decide_eq_true_eq, isTechnical_iff, or_assoc]
  · rintro ⟨c, hc, hblank⟩
    exact ⟨not_isName_of_blank hc hblank, not_isStyleClass_of_blank hc hblank⟩

end Localization.Filter
