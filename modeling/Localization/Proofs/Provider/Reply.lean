import Mathlib.Logic.Function.Iterate
import Localization.Proofs.Text.Case
import Localization.Proofs.Text.Words
import Localization.Provider.Prompt

/-!
# Cleaning replies

A reply is cleaned in one pass, which takes off at most one of each ornament, from the outermost in:
blanks, a fence, a pair of quotes, and each of the lead-ins, in this order. So what is taken off is
always a dress of that shape (`Dressed`), and a text without ornaments (`Bare`) comes out of every
such dress, unless blanks stand just inside its quotes (`Unpadded`). Ornaments that are nested in
another way, or twice, take several passes: a pass changes nothing exactly if there is no ornament
left (`cleaned_eq_self_iff`), and each one that changes something makes the reply shorter.
-/

namespace Localization.Provider

open Text (InEitherCase)

variable {core led quoted t lead written rest : Text} {leads : List Text}

/-! ## Ornaments -/

/-- A text in a fence. -/
def Fenced (t : Text) : Prop := Text.ofString "<text>" <+: t ∧ Text.ofString "</text>" <:+ t

/-- A text in a pair of quotes. -/
def Quoted (t : Text) : Prop :=
  ∃ q body, (q = .scalar '"' ∨ q = .scalar '\'') ∧ t = q :: body ++ [q]

/-- A text behind a lead-in, in whatever case it is written. -/
def LedBy (lead t : Text) : Prop := ∃ written rest, t = written ++ rest ∧ InEitherCase lead written

/-- A text without ornaments. -/
structure Bare (t : Text) : Prop where
  stripped : t.strip = t
  notFenced : ¬ Fenced t
  notQuoted : ¬ Quoted t
  notLed : ∀ lead ∈ leadIns, ¬ LedBy lead t

/-! ## Lead-ins -/

/-- The lead-ins are plain. -/
theorem plain_of_mem_leadIns (h : lead ∈ leadIns) : lead.Plain := by
  have hall : ∀ lead ∈ leadIns,
      (∀ c ∈ lead.lower, c ≠ .scalar 'σ' ∧ c ≠ .scalar 'ς') ∧
      CodePoint.scalar '\u0307' ∉ lead.lower ∧ lead.lower.getLast? ≠ some (.scalar 'i') ∧
      lead.map CodePoint.lower = lead.lower.map ([·]) := by
    decide +kernel
  obtain ⟨hsigma, hdot, hlast, hpointwise⟩ := hall lead h
  exact ⟨⟨hsigma, hdot, hlast⟩, hpointwise⟩

/-- No lead-in begins with another one. -/
theorem eq_of_ledBy {lead' : Text} (hlead : lead ∈ leadIns) (hlead' : lead' ∈ leadIns)
    (h : LedBy lead t) (h' : LedBy lead' t) : lead = lead' := by
  have hapart : ∀ lead ∈ leadIns, ∀ lead' ∈ leadIns, lead.lower <+: lead'.lower → lead = lead' := by
    decide +kernel
  rcases List.prefix_or_prefix_of_prefix ((Text.begins_iff (plain_of_mem_leadIns hlead)).2 h)
    ((Text.begins_iff (plain_of_mem_leadIns hlead')).2 h') with hprefix | hprefix
  · exact hapart lead hlead lead' hlead' hprefix
  · exact (hapart lead' hlead' lead hlead hprefix).symm

/-- In whatever case it is written, a lead-in begins and ends with a code point that is no blank,
and does not begin like another ornament. -/
theorem tight_of_inEitherCase (hlead : lead ∈ leadIns) (h : InEitherCase lead written) :
    written.Tight ∧ ∀ c ∈ written.head?, c ∉ Text.ofString "<\"'" := by
  have hends : ∀ lead ∈ leadIns, lead ≠ [] ∧
      (∀ c ∈ lead.head?.map CodePoint.lower, c ∈ [[.scalar 't'], [CodePoint.scalar 'h']]) ∧
      ∀ c ∈ lead.getLast?.map CodePoint.lower, c = [.scalar ':'] := by
    decide +kernel
  have hsame : ∀ c ∈ Text.ofString "<\"'", c.lower = [c] := by
    decide +kernel
  obtain ⟨hne, hfirst, hlast⟩ := hends lead hlead
  rw [← List.head?_map, ← h, List.head?_map] at hfirst
  rw [← List.getLast?_map, ← h, List.getLast?_map] at hlast
  refine ⟨⟨?_, fun c hc => ?_, fun c hc => ?_⟩, fun c hc hmem => ?_⟩
  · rintro rfl
    exact hne (List.length_eq_zero_iff.1 h.length_eq.symm)
  · have hlower := hfirst c.lower (Option.mem_map_of_mem _ hc)
    refine Bool.eq_false_iff.2 fun hblank => ?_
    rw [CodePoint.lower_of_isBlank hblank] at hlower
    revert hblank
    simp only [List.mem_cons, List.cons.injEq, and_true, List.not_mem_nil, or_false] at hlower
    obtain rfl | rfl := hlower <;> decide
  · have hlower := hlast c.lower (Option.mem_map_of_mem _ hc)
    refine Bool.eq_false_iff.2 fun hblank => ?_
    rw [CodePoint.lower_of_isBlank hblank] at hlower
    revert hblank
    obtain rfl := List.singleton_inj.1 hlower
    decide
  · have hlower := hfirst c.lower (Option.mem_map_of_mem _ hc)
    rw [hsame c hmem] at hlower
    revert hmem
    simp only [List.mem_cons, List.cons.injEq, and_true, List.not_mem_nil, or_false] at hlower
    obtain rfl | rfl := hlower <;> decide

/-- A lead-in, in whatever case it is written, is taken off with the blanks around. -/
theorem withoutLeadIn_append (hlead : lead ∈ leadIns) (h : InEitherCase lead written)
    (rest : Text) : withoutLeadIn (written ++ rest) lead = rest.strip := by
  have hled : lead.lower <+: Text.lower (written ++ rest) :=
    (Text.begins_iff (plain_of_mem_leadIns hlead)).2 ⟨written, rest, rfl, h⟩
  rw [withoutLeadIn, if_pos (Text.startsWith_iff.2 hled), ← h.length_eq, List.drop_left]

/-- A text that is not behind a lead-in is left as it is. -/
theorem withoutLeadIn_of_not_ledBy (hlead : lead ∈ leadIns) (h : ¬ LedBy lead t) :
    withoutLeadIn t lead = t := by
  rw [withoutLeadIn, if_neg]
  rw [Text.startsWith_iff, Text.begins_iff (plain_of_mem_leadIns hlead)]
  exact h

/-- A text behind a lead-in has no other ornament. -/
theorem LedBy.head (hlead : lead ∈ leadIns) (h : LedBy lead t) :
    ∃ c rest, t = c :: rest ∧ c ∉ Text.ofString "<\"'" := by
  obtain ⟨written, rest, rfl, hcase⟩ := h
  obtain ⟨htight, hhead⟩ := tight_of_inEitherCase hlead hcase
  obtain ⟨c, written, rfl⟩ := List.exists_cons_of_ne_nil htight.ne_nil
  exact ⟨c, written ++ rest, rfl, hhead c rfl⟩

/-- A text that does not begin with an angle bracket is not fenced. -/
theorem not_fenced_of_head {c : CodePoint} (h : c ≠ .scalar '<') : ¬ Fenced (c :: t) :=
  fun hfence => h (List.cons_prefix_cons.1 hfence.1).1.symm

/-- A text that does not begin with a quote is not quoted. -/
theorem not_quoted_of_head {c : CodePoint} (h : c ≠ .scalar '"') (h' : c ≠ .scalar '\'') :
    ¬ Quoted (c :: t) := by
  rintro ⟨q, body, hq, heq⟩
  obtain rfl := (List.cons.inj heq).1
  exact hq.elim h h'

/-! ## Fences and quotes -/

/-- A fenced text is one between the two tags. -/
theorem fenced_iff : Fenced t ↔
    ∃ body, t = Text.ofString "<text>" ++ body ++ Text.ofString "</text>" := by
  constructor
  · rintro ⟨⟨rest, hstart⟩, front, hend⟩
    rw [← hstart, List.append_eq_append_iff] at hend
    -- The two marks have nothing in common, so the first one ends before the second one begins.
    have hapart : ∀ a ∈ (Text.ofString "<text>").tails, a <+: Text.ofString "</text>" → a = [] := by
      decide
    rcases hend with ⟨a, hopen, hclose⟩ | ⟨body, rfl, rfl⟩
    · obtain rfl := hapart a ((List.mem_tails ..).2 ⟨front, hopen.symm⟩) ⟨rest, hclose.symm⟩
      exact ⟨[], by rw [← hstart, hclose, List.append_nil, List.nil_append]⟩
    · exact ⟨body, by rw [← hstart, List.append_assoc]⟩
  · rintro ⟨body, rfl⟩
    exact ⟨⟨_, (List.append_assoc ..).symm⟩, _, rfl⟩

/-- A fence is taken off with the blanks inside. -/
theorem unfenced_fence (body : Text) :
    unfenced (Text.ofString "<text>" ++ body ++ Text.ofString "</text>") = body.strip := by
  obtain ⟨hstart, hend⟩ := fenced_iff.2 ⟨body, rfl⟩
  rw [unfenced, if_pos (by rw [Bool.and_eq_true]; exact ⟨Text.startsWith_iff.2 hstart,
    Text.endsWith_iff.2 hend⟩)]
  have hopen : (Text.ofString "<text>").length = 6 := rfl
  have hclose : (Text.ofString "</text>").length = 7 := rfl
  rw [List.append_assoc, List.drop_left' hopen, List.length_append, List.length_append, hopen,
    hclose, List.take_left' (by omega)]

/-- A text without a fence is left as it is. -/
theorem unfenced_of_not_fenced (h : ¬ Fenced t) : unfenced t = t := by
  rw [unfenced, if_neg]
  rwa [Bool.and_eq_true, Text.startsWith_iff, Text.endsWith_iff]

/-- A pair of quotes is taken off. -/
theorem unquoted_quotes {q : CodePoint} (hq : q = .scalar '"' ∨ q = .scalar '\'') (body : Text) :
    unquoted (q :: body ++ [q]) = body := by
  rw [List.cons_append, unquoted, if_pos (by simpa using hq), List.dropLast_concat]

/-- A text without quotes is left as it is. -/
theorem unquoted_of_not_quoted (h : ¬ Quoted t) : unquoted t = t := by
  unfold unquoted
  split
  next q rest =>
    split
    next hq =>
      rw [Bool.and_eq_true, Bool.or_eq_true] at hq
      simp only [decide_eq_true_eq] at hq
      obtain ⟨body, rfl⟩ := List.getLast?_eq_some_iff.1 hq.2
      exact absurd ⟨q, body, hq.1, rfl⟩ h
    next => rfl
  next => rfl

/-- A fenced text has no blanks around it. -/
theorem strip_fence (body : Text) :
    (Text.ofString "<text>" ++ body ++ Text.ofString "</text>").strip =
      Text.ofString "<text>" ++ body ++ Text.ofString "</text>" := by
  refine Text.strip_eq_self (fun c hc => ?_) fun c hc => ?_
  · obtain rfl : CodePoint.scalar '<' = c := Option.some.inj hc
    decide
  · rw [List.getLast?_append_of_ne_nil _ (by decide)] at hc
    obtain rfl : CodePoint.scalar '>' = c := Option.some.inj hc
    decide

/-- A quoted text has no blanks around it. -/
theorem strip_quotes {q : CodePoint} (hq : q = .scalar '"' ∨ q = .scalar '\'') (body : Text) :
    Text.strip (q :: body ++ [q]) = q :: body ++ [q] := by
  have hblank : q.isBlank = false := by
    obtain rfl | rfl := hq <;> decide
  refine Text.strip_eq_self (fun c hc => ?_) fun c hc => ?_
  · obtain rfl := Option.some.inj hc
    exact hblank
  · rw [List.getLast?_concat] at hc
    obtain rfl := Option.some.inj hc
    exact hblank

/-! ## Dress -/

/-- A text of blanks only, or an empty one. -/
def Blanks (t : Text) : Prop := ∀ c ∈ t, c.isBlank = true

/-- A text behind some of the lead-ins of a list, in their order, each with blanks around what it
leads. -/
inductive Led (core : Text) : List Text → Text → Prop
  | bare : Led core [] core
  | without {lead t : Text} {leads : List Text} (h : Led core leads t) : Led core (lead :: leads) t
  | behind {lead written before t after : Text} {leads : List Text}
      (hcase : InEitherCase lead written) (hbefore : Blanks before) (hafter : Blanks after)
      (h : Led core leads t) : Led core (lead :: leads) (written ++ (before ++ t ++ after))

/-- A text, or the same in a pair of quotes with blanks around it. -/
def InQuotes (body t : Text) : Prop :=
  t = body ∨ ∃ q before after, (q = .scalar '"' ∨ q = .scalar '\'') ∧ Blanks before ∧ Blanks after ∧
    t = q :: (before ++ body ++ after) ++ [q]

/-- A text, or the same in a fence with blanks around it. -/
def InFence (body t : Text) : Prop :=
  t = body ∨ ∃ before after, Blanks before ∧ Blanks after ∧
    t = Text.ofString "<text>" ++ (before ++ body ++ after) ++ Text.ofString "</text>"

/-- A text in at most one of each ornament, in the order in which they are taken off: from the
outside, blanks, a fence, a pair of quotes, and the lead-ins. -/
def Dressed (core r : Text) : Prop :=
  ∃ led quoted fenced before after, Led core leadIns led ∧ InQuotes led quoted ∧
    InFence quoted fenced ∧ Blanks before ∧ Blanks after ∧ r = before ++ fenced ++ after

/-- No blanks stand just inside the quotes that are taken off a reply. -/
def Unpadded (r : Text) : Prop :=
  ∀ q (body : Text), (q = .scalar '"' ∨ q = .scalar '\'') → unfenced r.strip = q :: body ++ [q] →
    body.strip = body

/-- What is left without a fence has no blanks around it. -/
theorem strip_unfenced (h : t.strip = t) : (unfenced t).strip = unfenced t := by
  by_cases hfenced : Fenced t
  · obtain ⟨body, rfl⟩ := fenced_iff.1 hfenced
    rw [unfenced_fence, Text.strip_strip]
  · rwa [unfenced_of_not_fenced hfenced]

/-- No blanks stand inside the quotes exactly when none are left around what was in them. -/
theorem unpadded_iff {r : Text} : Unpadded r ↔
    (unquoted (unfenced r.strip)).strip = unquoted (unfenced r.strip) := by
  constructor
  · intro h
    by_cases hquoted : Quoted (unfenced r.strip)
    · obtain ⟨q, body, hq, heq⟩ := hquoted
      rw [heq, unquoted_quotes hq]
      exact h q body hq heq
    · rw [unquoted_of_not_quoted hquoted]
      exact strip_unfenced (Text.strip_strip r)
  · intro h q body hq heq
    rwa [heq, unquoted_quotes hq] at h

/-- What taking off lead-ins leaves was behind them. -/
theorem led_foldl (hleads : leads ⊆ leadIns) (t : Text) :
    Led (leads.foldl withoutLeadIn t) leads t := by
  induction leads generalizing t with
  | nil => exact .bare
  | cons lead leads ih =>
    obtain ⟨hlead, hleads⟩ := List.cons_subset.1 hleads
    rw [List.foldl_cons]
    by_cases hled : LedBy lead t
    · obtain ⟨written, rest, rfl, hcase⟩ := hled
      obtain ⟨u, v, hu, hv, hrest⟩ := Text.exists_strip rest
      rw [withoutLeadIn_append hlead hcase]
      conv => rhs; rw [hrest]
      exact .behind hcase hu hv (ih hleads rest.strip)
    · rw [withoutLeadIn_of_not_ledBy hlead hled]
      exact .without (ih hleads t)

/-- What a reply is cleaned to was in one dress. -/
theorem dressed_cleaned (r : Text) : Dressed (cleaned r) r := by
  obtain ⟨u, v, hu, hv, hr⟩ := Text.exists_strip r
  refine ⟨_, unfenced r.strip, r.strip, u, v, led_foldl (List.Subset.refl _) _, ?_, ?_, hu, hv, hr⟩
  · by_cases hquoted : Quoted (unfenced r.strip)
    · obtain ⟨q, body, hq, heq⟩ := hquoted
      refine .inr ⟨q, [], [], hq, nofun, nofun, ?_⟩
      rw [heq, unquoted_quotes hq, List.nil_append, List.append_nil]
    · exact .inl (unquoted_of_not_quoted hquoted).symm
  · by_cases hfenced : Fenced r.strip
    · obtain ⟨body, heq⟩ := fenced_iff.1 hfenced
      obtain ⟨u, v, hu, hv, hbody⟩ := Text.exists_strip body
      refine .inr ⟨u, v, hu, hv, ?_⟩
      rw [heq, unfenced_fence, ← hbody]
    · exact .inl (unfenced_of_not_fenced hfenced).symm

/-- Without the blanks around it, what is led by a bare text is that text or begins with one of the
lead-ins. -/
theorem Led.ledBy (hcore : core.strip = core) (hleads : leads ⊆ leadIns) (h : Led core leads t) :
    t.strip = core ∨ ∃ lead ∈ leads, LedBy lead t.strip := by
  induction h with
  | bare => exact .inl hcore
  | without h ih =>
    refine (ih (List.cons_subset.1 hleads).2).imp_right ?_
    rintro ⟨lead, hlead, hled⟩
    exact ⟨lead, List.mem_cons_of_mem _ hlead, hled⟩
  | @behind lead written before t after leads hcase hbefore hafter h ih =>
    obtain ⟨hlead, -⟩ := List.cons_subset.1 hleads
    rw [(tight_of_inEitherCase hlead hcase).1.strip_append]
    exact .inr ⟨lead, List.mem_cons_self, written, _, rfl, hcase⟩

/-- Taking off the lead-ins leaves a bare text that they led. -/
theorem Led.foldl_eq (hcore : Bare core) (hleads : leads ⊆ leadIns) (hn : leads.Nodup)
    (h : Led core leads t) : leads.foldl withoutLeadIn t.strip = core := by
  induction h with
  | bare => exact hcore.stripped
  | @without lead t leads h ih =>
    obtain ⟨hlead, hleads⟩ := List.cons_subset.1 hleads
    obtain ⟨hnot, hn⟩ := List.nodup_cons.1 hn
    have hunled : ¬ LedBy lead t.strip := by
      rcases h.ledBy hcore.stripped hleads with heq | ⟨lead', hlead', hled⟩
      · rw [heq]
        exact hcore.notLed lead hlead
      · intro hled'
        exact hnot (eq_of_ledBy (hleads hlead') hlead hled hled' ▸ hlead')
    rw [List.foldl_cons, withoutLeadIn_of_not_ledBy hlead hunled]
    exact ih hleads hn
  | @behind lead written before t after leads hcase hbefore hafter h ih =>
    obtain ⟨hlead, hleads⟩ := List.cons_subset.1 hleads
    rw [(tight_of_inEitherCase hlead hcase).1.strip_append, List.foldl_cons,
      withoutLeadIn_append hlead hcase, Text.strip_trimEnd, Text.strip_between hbefore hafter]
    exact ih hleads (List.nodup_cons.1 hn).2

/-- A bare text comes out of its dress. -/
theorem Bare.cleaned_eq (hcore : Bare core) {r : Text} (h : Dressed core r) (hr : Unpadded r) :
    cleaned r = core := by
  obtain ⟨led, quoted, fenced, before, after, hled, hquoted, hfenced, hbefore, hafter, rfl⟩ := h
  -- Behind lead-ins, a text is neither fenced nor quoted, and without any the bare text is not.
  have hplain : ¬ Fenced led.strip ∧ ¬ Quoted led.strip := by
    rcases hled.ledBy hcore.stripped (List.Subset.refl _) with heq | ⟨lead, hlead, h⟩
    · rw [heq]
      exact ⟨hcore.notFenced, hcore.notQuoted⟩
    · obtain ⟨c, rest, heq, hc⟩ := h.head hlead
      rw [heq]
      exact ⟨not_fenced_of_head fun h => hc (h ▸ by decide),
        not_quoted_of_head (fun h => hc (h ▸ by decide)) fun h => hc (h ▸ by decide)⟩
  have hunfenced : unfenced fenced.strip = quoted.strip := by
    rcases hfenced with rfl | ⟨before, after, hbefore, hafter, rfl⟩
    · rcases hquoted with rfl | ⟨q, before, after, hq, hbefore, hafter, rfl⟩
      · exact unfenced_of_not_fenced hplain.1
      · rw [strip_quotes hq]
        refine unfenced_of_not_fenced (not_fenced_of_head ?_)
        obtain rfl | rfl := hq <;> decide
    · rw [strip_fence, unfenced_fence, Text.strip_between hbefore hafter]
  rw [unpadded_iff, Text.strip_between hbefore hafter, hunfenced] at hr
  have hunquoted : unquoted quoted.strip = led.strip := by
    rcases hquoted with rfl | ⟨q, before, after, hq, hbefore, hafter, rfl⟩
    · exact unquoted_of_not_quoted hplain.2
    · rw [strip_quotes hq, unquoted_quotes hq] at hr ⊢
      rw [← hr, Text.strip_between hbefore hafter]
  rw [cleaned, Text.strip_between hbefore hafter, hunfenced, hunquoted]
  exact hled.foldl_eq hcore (List.Subset.refl _) (by decide +kernel)

/-! ## Cleaning again -/

/-- Taking off a fence leaves a part of the text. -/
theorem isInfix_unfenced (t : Text) : unfenced t <:+: t := by
  by_cases h : Fenced t
  · obtain ⟨body, rfl⟩ := fenced_iff.1 h
    rw [unfenced_fence]
    exact (Text.isInfix_strip body).trans ⟨_, _, rfl⟩
  · rw [unfenced_of_not_fenced h]

/-- Taking off quotes leaves a part of the text. -/
theorem isInfix_unquoted (t : Text) : unquoted t <:+: t := by
  by_cases h : Quoted t
  · obtain ⟨q, body, hq, rfl⟩ := h
    rw [unquoted_quotes hq]
    exact ⟨[q], [q], rfl⟩
  · rw [unquoted_of_not_quoted h]

/-- Taking off a lead-in leaves a part of the text. -/
theorem isInfix_withoutLeadIn (hlead : lead ∈ leadIns) (t : Text) :
    withoutLeadIn t lead <:+: t := by
  by_cases h : LedBy lead t
  · obtain ⟨written, rest, rfl, hcase⟩ := h
    rw [withoutLeadIn_append hlead hcase]
    exact (Text.isInfix_strip rest).trans (List.suffix_append _ _).isInfix
  · rw [withoutLeadIn_of_not_ledBy hlead h]

/-- Taking off one lead-in after another leaves a part of the text. -/
theorem isInfix_foldl (hleads : leads ⊆ leadIns) (t : Text) :
    leads.foldl withoutLeadIn t <:+: t := by
  induction leads generalizing t with
  | nil => exact List.infix_refl t
  | cons lead leads ih =>
    obtain ⟨hlead, hleads⟩ := List.cons_subset.1 hleads
    exact (ih hleads _).trans (isInfix_withoutLeadIn hlead t)

/-- What a reply is cleaned to is a part of it. -/
theorem isInfix_cleaned (r : Text) : cleaned r <:+: r :=
  (isInfix_foldl (List.Subset.refl _) _).trans <| (isInfix_unquoted _).trans <|
    (isInfix_unfenced _).trans (Text.isInfix_strip r)

/-- A text from which no lead-in is taken is not behind it. -/
theorem not_ledBy_of_eq (hlead : lead ∈ leadIns) (h : withoutLeadIn t lead = t) :
    ¬ LedBy lead t := by
  rintro ⟨written, rest, rfl, hcase⟩
  rw [withoutLeadIn_append hlead hcase] at h
  have hlength := (Text.isInfix_strip rest).length_le
  have hne := List.length_pos_iff.2 (tight_of_inEitherCase hlead hcase).1.ne_nil
  rw [h, List.length_append] at hlength
  omega

/-- A text from which no fence is taken is not in one. -/
theorem not_fenced_of_eq (h : unfenced t = t) : ¬ Fenced t := by
  intro hfenced
  obtain ⟨body, rfl⟩ := fenced_iff.1 hfenced
  rw [unfenced_fence] at h
  have hlength := (Text.isInfix_strip body).length_le
  have hopen : (Text.ofString "<text>").length = 6 := rfl
  rw [h, List.length_append, List.length_append, hopen] at hlength
  omega

/-- A text from which no quotes are taken is not in a pair. -/
theorem not_quoted_of_eq (h : unquoted t = t) : ¬ Quoted t := by
  rintro ⟨q, body, hq, rfl⟩
  rw [unquoted_quotes hq] at h
  have hlength := congrArg List.length h
  rw [List.length_append, List.length_cons] at hlength
  omega

/-- A text that all the lead-ins leave as it is stands behind none of them. -/
theorem not_ledBy_of_foldl_eq (hleads : leads ⊆ leadIns) (h : leads.foldl withoutLeadIn t = t) :
    ∀ lead ∈ leads, ¬ LedBy lead t := by
  induction leads with
  | nil => exact nofun
  | cons lead leads ih =>
    obtain ⟨hlead, hleads⟩ := List.cons_subset.1 hleads
    rw [List.foldl_cons] at h
    have hback := (isInfix_foldl hleads (withoutLeadIn t lead)).sublist
    rw [h] at hback
    have hfirst : withoutLeadIn t lead = t :=
      (isInfix_withoutLeadIn hlead t).sublist.antisymm hback
    rw [hfirst] at h
    exact List.forall_mem_cons.2 ⟨not_ledBy_of_eq hlead hfirst, ih hleads h⟩

/-- A text is itself with no ornament. -/
theorem dressed_self (t : Text) : Dressed t t :=
  ⟨t, t, t, [], [], .without (.without (.without (.without .bare))), .inl rfl, .inl rfl, nofun,
    nofun, by rw [List.nil_append, List.append_nil]⟩

/-- A text without ornaments has no quotes with blanks inside. -/
theorem Bare.unpadded (h : Bare t) : Unpadded t := by
  rw [unpadded_iff, h.stripped, unfenced_of_not_fenced h.notFenced,
    unquoted_of_not_quoted h.notQuoted, h.stripped]

/-- A pass changes nothing exactly if there is no ornament. -/
theorem cleaned_eq_self_iff : cleaned t = t ↔ Bare t := by
  refine ⟨fun h => ?_, fun h => h.cleaned_eq (dressed_self t) h.unpadded⟩
  -- Every step of the pass leaves a part of what it got, so none of them has left out anything.
  have hback := isInfix_foldl (List.Subset.refl _) (unquoted (unfenced t.strip))
  rw [← cleaned, h] at hback
  have hquotes := hback.trans (isInfix_unquoted _)
  have hfence := hquotes.trans (isInfix_unfenced _)
  have hstrip : t.strip = t := (Text.isInfix_strip t).sublist.antisymm hfence.sublist
  rw [hstrip] at hback hquotes
  have hunfenced : unfenced t = t := (isInfix_unfenced t).sublist.antisymm hquotes.sublist
  rw [hunfenced] at hback
  have hunquoted : unquoted t = t := (isInfix_unquoted t).sublist.antisymm hback.sublist
  rw [cleaned, hstrip, hunfenced, hunquoted] at h
  exact ⟨hstrip, not_fenced_of_eq hunfenced, not_quoted_of_eq hunquoted,
    not_ledBy_of_foldl_eq (List.Subset.refl _) h⟩

/-- Passes come to an end: each of them makes a text with ornaments shorter. -/
theorem exists_bare_iterate (r : Text) : ∃ n ≤ r.length, Bare (cleaned^[n] r) := by
  induction hlength : r.length using Nat.strong_induction_on generalizing r with
  | _ length ih =>
    subst hlength
    by_cases hbare : Bare r
    · exact ⟨0, Nat.zero_le _, hbare⟩
    · have hshorter : (cleaned r).length < r.length := by
        refine lt_of_le_of_ne (isInfix_cleaned r).length_le fun heq => hbare ?_
        exact cleaned_eq_self_iff.1 ((isInfix_cleaned r).sublist.eq_of_length heq)
      obtain ⟨n, hn, hclean⟩ := ih _ hshorter (cleaned r) rfl
      exact ⟨n + 1, by omega, hclean⟩

/-! ## Blanks -/

/-- What is left without lead-ins has no blanks around it. -/
theorem strip_foldl (hleads : leads ⊆ leadIns) (h : t.strip = t) :
    (leads.foldl withoutLeadIn t).strip = leads.foldl withoutLeadIn t := by
  induction leads generalizing t with
  | nil => exact h
  | cons lead leads ih =>
    obtain ⟨hlead, hleads⟩ := List.cons_subset.1 hleads
    refine ih hleads ?_
    by_cases hled : LedBy lead t
    · obtain ⟨written, rest, rfl, hcase⟩ := hled
      rw [withoutLeadIn_append hlead hcase, Text.strip_strip]
    · rwa [withoutLeadIn_of_not_ledBy hlead hled]

/-- Where there are none just inside quotes, no blanks are left around a reply. -/
theorem Unpadded.strip_cleaned {r : Text} (h : Unpadded r) : (cleaned r).strip = cleaned r :=
  strip_foldl (List.Subset.refl _) (unpadded_iff.1 h)

/-! ## One pass -/

/-- **What one pass takes off.** A reply is cleaned to a part of it, and is that part in a dress: in
blanks, a fence, a pair of quotes and lead-ins, each at most once and in this order. Cleaning again
changes nothing exactly if a reply was cleaned to a bare text, and as many passes as it is long
leave one. Where no blanks stand just inside its quotes, a reply is cleaned to a text without blanks
around it; a bare text comes out of every such dress, and cleaning again changes nothing exactly if
the reply was a bare text in such a dress. -/
theorem cleaned_again_iff (r : Text) :
    Dressed (cleaned r) r ∧ cleaned r <:+: r ∧
    (cleaned (cleaned r) = cleaned r ↔ Bare (cleaned r)) ∧
    (∃ n ≤ r.length, Bare (cleaned^[n] r)) ∧
    (Unpadded r →
      (cleaned r).strip = cleaned r ∧
      (∀ core, Bare core → Dressed core r → cleaned r = core) ∧
      (cleaned (cleaned r) = cleaned r ↔ ∃ core, Bare core ∧ Dressed core r)) := by
  refine ⟨dressed_cleaned r, isInfix_cleaned r, cleaned_eq_self_iff, exists_bare_iterate r,
    fun hr => ⟨hr.strip_cleaned, fun core hcore h => hcore.cleaned_eq h hr, ?_⟩⟩
  rw [cleaned_eq_self_iff]
  constructor
  · intro h
    exact ⟨cleaned r, h, dressed_cleaned r⟩
  · rintro ⟨core, hcore, h⟩
    rwa [hcore.cleaned_eq h hr]

/-- A reply with a line break around, in a fence, in quotes and behind a lead-in in capitals. -/
def fullyDressed : Text := "<text>'TRANSLATION: Hola'</text>\n"

/-- Out of all of these ornaments comes the text, and cleaning again changes nothing. -/
theorem cleaned_again_iff_fullyDressed :
    Unpadded fullyDressed ∧ Bare "Hola" ∧ Dressed "Hola" fullyDressed ∧
    cleaned fullyDressed = Text.ofString "Hola" ∧
    cleaned (cleaned fullyDressed) = cleaned fullyDressed := by
  have hunpadded : Unpadded fullyDressed := unpadded_iff.2 (by decide +kernel)
  have hbare : Bare "Hola" := cleaned_eq_self_iff.1 (by decide +kernel)
  have hcase : InEitherCase "Translation:" "TRANSLATION:" := by
    unfold InEitherCase
    decide +kernel
  have hblanks : Blanks " " ∧ Blanks [] ∧ Blanks "\n" := by
    unfold Blanks
    decide
  have hled : Led "Hola" leadIns "TRANSLATION: Hola" :=
    .behind hcase hblanks.1 hblanks.2.1 (.without (.without (.without .bare)))
  have hdressed : Dressed "Hola" fullyDressed :=
    ⟨_, "'TRANSLATION: Hola'", "<text>'TRANSLATION: Hola'</text>", [], "\n", hled,
      .inr ⟨.scalar '\'', [], [], .inr rfl, nofun, nofun, rfl⟩,
      .inr ⟨[], [], nofun, nofun, rfl⟩, nofun, hblanks.2.2, rfl⟩
  obtain ⟨-, -, -, -, hone⟩ := cleaned_again_iff fullyDressed
  obtain ⟨-, hcore, hagain⟩ := hone hunpadded
  exact ⟨hunpadded, hbare, hdressed, hcore _ hbare hdressed, hagain.2 ⟨_, hbare, hdressed⟩⟩

/-- Of two pairs of quotes one pass takes off the outer one, and the next one the inner one. -/
theorem cleaned_nestedQuotes :
    cleaned (cleaned (Text.ofString "\"'Hola'\"")) ≠ cleaned (Text.ofString "\"'Hola'\"") := by
  decide +kernel

end Localization.Provider
