import Localization.Proofs.Extraction.ReadAlike
import Localization.Proofs.Filter.Expressions

/-!
# A literal in its three positions

A literal is met between tags, as the value of an attribute, or as a string in braces, and the
filter is asked about it each time. The rules of the filter look at the stripped text, but the
patterns of a project are searched in the text as it is given, and it is given stripped for a text
between tags and for an attribute, and as it stands for a string in braces (`Position.seen`). So the
patterns alone can tell the positions apart: whether a literal is asked for depends on its position
exactly if no rule excludes it and the patterns find something in just one of the two texts
(`asks_alike_iff`). Patterns that are phrases never do (`Regex.steady_phrase`).
-/

namespace Localization

/-! ## What the filter looks at -/

namespace Filter

open Regex

variable {f : Filter} {t : Text}

/-- Whether the rules exclude a text, whatever the patterns find. -/
def rulesOut (f : Filter) (t : Text) : Bool := excludes ⟨f.minLength, []⟩ t

/-- Whether one of the patterns finds something in a text. -/
def finds (f : Filter) (t : Text) : Bool := f.patterns.any (·.search t)

/-- A filter leaves a text alone because a rule does or because a pattern is found in it. -/
theorem excludes_eq (f : Filter) (t : Text) : f.excludes t = (f.rulesOut t || f.finds t) := by
  simp only [rulesOut, finds, excludes, List.any_nil, Bool.or_false]

/-- The rules look at the stripped text. -/
theorem rulesOut_strip (f : Filter) (t : Text) : f.rulesOut t.strip = f.rulesOut t := by
  simp only [rulesOut, excludes, Text.strip_strip, List.any_nil]

/-- Stripping a text changes nothing exactly if the rules exclude it, or the patterns find both
texts or neither. -/
theorem excludes_strip_iff :
    f.excludes t.strip = f.excludes t ↔ f.rulesOut t = true ∨ f.finds t.strip = f.finds t := by
  rw [excludes_eq, excludes_eq, rulesOut_strip]
  cases f.rulesOut t <;> simp

end Filter

namespace Regex

/-- Stripping a text makes no difference to an expression. -/
def Steady (r : Regex) : Prop := ∀ t : Text, r.search t.strip = r.search t

/-- The expression that finds a phrase. -/
def phrase (pattern lit : Text) : Regex := ⟨pattern, .off, Filter.inTurn lit, [(0, 0)]⟩

/-- A plain phrase is found where the text contains it. -/
theorem search_phrase {pattern lit t : Text} :
    (phrase pattern lit).search t = true ↔ lit <:+: t := by
  rw [search_somewhere (Filter.admits_inTurn _ lit) (by omega)]
  constructor
  · rintro ⟨u, _, rfl, v, rfl⟩
    exact ⟨u, v, List.append_assoc ..⟩
  · rintro ⟨u, v, rfl⟩
    exact ⟨u, lit ++ v, List.append_assoc .., v, rfl⟩

/-- Phrases that are not blank at their ends are found in a text as in the stripped one. -/
theorem steady_phrase {pattern lit : Text} (h : lit.Tight) : (phrase pattern lit).Steady := by
  intro t
  rw [Bool.eq_iff_iff, search_phrase, search_phrase]
  exact h.infix_strip_iff t

end Regex

namespace Filter

/-- If no pattern minds blanks at the ends, neither does the filter. -/
theorem excludes_strip_of_steady {f : Filter} (h : ∀ r ∈ f.patterns, r.Steady) (t : Text) :
    f.excludes t.strip = f.excludes t := by
  refine excludes_strip_iff.2 (.inr (Bool.eq_iff_iff.2 ?_))
  simp only [finds, List.any_eq_true]
  exact exists_congr fun r => and_congr_right fun hr => by rw [h r hr t]

end Filter

/-! ## What the filter is asked about -/

namespace Extraction

open Syntax Syntax.Tree

/-- The text that the filter is asked about where a literal is met. -/
def Position.seen : Position → Text → Text
  | .text, t => Text.join " " t.words
  | .markupAttribute, t => t.strip
  | .expression, t => t

/-- The text that is taken where a literal is met. -/
def Position.taken : Position → Text → Text
  | .text, t => Text.join " " t.words
  | .markupAttribute, t => t.strip
  | .expression, t => t.strip

/-- A literal is met in a position where it can be asked for: all that is left to look at is the
literal. -/
inductive Meets (o : WrapOptions) (source : Source) (v : Visit) : Position → Text → Span → Prop
  | text {run : List Tree} {whole s : Span} {cs : List Char} (hkind : v.tree.kind = .element)
      (hother : elementName? source v.tree ≠ some o.markers.componentName)
      (hread : v.inError = false) (houtside : insideCall o source v = false)
      (hrun : run ∈ textRuns v.tree) (hwhole : runSpan? run = some whole)
      (hin : whole.stop ≤ source.bytes.length)
      (hbytes : source.slice whole.start whole.stop = Utf8.encodeChars cs)
      (hsome : ∃ c ∈ cs, isBlankChar c = false) (hspan : trimmedSpan? source run = some s) :
      Meets o source v .text (Reference.decode (Text.ofChars cs)) s
  | markupAttribute {name text : Text} {value : Tree} (hkind : v.tree.kind = .markupAttribute)
      (hread : v.inError = false)
      (hparts : attributeParts source v.tree = some (name, some value))
      (hstring : value.kind = .string)
      (hvalue : stringValue source (some v.tree) value = .ok text)
      (hname : Filter.isTechnicalAttribute name = false)
      (hplain : Filter.boilerplate.contains text.strip = false) :
      Meets o source v .markupAttribute text value.span
  | string {container element : Tree} {rest : List Tree} {text : Text}
      (hkind : v.tree.kind = .string) (hread : v.inError = false)
      (houtside : insideCall o source v = false)
      (hancestors : v.ancestors = container :: element :: rest)
      (hcontainer : container.kind = .container) (helement : element.kind = .element)
      (hvalue : stringValue source (some container) v.tree = .ok text) :
      Meets o source v .expression text v.tree.span

variable {o : WrapOptions} {source source' : Source} {v v' : Visit} {p p' : Position} {t : Text}
  {s s' : Span}

-- Each shape asks for one thing in one place, so what is asked for there was asked by that shape.

/-- A run of text is asked for exactly when the filter lets it through. -/
theorem asks_text_iff {text : Text} (hkind : v.tree.kind = .element)
    (hother : elementName? source v.tree ≠ some o.markers.componentName)
    (hread : v.inError = false) (houtside : insideCall o source v = false) {run : List Tree}
    (hrun : run ∈ textRuns v.tree) (hspan : trimmedSpan? source run = some s)
    (hshown : shownText source s = text) :
    Asks o source v ⟨.text, text, s⟩ ↔ o.filter.excludes text = false := by
  subst hshown
  refine ⟨fun h => ?_, fun h => .text hkind hother hread houtside hrun hspan h⟩
  generalize hr : (⟨.text, shownText source s, s⟩ : Replacement) = r at h
  cases h with
  | text _ _ _ _ _ _ hkept =>
    rw [(Replacement.mk.inj hr).2.1]
    exact hkept
  | markupAttribute | string => cases hr

/-- An attribute is asked for exactly when the filter lets its trimmed value through. -/
theorem asks_attribute_iff {name text : Text} {value : Tree}
    (hkind : v.tree.kind = .markupAttribute) (hread : v.inError = false)
    (hparts : attributeParts source v.tree = some (name, some value))
    (hstring : value.kind = .string)
    (hvalue : stringValue source (some v.tree) value = .ok text) :
    Asks o source v ⟨.markupAttribute, text.strip, value.span⟩ ↔
      o.filter.excludesAttribute name text.strip = false := by
  refine ⟨fun h => ?_, fun h => .markupAttribute hkind hread hparts hstring hvalue h⟩
  generalize hr : (⟨.markupAttribute, text.strip, value.span⟩ : Replacement) = r at h
  cases h with
  | markupAttribute _ _ hparts' _ _ hkept =>
    obtain ⟨rfl, -⟩ := Prod.mk.inj (Option.some.inj (hparts.symm.trans hparts'))
    rw [(Replacement.mk.inj hr).2.1]
    exact hkept
  | text | string => cases hr

/-- A string in braces is asked for exactly when the filter lets its value, untrimmed, through. -/
theorem asks_string_iff {container element : Tree} {rest : List Tree} {text : Text}
    (hkind : v.tree.kind = .string) (hread : v.inError = false)
    (houtside : insideCall o source v = false)
    (hancestors : v.ancestors = container :: element :: rest)
    (hcontainer : container.kind = .container) (helement : element.kind = .element)
    (hvalue : stringValue source (some container) v.tree = .ok text) :
    Asks o source v ⟨.expression, text.strip, v.tree.span⟩ ↔ o.filter.excludes text = false := by
  refine ⟨fun h => ?_, fun h =>
    .string hkind hread houtside hancestors hcontainer helement hvalue h⟩
  generalize hr : (⟨.expression, text.strip, v.tree.span⟩ : Replacement) = r at h
  cases h with
  | string _ _ _ hancestors' _ _ hvalue' hkept =>
    obtain ⟨rfl, -⟩ := List.cons.inj (hancestors.symm.trans hancestors')
    obtain rfl := Except.ok.inj (hvalue.symm.trans hvalue')
    exact hkept
  | text | markupAttribute => cases hr

/-- Whether a literal is asked for where it is met is up to the filter. -/
theorem Meets.asks_iff (h : Meets o source v p t s) :
    Asks o source v ⟨p, p.taken t, s⟩ ↔ o.filter.excludes (p.seen t) = false := by
  cases h with
  | text hkind hother hread houtside hrun hwhole hin hbytes hsome hspan =>
    obtain ⟨s', hspan', hshown⟩ := trimmedSpan?_of_bytes hwhole hin hbytes hsome
    obtain rfl := Option.some.inj (hspan.symm.trans hspan')
    exact asks_text_iff hkind hother hread houtside hrun hspan hshown
  | @markupAttribute name _ _ hkind hread hparts hstring hvalue hname hplain =>
    have hexcludes : o.filter.excludesAttribute name t.strip = o.filter.excludes t.strip := by
      rw [Filter.excludesAttribute, hname, Text.strip_strip, hplain, Bool.or_self, Bool.false_or]
    exact hexcludes ▸ asks_attribute_iff hkind hread hparts hstring hvalue
  | string hkind hread houtside hancestors hcontainer helement hvalue =>
    exact asks_string_iff hkind hread houtside hancestors hcontainer helement hvalue

/-- A literal with single spaces is seen stripped in every position but one, and taken stripped in
all of them. -/
theorem Position.eq_strip (h : t.strip.SingleSpaced) (p : Position) :
    p.taken t = t.strip ∧ p.seen t = if p = .expression then t else t.strip := by
  have hwords : Text.join " " t.words = t.strip := by
    rw [← Text.words_strip]
    exact Text.join_words_iff.2 h
  cases p with
  | text => exact ⟨hwords, hwords⟩
  | markupAttribute => exact ⟨rfl, rfl⟩
  | expression => exact ⟨rfl, rfl⟩

/-- **Which literals are kept depends on their position** through the patterns alone. Where a
literal is met it is asked for exactly if the filter keeps what is seen of it there. The filter
judges a literal as it does the stripped one exactly if the rules exclude it, or the patterns find
something in both or in neither; patterns that find the same in every stripped text never tell them
apart. So a literal with single spaces that is met in two places, of which just one is a string in
braces, is kept in both or in neither exactly if the filter judges it as it does the stripped one;
met twice in braces, or twice elsewhere, it always is. -/
theorem asks_alike_iff (o : WrapOptions) (t : Text) :
    (∀ {source : Source} {v : Visit} {p : Position} {s : Span}, Meets o source v p t s →
      (Asks o source v ⟨p, p.taken t, s⟩ ↔ o.filter.excludes (p.seen t) = false)) ∧
    (o.filter.excludes t.strip = o.filter.excludes t ↔
      o.filter.rulesOut t = true ∨ o.filter.finds t.strip = o.filter.finds t) ∧
    ((∀ r ∈ o.filter.patterns, r.Steady) → o.filter.excludes t.strip = o.filter.excludes t) ∧
    ∀ {source source' : Source} {v v' : Visit} {p p' : Position} {s s' : Span},
      t.strip.SingleSpaced → Meets o source v p t s → Meets o source' v' p' t s' →
      ((Asks o source v ⟨p, t.strip, s⟩ ↔ Asks o source' v' ⟨p', t.strip, s'⟩) ↔
        (p = .expression ↔ p' = .expression) ∨
          o.filter.excludes t.strip = o.filter.excludes t) := by
  refine ⟨Meets.asks_iff, Filter.excludes_strip_iff,
    fun hsteady => Filter.excludes_strip_of_steady hsteady t, fun hspaced h h' => ?_⟩
  rename_i p p' s s'
  have hasks := h.asks_iff
  have hasks' := h'.asks_iff
  rw [(p.eq_strip hspaced).1, (p.eq_strip hspaced).2] at hasks
  rw [(p'.eq_strip hspaced).1, (p'.eq_strip hspaced).2] at hasks'
  have hboth : ∀ a b : Bool, (a = false ↔ b = false) ↔ a = b := by decide
  rw [hasks, hasks', hboth]
  by_cases hp : p = .expression <;> by_cases hp' : p' = .expression
  · simp [hp, hp']
  · rw [if_pos hp, if_neg hp', eq_comm]
    simp [hp, hp']
  · rw [if_neg hp, if_pos hp']
    simp [hp, hp']
  · simp [hp, hp']

/-- The expression for what starts with a note to developers. -/
def todo : Regex := Filter.anchored "^TODO" (Filter.inTurn "TODO")

/-- The pattern of the example compiles whatever names characters have. -/
theorem compile_todo (characters : Regex.CharacterNames) :
    Regex.compile characters "^TODO" = .ok todo := by
  cbv

/-- The file `<b title=" TODO ">\x7b" TODO "\x7d</b>`. -/
def noteSource : Source := .ofChars "<b title=\" TODO \">\x7b\" TODO \"\x7d</b>".toList

/-- The attribute of this file. -/
def noteAttribute : Tree := .node .markupAttribute none ⟨3, 17⟩ [
  .node .phrase none ⟨3, 8⟩ [], .node .token none ⟨8, 9⟩ [], .node .string none ⟨9, 17⟩ []]

/-- The string in braces of this file. -/
def noteString : Tree := .node .string none ⟨19, 27⟩ []

/-- The braces of this file. -/
def noteContainer : Tree := .node .container none ⟨18, 28⟩ [
  .node .token none ⟨18, 19⟩ [], noteString, .node .token none ⟨27, 28⟩ []]

/-- The tag with the attribute. -/
def noteTag : Tree := .node .openTag (some .openTag) ⟨0, 18⟩ [
  .node .token none ⟨0, 1⟩ [], .node .identifier (some .name) ⟨1, 2⟩ [], noteAttribute,
  .node .token none ⟨17, 18⟩ []]

/-- The element of this file. -/
def noteElement : Tree := .node .element none ⟨0, 32⟩ [noteTag, noteContainer,
  .node .closeTag (some .closeTag) ⟨28, 32⟩ [
    .node .token none ⟨28, 30⟩ [], .node .identifier (some .name) ⟨30, 31⟩ [],
    .node .token none ⟨31, 32⟩ []]]

/-- The visit to the attribute. -/
def attributeVisit : Visit := ⟨noteAttribute, [noteTag, noteElement]⟩

/-- The visit to the string in braces. -/
def stringVisit : Visit := ⟨noteString, [noteContainer, noteElement]⟩

/-- Options with one pattern. -/
def withPattern (r : Regex) : WrapOptions := { plainOptions with filter := ⟨2, [r]⟩ }

/-- The note's attribute is met in a position where it can be asked for. -/
theorem meets_noteAttribute (r : Regex) :
    Meets (withPattern r) noteSource attributeVisit .markupAttribute " TODO " ⟨9, 17⟩ := by
  have hname :
      (Syntax.Tree.node .phrase none ⟨3, 8⟩ []).text noteSource = Text.ofString "title" := by
    decide +kernel
  have hparts : attributeParts noteSource attributeVisit.tree =
      some (Text.ofString "title", some (.node .string none ⟨9, 17⟩ [])) := by
    rw [← hname]
    rfl
  have hvalue : stringValue noteSource (some attributeVisit.tree) (.node .string none ⟨9, 17⟩ []) =
      .ok (Text.ofString " TODO ") := eq_ok_of_toOption (by decide +kernel)
  exact .markupAttribute rfl rfl hparts rfl hvalue (by decide) (by decide)

/-- The note's string is met in a position where it can be asked for. -/
theorem meets_noteString (r : Regex) :
    Meets (withPattern r) noteSource stringVisit .expression " TODO " ⟨19, 27⟩ := by
  have hvalue : stringValue noteSource (some noteContainer) stringVisit.tree =
      .ok (Text.ofString " TODO ") := eq_ok_of_toOption (by decide +kernel)
  exact .string rfl rfl rfl rfl rfl rfl hvalue

/-- The note, trimmed, has no run of blanks. -/
theorem singleSpaced_note : (Text.strip " TODO ").SingleSpaced :=
  ⟨["TODO"], by decide, by decide⟩

/-- The pattern for a start leaves the attribute alone and not the string in braces, though they
hold one text; as a phrase it leaves both alone. -/
theorem asks_alike_iff_note :
    ¬ Asks (withPattern todo) noteSource attributeVisit ⟨.markupAttribute, "TODO", ⟨9, 17⟩⟩ ∧
    Asks (withPattern todo) noteSource stringVisit ⟨.expression, "TODO", ⟨19, 27⟩⟩ ∧
    (Asks (withPattern (.phrase "TODO" "TODO")) noteSource attributeVisit
        ⟨.markupAttribute, "TODO", ⟨9, 17⟩⟩ ↔
      Asks (withPattern (.phrase "TODO" "TODO")) noteSource stringVisit
        ⟨.expression, "TODO", ⟨19, 27⟩⟩) := by
  obtain ⟨hasks, -, -, -⟩ := asks_alike_iff (withPattern todo) " TODO "
  obtain ⟨-, -, hsteady, halike⟩ := asks_alike_iff (withPattern (.phrase "TODO" "TODO")) " TODO "
  refine ⟨?_, ?_, ?_⟩
  · intro h
    exact absurd ((hasks (meets_noteAttribute todo)).1 h) (by decide +kernel)
  · exact (hasks (meets_noteString todo)).2 (by decide +kernel)
  · refine (halike singleSpaced_note (meets_noteAttribute _) (meets_noteString _)).2 (.inr ?_)
    refine hsteady fun r hr => ?_
    rw [List.mem_singleton.1 hr]
    exact Regex.steady_phrase ⟨by decide, by decide, by decide⟩

/-- A pattern for the start of a text excludes a note, but not the note with a space before it. -/
theorem excludes_strip_todo :
    ∃ r, (∀ characters, Regex.compile characters "^TODO" = .ok r) ∧
      Filter.excludes ⟨2, [r]⟩ (Text.strip " TODO later ") = true ∧
      Filter.excludes ⟨2, [r]⟩ " TODO later " = false :=
  ⟨todo, compile_todo, by decide +kernel, by decide +kernel⟩

end Extraction

end Localization
