import Mathlib.Data.List.Basic
import Localization.Extraction.Wrap
import Localization.Proofs.Extraction.ReadBack
import Localization.Proofs.Extraction.Replacements
import Localization.Proofs.Extraction.Spots
import Localization.Proofs.Extraction.Wrap
import Localization.Proofs.Results
import Localization.Proofs.Syntax.Visits

/-!
# Texts that are marked already

A text is marked when it stands in an element of the translation component, or among the arguments
of a call of the translation function (`isMarker`). The three shapes of text look for markers each
in its own way (`Asks`): a text between tags at the element right around it and at the calls around
it, a string in braces at the calls only, and the value of an attribute at neither. So there are
marked texts that are replaced all the same: values of attributes and, in the component, strings in
braces and the texts of other elements.

The edits inside a marker come from below it. This rests on the nesting of spans: of two nodes one
is below the other, or they lie apart (`nested_or_apart`), and a marker below a node lies apart from
what the node asks for.
-/

namespace Localization.Extraction

open Syntax Syntax.Tree

/-! ## What a visit asks for, spelled out -/

/-- What a visit asks to replace, with all that it looks at. -/
inductive Asks (o : WrapOptions) (source : Source) (v : Visit) : Replacement → Prop
  | text {run : List Tree} {s : Span} (hkind : v.tree.kind = .element)
      (hother : elementName? source v.tree ≠ some o.markers.componentName)
      (hread : v.inError = false) (houtside : insideCall o source v = false)
      (hrun : run ∈ textRuns v.tree) (hspan : trimmedSpan? source run = some s)
      (hshown : o.filter.excludes (shownText source s) = false) :
      Asks o source v ⟨.text, shownText source s, s⟩
  | markupAttribute {name text : Text} {value : Tree} (hkind : v.tree.kind = .markupAttribute)
      (hread : v.inError = false)
      (hparts : attributeParts source v.tree = some (name, some value))
      (hstring : value.kind = .string)
      (hvalue : stringValue source (some v.tree) value = .ok text)
      (hshown : o.filter.excludesAttribute name text.strip = false) :
      Asks o source v ⟨.markupAttribute, text.strip, value.span⟩
  | string {container element : Tree} {rest : List Tree} {text : Text}
      (hkind : v.tree.kind = .string) (hread : v.inError = false)
      (houtside : insideCall o source v = false)
      (hancestors : v.ancestors = container :: element :: rest)
      (hcontainer : container.kind = .container) (helement : element.kind = .element)
      (hvalue : stringValue source (some container) v.tree = .ok text)
      (hshown : o.filter.excludes text = false) :
      Asks o source v ⟨.expression, text.strip, v.tree.span⟩

section
variable {o : WrapOptions} {source : Source} {v : Visit} {r : Replacement}

/-- What an element is found to ask for, it asks for. -/
theorem asks_of_mem_element (hkind : v.tree.kind = .element)
    (hr : r ∈ elementReplacements o source v) : Asks o source v r := by
  obtain ⟨hother, hread, houtside, run, hrun, s, hs, hshown, rfl⟩ := of_mem_elementReplacements hr
  exact .text hkind hother hread houtside hrun hs hshown

/-- What an attribute is found to ask for, it asks for. -/
theorem asks_of_mem_attribute (hkind : v.tree.kind = .markupAttribute) {rs : List Replacement}
    (h : attributeReplacements o source v = .ok rs) (hr : r ∈ rs) : Asks o source v r := by
  obtain rfl | ⟨name, value, text, hparts, hstring, hread, hvalue, hshown, rfl⟩ :=
    attributeReplacements_cases h
  · cases hr
  · obtain rfl := List.mem_singleton.1 hr
    exact .markupAttribute hkind hread hparts hstring hvalue hshown

/-- What a string is found to ask for, it asks for. -/
theorem asks_of_mem_string (hkind : v.tree.kind = .string) {rs : List Replacement}
    (h : stringReplacements o source v = .ok rs) (hr : r ∈ rs) : Asks o source v r := by
  obtain rfl | ⟨container, element, rest, text, hancestors, hcontainer, helement, hread, houtside,
    hvalue, hshown, rfl⟩ := stringReplacements_cases h
  · cases hr
  · obtain rfl := List.mem_singleton.1 hr
    exact .string hkind hread houtside hancestors hcontainer helement hvalue hshown

/-- What a visit is found to ask for, it asks for, whatever its kind. -/
theorem Asks.of_mem (hr : r ∈ asked o source v) : Asks o source v r := by
  cases h : replacements o source v with
  | error e =>
    rw [asked, h] at hr
    cases hr
  | ok rs =>
    rw [asked_of_ok h] at hr
    unfold replacements at h
    split at h
    next hkind =>
      cases h
      exact asks_of_mem_element hkind hr
    next hkind => exact asks_of_mem_attribute hkind h hr
    next hkind => exact asks_of_mem_string hkind h hr
    next =>
      cases h
      cases hr

/-- What a visit asks for is found. -/
theorem Asks.mem (h : Asks o source v r) : r ∈ asked o source v := by
  cases h with
  | @text run s hkind hother hread houtside hrun hspan hshown =>
    have hreplacement : runReplacement? o source run = some ⟨.text, shownText source s, s⟩ := by
      simp [runReplacement?, hspan, hshown]
    have hmem := List.mem_filterMap.2 ⟨run, hrun, hreplacement⟩
    have hasked : replacements o source v =
        .ok ((textRuns v.tree).filterMap (runReplacement? o source)) := by
      simp [replacements, elementReplacements, hkind, hother, hread, houtside]
    rwa [asked_of_ok hasked]
  | @markupAttribute name text value hkind hread hparts hstring hvalue hshown =>
    have hasked : replacements o source v =
        .ok [⟨.markupAttribute, text.strip, value.span⟩] := by
      simp [replacements, attributeReplacements, hkind, hread, hparts, hstring, hvalue, hshown,
        Except.map]
    rw [asked_of_ok hasked]
    exact List.mem_singleton_self _
  | @string container element rest text hkind hread houtside hancestors hcontainer helement hvalue
      hshown =>
    have hasked : replacements o source v = .ok [⟨.expression, text.strip, v.tree.span⟩] := by
      simp [replacements, stringReplacements, hkind, hread, houtside, hancestors, hcontainer,
        helement, hvalue, hshown, Except.map]
    rw [asked_of_ok hasked]
    exact List.mem_singleton_self _

/-- What a visit asks for is what the three shapes allow. -/
theorem mem_asked_iff : r ∈ asked o source v ↔ Asks o source v r :=
  ⟨Asks.of_mem, Asks.mem⟩

/-- What a visit asks for stands at one of its spots. -/
theorem Asks.spot (h : Asks o source v r) : r.span ∈ spots source v :=
  (asked_span_sublist v).subset (List.mem_map_of_mem h.mem)

/-- Only nodes of three kinds ask for something. -/
theorem Asks.kind (h : Asks o source v r) :
    v.tree.kind = .element ∨ v.tree.kind = .markupAttribute ∨ v.tree.kind = .string := by
  cases h with
  | text hkind => exact .inl hkind
  | markupAttribute hkind => exact .inr (.inl hkind)
  | string hkind => exact .inr (.inr hkind)

end

/-! ## Markers -/

/-- Whether a node is an element of the component with a name, with content or without. -/
def isComponent (source : Source) (name : Text) (t : Tree) : Bool :=
  t.kind = .element && elementName? source t = some name ||
    t.kind = .selfClosingElement && (t.child? .name).map (·.text source) = some name

/-- Whether what stands in a node is marked: the node is an element of the translation component, or
the arguments of a call of the translation function. -/
def isMarker (o : WrapOptions) (source : Source) (v : Visit) : Bool :=
  isComponent source o.markers.componentName v.tree ||
    v.tree.role = some .arguments && v.parent?.any (isCallOf source o.markers.functionName)

section
variable {o : WrapOptions} {source : Source} {root : Tree} {m : Visit}

/-- Only a call can call the function. -/
theorem isCallOf_eq_false {name : Text} {t : Tree} (h : t.kind ≠ .call) :
    isCallOf source name t = false := by
  simp [isCallOf, h]

/-- A node without children that is no argument is no marker. -/
theorem isMarker_leaf {p : Tree} {rest : List Tree} (hleaf : m.tree.children = [])
    (hparent : m.ancestors = p :: rest) (hp : p.kind ≠ .call) : isMarker o source m = false := by
  simp [isMarker, isComponent, elementName?, child?, hleaf, Visit.parent?, hparent,
    isCallOf_eq_false hp]

/-- A literal is neither an element nor a call. -/
theorem kind_of_isLiteral {t : Tree} (h : isLiteral t = true) :
    t.kind ≠ .element ∧ t.kind ≠ .selfClosingElement ∧ t.kind ≠ .call := by
  simp only [isLiteral, isMarkupText, Bool.or_eq_true, decide_eq_true_eq] at h
  rcases h with h | h | h
  · simp [h]
  · simp [h]
  · simp [h]

/-- A literal that is no argument is no marker. -/
theorem isMarker_literal {p : Tree} {rest : List Tree} (hliteral : isLiteral m.tree = true)
    (hparent : m.ancestors = p :: rest) (hp : p.kind ≠ .call) : isMarker o source m = false := by
  obtain ⟨helement, hclosing, -⟩ := kind_of_isLiteral hliteral
  simp [isMarker, isComponent, helement, hclosing, Visit.parent?, hparent, isCallOf_eq_false hp]

/-- The call around the arguments of a call. -/
theorem call_of_isMarker (hm : isMarker o source m = true)
    (hcomponent : isComponent source o.markers.componentName m.tree = false) :
    m.tree.role = some .arguments ∧
      ∃ p, m.parent? = some p ∧ isCallOf source o.markers.functionName p = true := by
  simp only [isMarker, hcomponent, Bool.false_or, Bool.and_eq_true, decide_eq_true_eq] at hm
  obtain ⟨hrole, hcall⟩ := hm
  exact ⟨hrole, (Option.any_eq_true _ _).1 hcall⟩

/-- A marker itself asks for nothing. -/
theorem not_asks_of_isMarker (hregular : ∀ v ∈ root.visits, Regular v.tree) (hm : m ∈ root.visits)
    (hmarker : isMarker o source m = true) {r : Replacement} : ¬ Asks o source m r := by
  intro hasks
  cases hcomponent : isComponent source o.markers.componentName m.tree with
  | true =>
    simp only [isComponent, Bool.or_eq_true, Bool.and_eq_true, decide_eq_true_eq] at hcomponent
    rcases hcomponent with ⟨hkind, hname⟩ | ⟨hkind, -⟩
    · cases hasks with
      | text _ hother => exact hother hname
      | markupAttribute hattribute => simp [hkind] at hattribute
      | string hstring => simp [hkind] at hstring
    · simpa [hkind] using hasks.kind
  | false =>
    obtain ⟨hrole, p, hparent, hcall⟩ := call_of_isMarker hmarker hcomponent
    have hphrase : m.tree.kind = .phrase := by
      rcases eq_self_or_child hm with rfl | ⟨u, hu, hchild, hancestors⟩
      · cases hparent
      · rw [Visit.parent?, hancestors] at hparent
        cases hparent
        simp only [isCallOf, Bool.and_eq_true, decide_eq_true_eq] at hcall
        exact (hregular u hu).arguments hcall.1 m.tree hchild hrole
    simpa [hphrase] using hasks.kind

end

/-! ## Nested nodes -/

/-- A visit is met below another one. -/
def Inside (m v : Visit) : Prop := ∃ c ∈ m.tree.children, v ∈ visitsUnder (m.tree :: m.ancestors) c

/-- A span lies inside another one. -/
def Within (s t : Span) : Prop := t.start ≤ s.start ∧ s.stop ≤ t.stop

instance (s t : Span) : Decidable (Within s t) := inferInstanceAs (Decidable (_ ∧ _))

section
variable {source : Source} {ancestors : List Tree} {t : Tree} {u v : Visit}

/-- A span inside one that is inside a third is inside the third. -/
theorem Within.trans {a b c : Span} (hab : Within a b) (hbc : Within b c) : Within a c :=
  ⟨hbc.1.trans hab.1, hab.2.trans hbc.2⟩

/-- Nothing but an empty span lies inside two spans that lie apart. -/
theorem Within.not_apart {s a b : Span} (hpos : s.start < s.stop) (ha : Within s a)
    (hb : Within s b) : ¬ a.Apart b := by
  obtain ⟨ha₁, ha₂⟩ := ha
  obtain ⟨hb₁, hb₂⟩ := hb
  unfold Span.Apart
  omega

/-- What is met below a visit of a walk is a visit of the same walk. -/
theorem Inside.mem (h : Inside u v) (hu : u ∈ visitsUnder ancestors t) :
    v ∈ visitsUnder ancestors t :=
  mem_visitsUnder_trans hu (mem_visitsUnder.2 (.inr h))

/-- All that is met on a walk lies inside the tree. -/
theorem within_of_mem_visitsUnder (hplaced : ∀ v ∈ visitsUnder ancestors t, Placed source v)
    (hv : v ∈ visitsUnder ancestors t) : Within v.tree.span t.span := by
  induction t using induct generalizing ancestors with
  | step t ih =>
    rcases mem_visitsUnder.1 hv with rfl | ⟨c, hc, hv⟩
    · exact ⟨Nat.le_refl _, Nat.le_refl _⟩
    · have hbelow : ∀ w ∈ visitsUnder (t :: ancestors) c, Placed source w :=
        fun w hw => hplaced w (mem_visitsUnder.2 (.inr ⟨c, hc, hw⟩))
      exact (ih c hc hbelow hv).trans ((hplaced _ (self_mem_visitsUnder ..)).inside c hc)

/-- In a placed tree a node that is met below another one lies inside it. -/
theorem Inside.within (hplaced : ∀ v ∈ visitsUnder ancestors t, Placed source v)
    (hu : u ∈ visitsUnder ancestors t) (h : Inside u v) : Within v.tree.span u.tree.span := by
  have hbelow : ∀ w ∈ visitsUnder u.ancestors u.tree, Placed source w :=
    fun w hw => hplaced w (mem_visitsUnder_trans hu hw)
  exact within_of_mem_visitsUnder hbelow (mem_visitsUnder.2 (.inr h))

/-- Of two visits one is inside the other, or they lie apart. -/
theorem nested_or_apart (hplaced : ∀ v ∈ visitsUnder ancestors t, Placed source v)
    (hu : u ∈ visitsUnder ancestors t) (hv : v ∈ visitsUnder ancestors t) :
    u = v ∨ Inside u v ∨ Inside v u ∨ u.tree.span.Apart v.tree.span := by
  induction t using induct generalizing ancestors with
  | step t ih =>
    rcases mem_visitsUnder.1 hu with rfl | ⟨c, hc, hu⟩
    · rcases mem_visitsUnder.1 hv with rfl | hv
      · exact .inl rfl
      · exact .inr (.inl hv)
    rcases mem_visitsUnder.1 hv with rfl | ⟨d, hd, hv⟩
    · exact .inr (.inr (.inl ⟨c, hc, hu⟩))
    -- Both are below children of the tree: below the same one, or one child follows the other.
    have hbelow : ∀ e ∈ t.children, ∀ w ∈ visitsUnder (t :: ancestors) e, Placed source w :=
      fun e he w hw => hplaced w (mem_visitsUnder.2 (.inr ⟨e, he, hw⟩))
    have hwithin := within_of_mem_visitsUnder (hbelow c hc) hu
    have hwithin' := within_of_mem_visitsUnder (hbelow d hd) hv
    rcases (hplaced _ (self_mem_visitsUnder ..)).siblings hc hd with rfl | hcd | hdc
    · exact ih c hc (hbelow c hc) hu hv
    · exact .inr (.inr (.inr (.inl (hwithin.2.trans (hcd.trans hwithin'.1)))))
    · exact .inr (.inr (.inr (.inr (hwithin'.2.trans (hdc.trans hwithin.1)))))

end

section
variable {o : WrapOptions} {source : Source} {root : Tree} {m v : Visit} {r : Replacement}

/-- The pieces of a literal are no markers. -/
theorem isMarker_piece (hregular : Regular v.tree) (hliteral : isLiteral v.tree = true)
    (hinside : Inside v m) : isMarker o source m = false := by
  obtain ⟨c, hc, hm⟩ := hinside
  have hleaf := hregular.pieces hliteral c hc
  rcases mem_visitsUnder.1 hm with rfl | ⟨d, hd, -⟩
  · exact isMarker_leaf hleaf rfl (kind_of_isLiteral hliteral).2.2
  · rw [hleaf] at hd
    cases hd

/-- What goes with a node is a literal or a piece of one, so that no marker stands there. -/
theorem isMarker_goesWith (hregular : ∀ v ∈ root.visits, Regular v.tree) (hv : v ∈ root.visits)
    (hkind : v.tree.kind ≠ .call) {c : Tree} (hc : c ∈ v.tree.children)
    (hgoes : GoesWith v.tree c) (hm : m ∈ visitsUnder (v.tree :: v.ancestors) c) :
    isMarker o source m = false := by
  rcases hgoes with hstring | hchild
  · have hliteral : isLiteral v.tree = true := by simp [isLiteral, hstring]
    exact isMarker_piece (hregular v hv) hliteral ⟨c, hc, hm⟩
  have hliteral : isLiteral c = true := by
    rcases hchild with ⟨-, hc⟩ | hc
    · simp [isLiteral, hc]
    · simp [isLiteral, hc]
  rcases mem_visitsUnder.1 hm with rfl | hinside
  · exact isMarker_literal hliteral rfl hkind
  · exact isMarker_piece (hregular _ (child_mem_visitsUnder hv hc)) hliteral hinside

/-- A marker inside a node lies apart from all that the node asks for. -/
theorem Asks.not_within (hplaced : ∀ v ∈ root.visits, Placed source v)
    (hgram : ∀ v ∈ root.visits, Grammatical v) (hregular : ∀ v ∈ root.visits, Regular v.tree)
    (hv : v ∈ root.visits) (hasks : Asks o source v r) (hmarker : isMarker o source m = true)
    (hinside : Inside v m) : ¬ Within r.span m.tree.span := by
  intro hwithin
  obtain ⟨c, hc, hm⟩ := hinside
  rcases spot_apart_child (hplaced v hv) (hgram v hv) hasks.spot hc with hapart | hgoes
  · have hbelow : ∀ w ∈ visitsUnder (v.tree :: v.ancestors) c, Placed source w :=
      fun w hw => hplaced w (mem_visitsUnder_trans hv (mem_visitsUnder.2 (.inr ⟨c, hc, hw⟩)))
    have hchild := hwithin.trans (within_of_mem_visitsUnder hbelow hm)
    exact Within.not_apart (asked_span_pos hasks.mem) ⟨Nat.le_refl _, Nat.le_refl _⟩ hchild hapart
  · have hkind : v.tree.kind ≠ .call := by
      intro hkind
      simpa [hkind] using hasks.kind
    rw [isMarker_goesWith hregular hv hkind hc hgoes hm] at hmarker
    cases hmarker

/-- What stands inside the arguments of a call stands inside the call. -/
theorem insideCall_of_arguments (hmarker : isMarker o source m = true)
    (hcomponent : isComponent source o.markers.componentName m.tree = false)
    (hinside : Inside m v) : insideCall o source v = true := by
  obtain ⟨-, p, hparent, hcall⟩ := call_of_isMarker hmarker hcomponent
  obtain ⟨c, -, hv⟩ := hinside
  have hp : p ∈ v.ancestors :=
    ancestors_subset hv (List.mem_cons_of_mem _ (List.mem_of_head? hparent))
  exact List.any_eq_true.2 ⟨p, hp, hcall⟩

/-- Which shapes of text are replaced inside a marker. -/
theorem Asks.shape (hasks : Asks o source v r) (hmarker : isMarker o source m = true)
    (hinside : Inside m v) :
    v.tree.kind = .markupAttribute ∨
    isComponent source o.markers.componentName m.tree = true ∧ insideCall o source v = false ∧
      (v.tree.kind = .string ∨ v.tree.kind = .element ∧
        elementName? source v.tree ≠ some o.markers.componentName) := by
  have hcomponent : insideCall o source v = false →
      isComponent source o.markers.componentName m.tree = true := by
    intro houtside
    by_contra hno
    rw [insideCall_of_arguments hmarker (Bool.eq_false_iff.2 hno) hinside] at houtside
    cases houtside
  cases hasks with
  | text hkind hother _ houtside =>
    exact .inr ⟨hcomponent houtside, houtside, .inr ⟨hkind, hother⟩⟩
  | markupAttribute hkind => exact .inl hkind
  | string hkind _ houtside => exact .inr ⟨hcomponent houtside, houtside, .inl hkind⟩

end

/-! ## The edits inside a marker -/

/-- **Of marked texts a pass replaces those that their shape does not protect.** For every tree that
nests as a parser promises, and for every element of the translation component and all arguments of
a call of the translation function in it: the edits that a pass records inside this marker are
exactly the texts that are asked for by the nodes below it. These nodes are attributes or, if the
marker is the component and no call stands around them, strings in braces and elements of other
names; all other marked texts are left alone. -/
theorem record_marked {o : WrapOptions} {source : Source} {file : Text} {root : Tree} {pass : Pass}
    (hplaced : ∀ v ∈ root.visits, Placed source v) (hgram : ∀ v ∈ root.visits, Grammatical v)
    (hregular : ∀ v ∈ root.visits, Regular v.tree) (hpass : record o source file root = .ok pass)
    {m : Visit} (hm : m ∈ root.visits) (hmarker : isMarker o source m = true) :
    (∀ s, s ∈ pass.edits.map Edit.span ∧ Within s m.tree.span ↔
      ∃ v, Inside m v ∧ ∃ r, Asks o source v r ∧ r.span = s) ∧
    ∀ v r, Inside m v → Asks o source v r →
      v.tree.kind = .markupAttribute ∨
      isComponent source o.markers.componentName m.tree = true ∧ insideCall o source v = false ∧
        (v.tree.kind = .string ∨ v.tree.kind = .element ∧
          elementName? source v.tree ≠ some o.markers.componentName) := by
  refine ⟨fun s => ?_, fun v r hinside hasks => hasks.shape hmarker hinside⟩
  rw [edits_of_record hplaced hgram hpass]
  constructor
  · rintro ⟨hs, hwithin⟩
    obtain ⟨r, hr, rfl⟩ := List.mem_map.1 hs
    obtain ⟨v, hv, hr⟩ := List.mem_flatMap.1 hr
    have hasks := mem_asked_iff.1 hr
    rcases nested_or_apart hplaced hm hv with rfl | hinside | hinside | hapart
    · exact absurd hasks (not_asks_of_isMarker hregular hm hmarker)
    · exact ⟨v, hinside, r, hasks, rfl⟩
    · exact absurd hwithin (hasks.not_within hplaced hgram hregular hv hmarker hinside)
    · have hown := spots_inside (hplaced v hv) (hgram v hv) hasks.spot
      exact absurd hapart (Within.not_apart (asked_span_pos hr) hwithin hown)
  · rintro ⟨v, hinside, r, hasks, rfl⟩
    have hv := hinside.mem hm
    have hown := spots_inside (hplaced v hv) (hgram v hv) hasks.spot
    exact ⟨List.mem_map_of_mem (List.mem_flatMap.2 ⟨v, hv, hasks.mem⟩),
      Within.trans hown (hinside.within hplaced hm)⟩

/-- The file `<T>Kept {"Hello"}<b title="Save it">Bye</b></T>`. -/
def markedSource : Source :=
  .ofChars "<T>Kept \x7b\"Hello\"\x7d<b title=\"Save it\">Bye</b></T>".toList

/-- The element of this file. -/
def markedElement : Tree :=
  .node .element none ⟨0, 47⟩ [
    .node .openTag (some .openTag) ⟨0, 3⟩ [
      .node .token none ⟨0, 1⟩ [],
      .node .identifier (some .name) ⟨1, 2⟩ [],
      .node .token none ⟨2, 3⟩ []],
    .node .markupText none ⟨3, 8⟩ [],
    .node .container none ⟨8, 17⟩ [
      .node .token none ⟨8, 9⟩ [], .node .string none ⟨9, 16⟩ [], .node .token none ⟨16, 17⟩ []],
    .node .element none ⟨17, 43⟩ [
      .node .openTag (some .openTag) ⟨17, 36⟩ [
        .node .token none ⟨17, 18⟩ [],
        .node .identifier (some .name) ⟨18, 19⟩ [],
        .node .markupAttribute none ⟨20, 35⟩ [
          .node .phrase none ⟨20, 25⟩ [],
          .node .token none ⟨25, 26⟩ [],
          .node .string none ⟨26, 35⟩ []],
        .node .token none ⟨35, 36⟩ []],
      .node .markupText none ⟨36, 39⟩ [],
      .node .closeTag (some .closeTag) ⟨39, 43⟩ [
        .node .token none ⟨39, 41⟩ [],
        .node .identifier (some .name) ⟨41, 42⟩ [],
        .node .token none ⟨42, 43⟩ []]],
    .node .closeTag (some .closeTag) ⟨43, 47⟩ [
      .node .token none ⟨43, 45⟩ [],
      .node .identifier (some .name) ⟨45, 46⟩ [],
      .node .token none ⟨46, 47⟩ []]]

/-- The statement of this file. -/
def markedStatement : Tree := .node .expressionStatement none ⟨0, 47⟩ [markedElement]

/-- The tree of this file. -/
def markedTree : Tree := .node .program none ⟨0, 47⟩ [markedStatement]

/-- The visit to the element. -/
def markedVisit : Visit := ⟨markedElement, [markedStatement, markedTree]⟩

/-- The walk over the page comes to its marker. -/
theorem markedVisit_mem : markedVisit ∈ markedTree.visits :=
  child_mem_visitsUnder (child_mem_visitsUnder (self_mem_visitsUnder [] markedTree)
    (List.mem_singleton_self markedStatement)) (List.mem_singleton_self markedElement)

/-- The marker is one by its name. -/
theorem isMarker_markedVisit : isMarker plainOptions markedSource markedVisit = true := by
  decide +kernel

/-- The nodes of the page stand where a parser puts them. -/
theorem placed_marked : ∀ v ∈ markedTree.visits, Placed markedSource v := by
  decide

/-- The names, calls and literals of the page are as the grammar has them. -/
theorem regular_marked : ∀ v ∈ markedTree.visits, Regular v.tree := by
  decide

/-- The tree of the page is one the grammar builds. -/
theorem grammatical_marked : ∀ v ∈ markedTree.visits, Grammatical v := by
  have houtside : ∀ v ∈ markedTree.visits, v.inError = false →
      v.tree.kind = .element ∨ v.tree.kind = .markupAttribute ∨ v.tree.kind = .string →
      ∀ a ∈ v.ancestors, isLiteral a = false := by
    decide
  have hruns : ∀ v ∈ markedTree.visits, v.tree.kind = .element →
      ∀ run ∈ textRuns v.tree, run <:+: v.tree.children := by
    simp [visits, markedTree, markedStatement, markedElement, visitsUnder, visitsBeside, Tree.kind,
      Tree.children, Tree.role, textRuns, elementContent, textRunsOf, isMarkupText]
    exact ⟨⟨[_], [_, _, _], rfl⟩, ⟨[_], [_], rfl⟩⟩
  exact fun v hv => ⟨houtside v hv, fun _ => hruns v hv⟩

/-- What a pass replaces in this file. -/
def markedSpans : List Span := [⟨9, 16⟩, ⟨36, 39⟩, ⟨26, 35⟩]

/-- The pass over the page records an edit for the string, the attribute and the nested text. -/
theorem record_markedTree :
    ∃ pass, record plainOptions markedSource "A.tsx" markedTree = .ok pass ∧
      pass.edits.map Edit.span = markedSpans := by
  have hrecord : ((record plainOptions markedSource "A.tsx" markedTree).toOption.map fun pass =>
      pass.edits.map Edit.span) = some markedSpans := by
    decide +kernel
  obtain ⟨pass, hpass, hspans⟩ := Option.map_eq_some_iff.1 hrecord
  exact ⟨pass, eq_ok_of_toOption hpass, hspans⟩

/-- All the edits of the page fall inside the marker. -/
theorem within_marked : ∀ s ∈ markedSpans, Within s markedVisit.tree.span := by
  decide

/-- In the component the string in braces and the text and the attribute of the other element are
asked for; the component's own text is not. -/
theorem record_marked_component :
    ∃ pass, record plainOptions markedSource "A.tsx" markedTree = .ok pass ∧
      ∀ s, s ∈ markedSpans ↔
        ∃ v, Inside markedVisit v ∧ ∃ r, Asks plainOptions markedSource v r ∧ r.span = s := by
  obtain ⟨pass, hpass, hspans⟩ := record_markedTree
  refine ⟨pass, hpass, fun s => ?_⟩
  have hmarked := (record_marked placed_marked grammatical_marked regular_marked hpass
    markedVisit_mem isMarker_markedVisit).1 s
  rw [hspans] at hmarked
  exact ⟨fun hs => hmarked.1 ⟨hs, within_marked s hs⟩, fun h => (hmarked.2 h).1⟩

/-- The string in braces of this file is marked, and it is replaced. -/
theorem record_replaces_marked :
    ¬ ∀ (o : WrapOptions) (source : Source) (file : Text) (root : Tree) (pass : Pass),
      (∀ v ∈ root.visits, Placed source v) → (∀ v ∈ root.visits, Grammatical v) →
      (∀ v ∈ root.visits, Regular v.tree) → record o source file root = .ok pass →
      ∀ m ∈ root.visits, isMarker o source m = true →
        ∀ e ∈ pass.edits, ¬ Within e.span m.tree.span := by
  intro hall
  obtain ⟨pass, hpass, hspans⟩ := record_markedTree
  have hstring : (⟨9, 16⟩ : Span) ∈ pass.edits.map Edit.span := by
    rw [hspans]
    exact List.mem_cons_self
  obtain ⟨e, he, hspan⟩ := List.mem_map.1 hstring
  refine hall _ _ _ _ pass placed_marked grammatical_marked regular_marked hpass _ markedVisit_mem
    isMarker_markedVisit e he ?_
  rw [hspan]
  exact within_marked _ List.mem_cons_self

end Localization.Extraction
