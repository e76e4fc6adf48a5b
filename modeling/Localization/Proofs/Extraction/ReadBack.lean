import Mathlib.Data.List.Basic
import Mathlib.Data.List.Forall2
import Localization.Extraction.Wrap
import Localization.Proofs.Extraction.Replacements
import Localization.Proofs.Extraction.Spots
import Localization.Proofs.Syntax.Visits

/-!
# Reading a wrapped file back

A file that was wrapped is read again. The new tree is the old one with every replaced literal
turned into a call of the translation function, in braces or not, and perhaps with a statement at
the top that binds the function (`ReadBack`). What no replacement touches covers the same bytes as
before. Of a run of text that was replaced only blanks are left, on both sides of the call.
-/

namespace Localization.Extraction

open Syntax Syntax.Tree

/-! ## What a parser promises -/

/-- A tree that holds nothing that is replaced. -/
def Plain (t : Tree) : Prop :=
  ∀ c ∈ t.subtrees, c.kind ≠ .element ∧ c.kind ≠ .markupAttribute ∧ c.kind ≠ .string

instance (t : Tree) : Decidable (Plain t) :=
  inferInstanceAs (Decidable (∀ c ∈ t.subtrees, _))

/-- What the grammar says of names, calls and literals: names are plain, the arguments of a call are
a phrase, and the pieces of a literal are leaves. -/
structure Regular (t : Tree) : Prop where
  identifier : t.kind = .identifier → Plain t
  tagName : t.kind = .openTag → ∀ c ∈ t.children, c.role = some .name → Plain c
  attributeName : t.kind = .markupAttribute → ∀ c ∈ t.children.head?, Plain c
  arguments : t.kind = .call → ∀ c ∈ t.children, c.role = some .arguments → c.kind = .phrase
  pieces : isLiteral t = true → ∀ c ∈ t.children, c.children = []

instance (t : Tree) : Decidable (Regular t) :=
  decidable_of_iff
    ((t.kind = .identifier → Plain t) ∧
      (t.kind = .openTag → ∀ c ∈ t.children, c.role = some .name → Plain c) ∧
      (t.kind = .markupAttribute → ∀ c ∈ t.children.head?, Plain c) ∧
      (t.kind = .call → ∀ c ∈ t.children, c.role = some .arguments → c.kind = .phrase) ∧
      (isLiteral t = true → ∀ c ∈ t.children, c.children = []))
    ⟨fun ⟨h₁, h₂, h₃, h₄, h₅⟩ => ⟨h₁, h₂, h₃, h₄, h₅⟩, fun h => ⟨h.1, h.2, h.3, h.4, h.5⟩⟩

/-! ## A file and the file that was made of it -/

/-- A file, the file that was made of it, and the spans that were replaced by calls, with the keys
of these calls. -/
structure Rewrite where
  options : WrapOptions
  source : Source
  new : Source
  calls : List (Span × Text)

namespace Rewrite

variable (w : Rewrite)

/-- The function that is called. -/
def functionName : Text := w.options.markers.functionName

/-- No replacement touches a span. -/
def Untouched (s : Span) : Prop := ∀ c ∈ w.calls, c.1.Apart s

instance (s : Span) : Decidable (w.Untouched s) :=
  inferInstanceAs (Decidable (∀ c ∈ w.calls, c.1.stop ≤ s.start ∨ s.stop ≤ c.1.start))

/-- A span of the new file is as long as a span of the old one and holds the same bytes. -/
structure SameBytes (s s' : Span) : Prop where
  length : s'.stop - s'.start = s.stop - s.start
  bytes : w.new.slice s'.start s'.stop = w.source.slice s.start s.stop

instance (s s' : Span) : Decidable (w.SameBytes s s') :=
  decidable_of_iff
    (s'.stop - s'.start = s.stop - s.start ∧
      w.new.slice s'.start s'.stop = w.source.slice s.start s.stop)
    ⟨fun ⟨hlength, hbytes⟩ => ⟨hlength, hbytes⟩, fun h => ⟨h.length, h.bytes⟩⟩

/-- A call of a function by its name with a string, by the spans of its parts. -/
def callTree (s f a l m r : Span) (pieces : List Tree) : Tree :=
  .node .call none s [
    .node .identifier (some .function) f [],
    .node .phrase (some .arguments) a [
      .node .token none l [], .node .string none m pieces, .node .token none r []]]

/-- A call of the function with a key. -/
inductive IsCall (key : Text) : Tree → Prop
  | call {s f a l m r : Span} {pieces : List Tree}
      (hname : (Syntax.Tree.node .identifier (some .function) f []).text w.new = w.functionName)
      (hkey : (Syntax.Tree.node .string none m pieces).text w.new = Escape.literal key)
      (hpieces : ∀ p ∈ pieces, p.children = []) : IsCall key (callTree s f a l m r pieces)

/-- A call of the function with a key, in braces. -/
inductive IsContainer (key : Text) : Tree → Prop
  | container {s l r : Span} {c : Tree} (hcall : w.IsCall key c) :
      IsContainer key (.node .container none s [.node .token none l [], c, .node .token none r []])

/-- Texts that show nothing: what is left beside a call. -/
structure Blank (ts : List Tree) : Prop where
  leaf : ∀ t ∈ ts, ∃ s, t = .node .markupText none s []
  inside : ∀ t ∈ ts, t.stop ≤ w.new.bytes.length
  blank : ∀ s, runSpan? ts = some s → ∀ b ∈ w.new.slice s.start s.stop, isBlankByte b = true

/-- A node is a tag of the element around it. -/
def isTag (t : Tree) : Bool := t.role = some .openTag || t.role = some .closeTag

/-- A text that was kept. -/
def KeptText (t t' : Tree) : Prop :=
  ∃ k s s', t = .node k none s [] ∧ t' = .node k none s' [] ∧ isMarkupText t = true

/-- How neighbours are read back when `R` says how a single node is. A child is kept, or it is a
string in braces that became a call. The texts between the tags of an element are kept or replaced
run by run. -/
inductive Beside (R : Tree → Tree → Prop) : Kind → List Tree → List Tree → Prop
  | nil {k : Kind} : Beside R k [] []
  | child {k : Kind} {c c' : Tree} {cs cs' : List Tree} (hchild : R c c')
      (hliteral : isLiteral c = true → w.Untouched c.span)
      (hplain : k = .element → isMarkupText c = false ∧ isTag c = false)
      (hrest : Beside R k cs cs') : Beside R k (c :: cs) (c' :: cs')
  | string {c c' : Tree} {cs cs' : List Tree} {key : Text} (hkind : c.kind = .string)
      (hmem : (c.span, key) ∈ w.calls) (hcall : w.IsCall key c')
      (hrest : Beside R .container cs cs') : Beside R .container (c :: cs) (c' :: cs')
  | keptRun {run run' cs cs' : List Tree} {s s' : Span} (htexts : List.Forall₂ KeptText run run')
      (hspan : runSpan? run = some s) (hspan' : runSpan? run' = some s')
      (huntouched : w.Untouched s) (hbytes : w.SameBytes s s')
      (hnext : ∀ t ∈ cs.head?, isMarkupText t = false)
      (hrest : Beside R .element cs cs') : Beside R .element (run ++ cs) (run' ++ cs')
  | replacedRun {run front back cs cs' : List Tree} {c : Tree} {s : Span} {key : Text}
      (htexts : ∀ t ∈ run, isMarkupText t = true ∧ t.role = none)
      (hspan : trimmedSpan? w.source run = some s) (hmem : (s, key) ∈ w.calls)
      (hfront : w.Blank front) (hcontainer : w.IsContainer key c) (hback : w.Blank back)
      (hnext : ∀ t ∈ cs.head?, isMarkupText t = false)
      (hrest : Beside R .element cs cs') :
      Beside R .element (run ++ cs) (front ++ c :: (back ++ cs'))

/-- How a node is read back. An element keeps its tags; the string value of an attribute may have
become a call in braces. -/
inductive Again : Tree → Tree → Prop
  | node {k : Kind} {r : Option Role} {s s' : Span} {cs cs' : List Tree} (hkind : k ≠ .element)
      (hbytes : w.Untouched s → w.SameBytes s s') (hbelow : w.Beside Again k cs cs') :
      Again (.node k r s cs) (.node k r s' cs')
  | value {r : Option Role} {s s' : Span} {c c' : Tree} {cs cs' : List Tree} {key : Text}
      (hlength : 2 ≤ cs.length) (hkind : c.kind = .string) (hmem : (c.span, key) ∈ w.calls)
      (hcontainer : w.IsContainer key c') (hbelow : w.Beside Again .markupAttribute cs cs') :
      Again (.node .markupAttribute r s (cs ++ [c])) (.node .markupAttribute r s' (cs' ++ [c']))
  | element {r : Option Role} {s s' : Span} {first first' last last' : Tree} {cs cs' : List Tree}
      (hfirst : Again first first')
      (hopen : first.kind = .openTag ∧ first.role = some .openTag)
      (hbelow : w.Beside Again .element cs cs')
      (hlast : Again last last')
      (hclose : last.kind = .closeTag ∧ last.role = some .closeTag) :
      Again (.node .element r s (first :: (cs ++ [last])))
        (.node .element r s' (first' :: (cs' ++ [last'])))

/-- A statement that binds the function: an import of its name, or a declaration that requires a
module and takes the name from it. -/
inductive IsBinding : Tree → Prop
  | importing {s a b c d e f g h i j : Span} {pieces : List Tree}
      (hname : (Syntax.Tree.node .identifier (some .name) f []).text w.new = w.functionName)
      (hpieces : ∀ p ∈ pieces, p.children = []) :
      IsBinding (.node .importStatement none s [
        .node .token none a [],
        .node .importClause none b [.node .phrase none c [
          .node .token none d [],
          .node .importSpecifier none e [.node .identifier (some .name) f []],
          .node .token none g []]],
        .node .token none h [],
        .node .string none i pieces,
        .node .token none j []])
  | requiring {s a b c d e f g h i j k l m n : Span} {pieces : List Tree}
      (hname : (Syntax.Tree.node .shorthandBinding none e []).text w.new = w.functionName)
      (hrequire : (Syntax.Tree.node .identifier (some .function) i []).text w.new = "require")
      (hpieces : ∀ p ∈ pieces, p.children = []) :
      IsBinding (.node .lexicalDeclaration none s [
        .node .token none a [],
        .node .declarator none b [
          .node .phrase (some .name) c [
            .node .token none d [], .node .shorthandBinding none e [], .node .token none f []],
          .node .token none g [],
          callTree h i j k l m pieces],
        .node .token none n []])

/-- How a whole file is read back, without or with a statement that was added. -/
inductive ReadBack : (added : Bool) → Tree → Tree → Prop
  | same {r : Option Role} {s s' : Span} {cs cs' : List Tree}
      (hbelow : w.Beside w.Again .program cs cs') :
      ReadBack false (.node .program r s cs) (.node .program r s' cs')
  | added {r : Option Role} {s s' : Span} {front front' back back' : List Tree} {statement : Tree}
      (hfront : w.Beside w.Again .program front front') (hbinding : w.IsBinding statement)
      (hback : w.Beside w.Again .program back back') :
      ReadBack true (.node .program r s (front ++ back))
        (.node .program r s' (front' ++ statement :: back'))

/-! ## What is kept -/

variable {w} {t t' : Tree} {cs cs' : List Tree} {k : Kind}

/-- A node that comes again keeps its kind. -/
theorem Again.kind_eq (h : w.Again t t') : t'.kind = t.kind := by
  cases h with
  | node => rfl
  | value => rfl
  | element => rfl

/-- A node that comes again keeps its role. -/
theorem Again.role_eq (h : w.Again t t') : t'.role = t.role := by
  cases h with
  | node => rfl
  | value => rfl
  | element => rfl

/-- A child that was kept as it is. -/
def Kept (w : Rewrite) (c c' : Tree) : Prop :=
  w.Again c c' ∧ (isLiteral c = true → w.Untouched c.span)

/-- But for elements and braces, neighbours are kept one by one. -/
theorem Beside.forall₂ (h : w.Beside w.Again k cs cs') (helement : k ≠ .element)
    (hcontainer : k ≠ .container) : List.Forall₂ w.Kept cs cs' := by
  induction h with
  | nil => exact .nil
  | child hchild hliteral _ _ ih => exact .cons ⟨hchild, hliteral⟩ (ih helement hcontainer)
  | string => exact absurd rfl hcontainer
  | keptRun => exact absurd rfl helement
  | replacedRun => exact absurd rfl helement

/-- A node over the same bytes has the same text. -/
theorem SameBytes.text_eq (h : w.SameBytes t.span t'.span) : t'.text w.new = t.text w.source := by
  have hslice : w.new.slice t'.start t'.stop = w.source.slice t.start t.stop := h.bytes
  rw [Tree.text, Source.sliceText, hslice]
  rfl

/-- A node that is neither an element nor an attribute keeps its text if nothing touches it. -/
theorem Again.text_eq (h : w.Again t t') (hplain : Plain t) (huntouched : w.Untouched t.span) :
    t'.text w.new = t.text w.source := by
  obtain ⟨helement, hattribute, -⟩ := hplain t (List.mem_map_of_mem (self_mem_visitsUnder [] t))
  cases h with
  | node _ hbytes _ => exact (hbytes huntouched).text_eq
  | value => exact absurd rfl hattribute
  | element => exact absurd rfl helement

/-! ## Runs of text -/

/-- A child that is no markup text begins no run. -/
theorem textRunsOf_cons_of_not {c : Tree} (hc : isMarkupText c = false) (cs : List Tree) :
    textRunsOf (c :: cs) = textRunsOf cs := by
  simp [textRunsOf, hc]

/-- A run ends where something else than text comes. -/
theorem textRunsOf_append {run rest : List Tree} (hne : run ≠ [])
    (htexts : ∀ t ∈ run, isMarkupText t = true)
    (hnext : ∀ t ∈ rest.head?, isMarkupText t = false) :
    textRunsOf (run ++ rest) = run :: textRunsOf rest := by
  induction run with
  | nil => exact absurd rfl hne
  | cons t run ih =>
    obtain ⟨ht, htexts⟩ := List.forall_mem_cons.1 htexts
    rw [List.cons_append, textRunsOf.eq_def]
    dsimp only
    rw [if_pos ht]
    cases run with
    | nil =>
      cases rest with
      | nil => rfl
      | cons c rest =>
        have hc : ¬isMarkupText c = true := by simp [hnext c rfl]
        rw [List.nil_append]
        cases textRunsOf (c :: rest) with
        | nil => rfl
        | cons run runs => exact if_neg hc
    | cons u run =>
      have hu := (List.forall_mem_cons.1 htexts).1
      rw [ih (List.cons_ne_nil _ _) htexts]
      exact if_pos hu

/-- A run of a list that starts with texts is these texts, or it comes later. -/
theorem mem_textRunsOf_append {run ts rest : List Tree} (htexts : ∀ t ∈ ts, isMarkupText t = true)
    (hnext : ∀ t ∈ rest.head?, isMarkupText t = false) (h : run ∈ textRunsOf (ts ++ rest)) :
    run = ts ∧ ts ≠ [] ∨ run ∈ textRunsOf rest := by
  by_cases hts : ts = []
  · rw [hts] at h
    exact .inr h
  · rw [textRunsOf_append hts htexts hnext] at h
    rcases List.mem_cons.1 h with rfl | h
    · exact .inl ⟨rfl, hts⟩
    · exact .inr h

/-- A blank run consists of markup text. -/
theorem isMarkupText_of_blank {ts : List Tree} (h : w.Blank ts) :
    ∀ t ∈ ts, isMarkupText t = true := by
  intro t ht
  obtain ⟨s, rfl⟩ := h.leaf t ht
  rfl

/-- A blank run has no tag in it. -/
theorem not_tag_of_blank {ts : List Tree} (h : w.Blank ts) : ∀ t ∈ ts, isTag t = false := by
  intro t ht
  obtain ⟨s, rfl⟩ := h.leaf t ht
  rfl

/-- Nothing is left of blanks. -/
theorem trimmedSpan?_of_blank {ts : List Tree} (h : w.Blank ts) : trimmedSpan? w.new ts = none := by
  unfold trimmedSpan?
  cases hspan : runSpan? ts with
  | none => rfl
  | some s =>
    have hstop : s.stop ≤ w.new.bytes.length := by
      unfold runSpan? at hspan
      split at hspan
      next first last hfirst hlast =>
        cases hspan
        exact h.inside last (List.mem_of_getLast? hlast)
      next => cases hspan
    have hlead : (w.new.slice s.start s.stop).takeWhile isBlankByte = w.new.slice s.start s.stop :=
      List.takeWhile_eq_self_iff.2 (h.blank s hspan)
    have hlength : (w.new.slice s.start s.stop).length = s.stop - s.start := by
      rw [Source.slice, List.length_drop, List.length_take, Nat.min_eq_left hstop]
    simp only [Option.bind_some, hlead, hlength]
    rw [if_pos (by omega)]

/-- A kept text is markup text in both trees. -/
theorem isMarkupText_of_keptText (h : KeptText t t') :
    isMarkupText t = true ∧ isMarkupText t' = true := by
  obtain ⟨k, s, s', rfl, rfl, htext⟩ := h
  exact ⟨htext, htext⟩

/-- A kept run consists of markup text in both trees. -/
theorem isMarkupText_of_keptTexts {run run' : List Tree} (h : List.Forall₂ KeptText run run') :
    (∀ t ∈ run, isMarkupText t = true) ∧ ∀ t ∈ run', isMarkupText t = true := by
  induction h with
  | nil => exact ⟨nofun, nofun⟩
  | cons ht _ ih =>
    have htext := isMarkupText_of_keptText ht
    exact ⟨List.forall_mem_cons.2 ⟨htext.1, ih.1⟩, List.forall_mem_cons.2 ⟨htext.2, ih.2⟩⟩

/-- A kept run has no tag in it in either tree. -/
theorem not_tag_of_keptTexts {run run' : List Tree} (h : List.Forall₂ KeptText run run') :
    (∀ t ∈ run, isTag t = false) ∧ ∀ t ∈ run', isTag t = false := by
  induction h with
  | nil => exact ⟨nofun, nofun⟩
  | cons ht _ ih =>
    obtain ⟨k, s, s', rfl, rfl, -⟩ := ht
    exact ⟨List.forall_mem_cons.2 ⟨rfl, ih.1⟩, List.forall_mem_cons.2 ⟨rfl, ih.2⟩⟩

/-- A run with a span is not empty. -/
theorem ne_nil_of_runSpan? {run : List Tree} {s : Span} (h : runSpan? run = some s) : run ≠ [] := by
  rintro rfl
  cases h

/-- A trimmed span lies inside the span of its run and is not empty. -/
theorem runSpan?_of_trimmedSpan? {source : Source} {run : List Tree} {s : Span}
    (h : trimmedSpan? source run = some s) : ∃ whole, runSpan? run = some whole ∧
      whole.start ≤ s.start ∧ s.start < s.stop ∧ s.stop ≤ whole.stop := by
  obtain ⟨whole, hwhole, h⟩ := Option.bind_eq_some_iff.1 h
  dsimp only at h
  split at h
  next => cases h
  next hlt =>
    cases h
    exact ⟨whole, hwhole, Nat.le_add_right .., Nat.lt_of_not_le hlt, Nat.sub_le ..⟩

/-- A run that shows the same bytes as another one shows the same text. -/
theorem runReplacement?_of_sameBytes {run run' : List Tree} {s s' : Span}
    (hspan : runSpan? run = some s) (hspan' : runSpan? run' = some s') (hsame : w.SameBytes s s')
    (h : runReplacement? w.options w.source run = none) :
    runReplacement? w.options w.new run' = none := by
  simp only [runReplacement?, trimmedSpan?, hspan, hspan', Option.bind_some, hsame.bytes] at h ⊢
  generalize ((w.source.slice s.start s.stop).takeWhile isBlankByte).length = a at h ⊢
  generalize ((w.source.slice s.start s.stop).reverse.takeWhile isBlankByte).length = b at h ⊢
  have hlength := hsame.length
  split
  next => rfl
  next hlt =>
    rw [if_neg (by omega), Option.bind_some] at h
    have htrim := w.source.slice_trim s.start s.stop (a := a) (b := b) (by omega)
    have htrim' := w.new.slice_trim s'.start s'.stop (a := a) (b := b) (by omega)
    rw [hsame.bytes, hlength, ← htrim] at htrim'
    have hshown : shownText w.new ⟨s'.start + a, s'.stop - b⟩ =
        shownText w.source ⟨s.start + a, s.stop - b⟩ := by
      rw [shownText, shownText, Source.sliceText, Source.sliceText, htrim']
    rw [Option.bind_some, hshown]
    split at h
    next hexcluded => rw [if_pos hexcluded]
    next => cases h

/-! ## Between the tags of an element -/

/-- Content that does not begin with text does not do so in the new tree. -/
theorem Beside.head_not_text (h : w.Beside w.Again .element cs cs')
    (hnext : ∀ t ∈ cs.head?, isMarkupText t = false) :
    ∀ t ∈ cs'.head?, isMarkupText t = false := by
  cases h with
  | nil => nofun
  | @child _ c c' _ _ hchild hliteral hplain hrest =>
    rintro t ⟨⟩
    rw [isMarkupText, hchild.kind_eq]
    exact hnext c rfl
  | keptRun htexts hspan hspan' huntouched hbytes hnext' hrest =>
    cases htexts with
    | nil => cases hspan
    | @cons t t' ts ts' ht hts =>
      have htext := hnext t rfl
      rw [(isMarkupText_of_keptText ht).1] at htext
      cases htext
  | @replacedRun run _ _ _ _ _ _ _ htexts hspan =>
    cases run with
    | nil => cases hspan
    | cons t ts =>
      have htext := hnext t rfl
      rw [(htexts t List.mem_cons_self).1] at htext
      cases htext

/-- The container of a call is no markup text. -/
theorem isMarkupText_of_isContainer {key : Text} {c : Tree} (h : w.IsContainer key c) :
    isMarkupText c = false := by
  cases h
  rfl

/-- The texts that are read back are blank, or they were there before and nothing touched them. -/
theorem Beside.runs (h : w.Beside w.Again k cs cs') (hk : k = .element) {run' : List Tree}
    (hrun : run' ∈ textRunsOf cs') :
    trimmedSpan? w.new run' = none ∨ ∃ run ∈ textRunsOf cs, ∃ s s', runSpan? run = some s ∧
      runSpan? run' = some s' ∧ w.Untouched s ∧ w.SameBytes s s' := by
  induction h with
  | nil => cases hrun
  | @child k c c' cs cs' hchild hliteral hplain hrest ih =>
    have hc := (hplain hk).1
    have hc' : isMarkupText c' = false := by rwa [isMarkupText, hchild.kind_eq]
    rw [textRunsOf_cons_of_not hc'] at hrun
    rw [textRunsOf_cons_of_not hc]
    exact ih hk hrun
  | string => cases hk
  | @keptRun run run₁ cs cs' s s' htexts hspan hspan' huntouched hbytes hnext hrest ih =>
    obtain ⟨htext, htext'⟩ := isMarkupText_of_keptTexts htexts
    rw [textRunsOf_append (ne_nil_of_runSpan? hspan) htext hnext]
    rcases mem_textRunsOf_append htext' (hrest.head_not_text hnext) hrun with ⟨rfl, -⟩ | hrun
    · exact .inr ⟨run, List.mem_cons_self, s, s', hspan, hspan', huntouched, hbytes⟩
    · refine (ih hk hrun).imp_right ?_
      rintro ⟨old, hold, hrest⟩
      exact ⟨old, List.mem_cons_of_mem _ hold, hrest⟩
  | @replacedRun run front back cs cs' c s key htexts hspan hmem hfront hcontainer hback hnext hrest
      ih =>
    have hne : run ≠ [] := by
      obtain ⟨whole, hwhole, -⟩ := runSpan?_of_trimmedSpan? hspan
      exact ne_nil_of_runSpan? hwhole
    have hc := isMarkupText_of_isContainer hcontainer
    rw [textRunsOf_append hne (fun t ht => (htexts t ht).1) hnext]
    rcases mem_textRunsOf_append (isMarkupText_of_blank hfront) (by rintro t ⟨⟩; exact hc) hrun with
      ⟨rfl, -⟩ | hrun
    · exact .inl (trimmedSpan?_of_blank hfront)
    rw [textRunsOf_cons_of_not hc] at hrun
    rcases mem_textRunsOf_append (isMarkupText_of_blank hback) (hrest.head_not_text hnext) hrun with
      ⟨rfl, -⟩ | hrun
    · exact .inl (trimmedSpan?_of_blank hback)
    · refine (ih hk hrun).imp_right ?_
      rintro ⟨old, hold, hrest⟩
      exact ⟨old, List.mem_cons_of_mem _ hold, hrest⟩

end Rewrite

end Localization.Extraction
