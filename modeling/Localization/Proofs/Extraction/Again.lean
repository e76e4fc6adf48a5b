import Mathlib.Data.List.Basic
import Mathlib.Data.List.Forall2
import Localization.Extraction.Wrap
import Localization.Proofs.Extraction.Fresh
import Localization.Proofs.Extraction.Kept
import Localization.Proofs.Extraction.ReadBack
import Localization.Proofs.Extraction.Replacements
import Localization.Proofs.Extraction.Spots
import Localization.Proofs.Extraction.Wrap
import Localization.Proofs.Results
import Localization.Proofs.Syntax.Visits

/-!
# Wrapping again

A file was wrapped, and its new text was read by the same parser (`Reopened`). The pass that was
made over it then is what the parts of the new tree were compared with (`Reopened.made`), so no node
of the new tree asks for anything, and a second pass leaves the file alone. If a statement was put
in that binds the function, it stands among the statements of the new tree, and every later pass
sees it.
-/

namespace Localization.Extraction

open Syntax Syntax.Tree

/-! ## A pass over a file that asks for nothing -/

section
variable {o : WrapOptions} {parser : Parser} {file : Text} {source : Source} {root : Tree}

/-- A walk over nodes that ask for nothing leaves the pass as it is. -/
theorem foldlM_wrapVisit_of_idle {vs : List Visit} (p : Pass)
    (h : ∀ v ∈ vs, replacements o source v = .ok []) :
    vs.foldlM (wrapVisit o source) p = .ok p := by
  induction vs with
  | nil => rfl
  | cons v vs ih =>
    rw [List.forall_mem_cons] at h
    rw [List.foldlM_cons, wrapVisit_eq, h.1]
    exact ih h.2

/-- A pass over a file that asks for nothing reads the calls that are there already. -/
theorem record_of_idle (h : ∀ v ∈ root.visits, replacements o source v = .ok []) :
    record o source file root =
      (reserveKeys o source (.empty file o.keyLead) root.subtrees).map fun registry =>
        ⟨registry, [], [], []⟩ := by
  unfold record
  cases reserveKeys o source (.empty file o.keyLead) root.subtrees with
  | error e => rfl
  | ok registry => exact foldlM_wrapVisit_of_idle _ h

/-- A file that asks for nothing is not changed. -/
theorem wrapContent_of_idle (hparse : parser file source = .ok root)
    (h : ∀ v ∈ root.visits, replacements o source v = .ok []) :
    (wrapContent o parser file source).newSource = none ∧
      (wrapContent o parser file source).wrapped = [] := by
  simp only [wrapContent, hparse, wrapTree, record_of_idle h]
  cases reserveKeys o source (.empty file o.keyLead) root.subtrees with
  | error e => exact ⟨rfl, rfl⟩
  | ok registry => exact ⟨rfl, rfl⟩

/-- If its calls can be read too, nothing is reported. -/
theorem wrapContent_eq_unchanged (hparse : parser file source = .ok root)
    (h : ∀ v ∈ root.visits, replacements o source v = .ok [])
    (hlegible : ∀ v ∈ root.visits, Legible o.markers source v.tree) :
    wrapContent o parser file source = .unchanged file := by
  have hreserved : ∃ registry, reserveKeys o source (.empty file o.keyLead) root.subtrees =
      .ok registry := exists_reserveKeys_iff.2 (List.forall_mem_map.2 hlegible)
  obtain ⟨registry, hregistry⟩ := hreserved
  simp only [wrapContent, hparse, wrapTree, record_of_idle h, hregistry]
  rfl

end

/-! ## The function is seen -/

namespace Rewrite

variable {w : Rewrite} {statement root root' : Tree}

/-- The statement that binds the function is a named node. -/
theorem IsBinding.isNamed (h : w.IsBinding statement) : statement.kind.isNamed = true := by
  cases h with
  | importing => rfl
  | requiring => rfl

/-- The statement that binds the function is found to bind it. -/
theorem IsBinding.statementBinds (h : w.IsBinding statement) :
    statementBinds w.new w.functionName statement = true := by
  cases h with
  | importing hname hpieces =>
    simp [Extraction.statementBinds, importsName, subtrees, visits, visitsUnder, visitsBeside, kind,
      child?, children, role, hname]
  | requiring hname hrequire hpieces =>
    simp [Extraction.statementBinds, declarationBinds, namedChildren, binds, subtrees, visits,
      visitsUnder, visitsBeside, kind, child?, children, role, hname, Kind.isNamed]

/-- A statement that was put in is seen from everywhere in the file. -/
theorem ReadBack.declares (h : w.ReadBack true root root') (edits : List Edit) :
    declares w.new w.functionName root' edits = true := by
  cases h with
  | @added r s s' front front' back back' statement hfront hbinding hback =>
    have hmem : statement ∈
        (Syntax.Tree.node .program r s' (front' ++ statement :: back')).namedChildren :=
      List.mem_filter.2 ⟨by simp [children], hbinding.isNamed⟩
    have hany := List.any_eq_true.2 ⟨statement, hmem, hbinding.statementBinds⟩
    rw [Extraction.declares, hany, Bool.true_or]

end Rewrite

/-! ## A file that was wrapped -/

/-- The spans that a pass replaces, with the keys of the calls that it puts there. -/
def Pass.calls (p : Pass) : List (Span × Text) :=
  (p.edits.map Edit.span).zip (p.wrapped.map (·.key))

/-- What a pass makes of a file. -/
def Pass.rewrite (p : Pass) (o : WrapOptions) (source new : Source) : Rewrite :=
  ⟨o, source, new, p.calls⟩

/-- A file was wrapped, and the parser reads the new file back. The tree of the file has no region
that could not be read, its spans nest and it obeys the grammar; the pass over it recorded `pass`
and the file was changed to `new`; and the tree of the new file is the old one with the recorded
spans turned into calls, with a statement that binds the function where one was put in. -/
structure Reopened (o : WrapOptions) (parser : Parser) (file : Text) (source new : Source)
    (root root' : Tree) (pass : Pass) : Prop where
  parsed : parser file source = .ok root
  placed : ∀ v ∈ root.visits, Placed source v
  grammatical : ∀ v ∈ root.visits, Grammatical v
  regular : ∀ v ∈ root.visits, Regular v.tree
  intact : ∀ t ∈ root.subtrees, t.kind ≠ .error
  recorded : record o source file root = .ok pass
  changed : (wrapContent o parser file source).newSource = some new.chars
  reparsed : parser file new = .ok root'
  readBack : (pass.rewrite o source new).ReadBack (wrapContent o parser file source).importAdded
    root root'

namespace Reopened

variable {o : WrapOptions} {parser : Parser} {file : Text} {source new : Source}
  {root root' : Tree} {pass : Pass}

/-- A pass reports as many strings as it records edits. -/
theorem length_wrapped (h : Reopened o parser file source new root root' pass) :
    pass.edits.length = pass.wrapped.length :=
  (record_extends h.recorded).1.length_eq

/-- The calls are where the visits of the old tree asked for them. -/
theorem made (h : Reopened o parser file source new root root' pass) :
    (pass.rewrite o source new).Made root where
  placed := h.placed
  grammatical := h.grammatical
  regular := h.regular
  readable v hv := by
    refine List.any_eq_false.2 fun a ha => ?_
    rcases mem_ancestors hv ha with hmem | hmem
    · cases hmem
    · simpa using h.intact a hmem
  calls := by
    have hzip : pass.calls.map Prod.fst = pass.edits.map Edit.span :=
      List.map_fst_zip (by simp [h.length_wrapped])
    exact hzip.trans (edits_of_record h.placed h.grammatical h.recorded)
  answered v hv := replacements_of_record h.recorded hv
  legible v hv := by
    obtain ⟨registry, hregistry, -⟩ := bind_eq_ok.1 h.recorded
    exact exists_reserveKeys_iff.1 ⟨registry, hregistry⟩ v.tree (List.mem_map_of_mem hv)

/-- The new tree asks for nothing. -/
theorem fresh (h : Reopened o parser file source new root root' pass) :
    (pass.rewrite o source new).Fresh ((pass.rewrite o source new).due root.visits) root'.visits :=
  h.readBack.fresh h.made

end Reopened

/-- **Wrapping twice is wrapping once.** If the parser reads the new file back, a second pass over
it changes nothing, and it reports nothing either, unless the function is the one that loads
modules. If the first pass put an import in, the new file declares the function, wherever it is
called. -/
theorem wrapContent_again {o : WrapOptions} {parser : Parser} {file : Text} {source new : Source}
    {root root' : Tree} {pass : Pass} (h : Reopened o parser file source new root root' pass) :
    (wrapContent o parser file new).modified = false ∧
    (wrapContent o parser file new).newSource = none ∧
    (wrapContent o parser file new).wrapped = [] ∧
    (o.markers.functionName ≠ "require" → wrapContent o parser file new = .unchanged file) ∧
    ((wrapContent o parser file source).importAdded = true →
      ∀ edits, declares new o.markers.functionName root' edits = true) := by
  have hidle : ∀ v ∈ root'.visits, replacements o new v = .ok [] := h.fresh.idle
  obtain ⟨hsource, hwrapped⟩ := wrapContent_of_idle h.reparsed hidle
  refine ⟨?_, hsource, hwrapped, fun hname => ?_, fun hadded edits => ?_⟩
  · rw [WrapResult.modified, hsource]
    rfl
  · exact wrapContent_eq_unchanged h.reparsed hidle (h.fresh.legible hname)
  · have hread := h.readBack
    rw [hadded] at hread
    exact hread.declares edits

/-- The file `<p title="Save it"> Hello {t('old')}</p>`. -/
def greetingSource : Source := .ofChars "<p title=\"Save it\"> Hello \x7bt('old')\x7d</p>".toList

/-- The tree of this file. -/
def greeting : Tree :=
  .node .program none ⟨0, 40⟩ [
    .node .expressionStatement none ⟨0, 40⟩ [.node .element none ⟨0, 40⟩ [
    .node .openTag (some .openTag) ⟨0, 19⟩ [
      .node .token none ⟨0, 1⟩ [],
      .node .identifier (some .name) ⟨1, 2⟩ [],
      .node .markupAttribute none ⟨3, 18⟩ [
        .node .phrase none ⟨3, 8⟩ [], .node .token none ⟨8, 9⟩ [], .node .string none ⟨9, 18⟩ []],
      .node .token none ⟨18, 19⟩ []],
    .node .markupText none ⟨19, 26⟩ [],
    .node .container none ⟨26, 36⟩ [
      .node .token none ⟨26, 27⟩ [],
      Rewrite.callTree ⟨27, 35⟩ ⟨27, 28⟩ ⟨28, 35⟩ ⟨28, 29⟩ ⟨29, 34⟩ ⟨34, 35⟩ [],
      .node .token none ⟨35, 36⟩ []],
    .node .closeTag (some .closeTag) ⟨36, 40⟩ [
      .node .token none ⟨36, 38⟩ [],
      .node .identifier (some .name) ⟨38, 39⟩ [],
      .node .token none ⟨39, 40⟩ []]]]]

/-- The file after it was wrapped. -/
def greetingNew : Source :=
  .ofChars ("import \x7b t \x7d from 'lokal-react';\n" ++
    "<p title=\x7bt('A_save_it')\x7d> \x7bt('A_hello')\x7d \x7bt('old')\x7d</p>").toList

/-- The tree of the file after it was wrapped. -/
def greetingAgain : Tree :=
  .node .program none ⟨0, 89⟩ [
    .node .importStatement none ⟨0, 32⟩ [
      .node .token none ⟨0, 6⟩ [],
      .node .importClause none ⟨7, 12⟩ [.node .phrase none ⟨7, 12⟩ [
        .node .token none ⟨7, 8⟩ [],
        .node .importSpecifier none ⟨9, 10⟩ [.node .identifier (some .name) ⟨9, 10⟩ []],
        .node .token none ⟨11, 12⟩ []]],
      .node .token none ⟨13, 17⟩ [],
      .node .string none ⟨18, 31⟩ [],
      .node .token none ⟨31, 32⟩ []],
    .node .expressionStatement none ⟨33, 89⟩ [.node .element none ⟨33, 89⟩ [
    .node .openTag (some .openTag) ⟨33, 59⟩ [
      .node .token none ⟨33, 34⟩ [],
      .node .identifier (some .name) ⟨34, 35⟩ [],
      .node .markupAttribute none ⟨36, 58⟩ [
        .node .phrase none ⟨36, 41⟩ [],
        .node .token none ⟨41, 42⟩ [],
        .node .container none ⟨42, 58⟩ [
          .node .token none ⟨42, 43⟩ [],
          Rewrite.callTree ⟨43, 57⟩ ⟨43, 44⟩ ⟨44, 57⟩ ⟨44, 45⟩ ⟨45, 56⟩ ⟨56, 57⟩ [],
          .node .token none ⟨57, 58⟩ []]],
      .node .token none ⟨58, 59⟩ []],
    .node .markupText none ⟨59, 60⟩ [],
    .node .container none ⟨60, 74⟩ [
      .node .token none ⟨60, 61⟩ [],
      Rewrite.callTree ⟨61, 73⟩ ⟨61, 62⟩ ⟨62, 73⟩ ⟨62, 63⟩ ⟨63, 72⟩ ⟨72, 73⟩ [],
      .node .token none ⟨73, 74⟩ []],
    .node .markupText none ⟨74, 75⟩ [],
    .node .container none ⟨75, 85⟩ [
      .node .token none ⟨75, 76⟩ [],
      Rewrite.callTree ⟨76, 84⟩ ⟨76, 77⟩ ⟨77, 84⟩ ⟨77, 78⟩ ⟨78, 83⟩ ⟨83, 84⟩ [],
      .node .token none ⟨84, 85⟩ []],
    .node .closeTag (some .closeTag) ⟨85, 89⟩ [
      .node .token none ⟨85, 87⟩ [],
      .node .identifier (some .name) ⟨87, 88⟩ [],
      .node .token none ⟨88, 89⟩ []]]]]

/-- A parser that knows these two files. -/
def greetingParser : Parser := fun _ source =>
  .ok (if source.chars = greetingSource.chars then greeting else greetingAgain)

/-- What a pass makes of the file. -/
def greetingRewrite : Rewrite :=
  ⟨plainOptions, greetingSource, greetingNew, [(⟨20, 25⟩, "A_hello"), (⟨9, 18⟩, "A_save_it")]⟩

namespace Rewrite

variable {w : Rewrite} {k : Kind} {r : Option Role} {s s' : Span} {cs cs' : List Tree}

/-- One piece of blank text is a blank run. -/
theorem Blank.single (hinside : s.stop ≤ w.new.bytes.length)
    (hblank : ∀ b ∈ w.new.slice s.start s.stop, isBlankByte b = true) :
    w.Blank [.node .markupText none s []] where
  leaf := List.forall_mem_singleton.2 ⟨s, rfl⟩
  inside := List.forall_mem_singleton.2 hinside
  blank := by
    rintro span ⟨⟩
    exact hblank

/-- Children that are all kept are read back so. -/
theorem Beside.of_kept (hkind : k ≠ .element) (h : List.Forall₂ w.Kept cs cs') :
    w.Beside w.Again k cs cs' := by
  induction h with
  | nil => exact .nil
  | cons hc _ ih => exact .child hc.1 hc.2 (fun hk => absurd hk hkind) ih

/-- A node of which only the place changes is kept when its children are. -/
theorem Kept.node (hkind : k ≠ .element) (hbytes : w.Untouched s → w.SameBytes s s')
    (hliteral : isLiteral (.node k r s cs) = true → w.Untouched s)
    (h : List.Forall₂ w.Kept cs cs') : w.Kept (.node k r s cs) (.node k r s' cs') :=
  ⟨.node hkind hbytes (.of_kept hkind h), hliteral⟩

end Rewrite

/-- Where the nodes that are kept were, and where they are. -/
def greetingSpans : List (Span × Span) :=
  [(⟨0, 1⟩, ⟨33, 34⟩), (⟨1, 2⟩, ⟨34, 35⟩), (⟨3, 8⟩, ⟨36, 41⟩), (⟨8, 9⟩, ⟨41, 42⟩),
    (⟨18, 19⟩, ⟨58, 59⟩), (⟨26, 36⟩, ⟨75, 85⟩), (⟨26, 27⟩, ⟨75, 76⟩), (⟨27, 35⟩, ⟨76, 84⟩),
    (⟨27, 28⟩, ⟨76, 77⟩), (⟨28, 35⟩, ⟨77, 84⟩), (⟨28, 29⟩, ⟨77, 78⟩), (⟨29, 34⟩, ⟨78, 83⟩),
    (⟨34, 35⟩, ⟨83, 84⟩), (⟨35, 36⟩, ⟨84, 85⟩), (⟨36, 40⟩, ⟨85, 89⟩), (⟨36, 38⟩, ⟨85, 87⟩),
    (⟨38, 39⟩, ⟨87, 88⟩), (⟨39, 40⟩, ⟨88, 89⟩)]

/-- The tree that the rewritten greeting is parsed to is one that the rewrite allows for. -/
theorem readBack_greeting : greetingRewrite.ReadBack true greeting greetingAgain := by
  -- One evaluation for all that is read from the new file.
  obtain ⟨hsame, hnames, hliterals, hblanks⟩ :
      (∀ p ∈ greetingSpans, greetingRewrite.SameBytes p.1 p.2) ∧
      (∀ p ∈ [(Role.name, (⟨9, 10⟩ : Span)), (.function, ⟨43, 44⟩), (.function, ⟨61, 62⟩)],
        Tree.text (.node .identifier (some p.1) p.2 []) greetingNew =
          greetingRewrite.functionName) ∧
      (∀ p ∈ [((⟨45, 56⟩ : Span), Text.ofString "A_save_it"), (⟨63, 72⟩, Text.ofString "A_hello")],
        Tree.text (.node .string none p.1 []) greetingNew = Escape.literal p.2) ∧
      ∀ s ∈ [(⟨59, 60⟩ : Span), ⟨74, 75⟩], s.stop ≤ greetingNew.bytes.length ∧
        ∀ b ∈ greetingNew.slice s.start s.stop, isBlankByte b = true := by
    decide +kernel
  have hkept : ∀ {k r s s' cs cs'}, ((s, s') ∈ greetingSpans ∧ k ≠ .element ∧
        (isLiteral (.node k r s cs) = true → greetingRewrite.Untouched s)) →
      List.Forall₂ greetingRewrite.Kept cs cs' →
      greetingRewrite.Kept (.node k r s cs) (.node k r s' cs') :=
    fun h => .node h.2.1 (fun _ => hsame _ h.1) h.2.2
  have hcalls : ((⟨20, 25⟩ : Span), ("A_hello" : Text)) ∈ greetingRewrite.calls ∧
      ((⟨9, 18⟩ : Span), ("A_save_it" : Text)) ∈ greetingRewrite.calls := by decide
  change greetingRewrite.ReadBack true (.node .program none _ ([] ++ [_]))
    (.node .program none _ ([] ++ _ :: [_]))
  refine .added .nil (.importing (hnames (.name, ⟨9, 10⟩) (by decide)) nofun)
    (.of_kept (by decide) (.cons
      (.node (by decide) (by decide +kernel) (by decide) (.cons ⟨?_, by decide⟩ .nil)) .nil))
  change greetingRewrite.Again (.node .element none _ (_ :: ([_, _] ++ [_])))
    (.node .element none _ (_ :: ([_, _, _, _] ++ [_])))
  refine .element ?_ ⟨rfl, rfl⟩ ?_ ?_ ⟨rfl, rfl⟩
  · refine .node (by decide) (by decide +kernel) (.of_kept (by decide) ?_)
    refine .cons (hkept (by decide) .nil) (.cons (hkept (by decide) .nil)
      (.cons ⟨?_, by decide⟩ (.cons (hkept (by decide) .nil) .nil)))
    change greetingRewrite.Again (.node .markupAttribute none _ ([_, _] ++ [_]))
      (.node .markupAttribute none _ ([_, _] ++ [_]))
    refine .value (Nat.le_refl 2) rfl hcalls.2
      (.container (.call (hnames (.function, ⟨43, 44⟩) (by decide))
        (hliterals (⟨45, 56⟩, "A_save_it") (by decide)) nofun)) (.of_kept (by decide) ?_)
    exact .cons (hkept (by decide) .nil) (.cons (hkept (by decide) .nil) .nil)
  · change greetingRewrite.Beside greetingRewrite.Again .element ([_] ++ [_])
      ([_] ++ _ :: ([_] ++ [_]))
    refine .replacedRun (by decide) (by decide +kernel) hcalls.1 ?_
      (.container (.call (hnames (.function, ⟨61, 62⟩) (by decide))
        (hliterals (⟨63, 72⟩, "A_hello") (by decide)) nofun)) ?_ (by rintro t ⟨⟩; rfl)
      (.child ?_ (by decide) (fun _ => ⟨rfl, rfl⟩) .nil)
    · exact .single (hblanks ⟨59, 60⟩ (by decide)).1 (hblanks ⟨59, 60⟩ (by decide)).2
    · exact .single (hblanks ⟨74, 75⟩ (by decide)).1 (hblanks ⟨74, 75⟩ (by decide)).2
    · refine (hkept (by decide) ?_).1
      refine .cons (hkept (by decide) .nil) (.cons (hkept (by decide) ?_)
        (.cons (hkept (by decide) .nil) .nil))
      refine .cons (hkept (by decide) .nil) (.cons (hkept (by decide) ?_) .nil)
      exact .cons (hkept (by decide) .nil) (.cons (hkept (by decide) .nil)
        (.cons (hkept (by decide) .nil) .nil))
  · refine (hkept (by decide) ?_).1
    exact .cons (hkept (by decide) .nil) (.cons (hkept (by decide) .nil)
      (.cons (hkept (by decide) .nil) .nil))

/-- The tree of the greeting is one the grammar builds. -/
theorem grammatical_greeting : ∀ v ∈ greeting.visits, Grammatical v := by
  have houtside : ∀ v ∈ greeting.visits, v.inError = false →
      v.tree.kind = .element ∨ v.tree.kind = .markupAttribute ∨ v.tree.kind = .string →
      ∀ a ∈ v.ancestors, isLiteral a = false := by
    decide +kernel
  have hruns : ∀ v ∈ greeting.visits, v.tree.kind = .element →
      ∀ run ∈ textRuns v.tree, run <:+: v.tree.children := by
    simp [visits, greeting, Rewrite.callTree, visitsUnder, visitsBeside, Tree.kind, Tree.children,
      Tree.role, textRuns, elementContent, textRunsOf, isMarkupText]
    exact ⟨[_], [_, _], rfl⟩
  exact fun v hv => ⟨houtside v hv, fun _ => hruns v hv⟩

/-- The edits of the file, the last place first. -/
def greetingEdits : List Edit :=
  [⟨20, 25, "\x7bt('A_hello')\x7d"⟩, ⟨9, 18, "\x7bt('A_save_it')\x7d"⟩,
    ⟨0, 0, "import \x7b t \x7d from 'lokal-react';\n"⟩]

/-- The pass over the greeting records edits that need an import. -/
theorem record_greeting :
    ∃ pass, record plainOptions greetingSource "A.tsx" greeting = .ok pass ∧
    pass.edits.isEmpty = false ∧ pass.calls = greetingRewrite.calls ∧
    declares greetingSource "t" greeting pass.edits = false ∧
    fileEdits plainOptions greetingSource greeting true pass.edits = greetingEdits := by
  have hrecord : ((record plainOptions greetingSource "A.tsx" greeting).toOption.map fun pass =>
      (pass.edits.isEmpty, pass.calls, declares greetingSource "t" greeting pass.edits,
        fileEdits plainOptions greetingSource greeting true pass.edits)) =
      some (false, greetingRewrite.calls, false, greetingEdits) := by
    decide +kernel
  obtain ⟨pass, hpass, hall⟩ := Option.map_eq_some_iff.1 hrecord
  simp only [Prod.mk.injEq] at hall
  exact ⟨pass, eq_ok_of_toOption hpass, hall⟩

/-- The greeting's edits give the new source. -/
theorem edited_greeting :
    edited greetingSource greetingEdits = .ok greetingNew.chars :=
  edited_of_ordered (List.mergeSort_of_pairwise (by decide)) (by decide +kernel)

/-- This file was wrapped and can be read back, and an import was put in. -/
theorem reopened_greeting : ∃ pass,
    Reopened plainOptions greetingParser "A.tsx" greetingSource greetingNew greeting greetingAgain
      pass ∧
    pass.calls = greetingRewrite.calls ∧
    (wrapContent plainOptions greetingParser "A.tsx" greetingSource).importAdded = true := by
  obtain ⟨pass, hpass, hne, hcalls, hdeclares, hedits⟩ := record_greeting
  have hparse : greetingParser "A.tsx" greetingSource = .ok greeting := rfl
  have hwrap : wrapContent plainOptions greetingParser "A.tsx" greetingSource =
      { WrapResult.unchanged "A.tsx" with
        wrapped := pass.wrapped, newSource := some greetingNew.chars,
        importAdded := true } := by
    have htree := wrapTree_eq hpass
    rw [hne, if_neg Bool.false_ne_true] at htree
    rw [show plainOptions.markers.functionName = "t" from rfl, hdeclares, Bool.not_false, hedits,
      edited_greeting] at htree
    simp only [wrapContent, hparse, htree]
    rfl
  have hrewrite : pass.rewrite plainOptions greetingSource greetingNew = greetingRewrite := by
    rw [Pass.rewrite, hcalls]
    rfl
  refine ⟨pass, ⟨hparse, by decide +kernel, grammatical_greeting, by decide +kernel,
    by decide +kernel, hpass, ?_, ?_, ?_⟩, hcalls, ?_⟩
  · rw [hwrap]
  · have hother : greetingNew.chars ≠ greetingSource.chars := by decide +kernel
    simp only [greetingParser, if_neg hother]
  · rw [hrewrite, hwrap]
    exact readBack_greeting
  · rw [hwrap]

/-- After the text and the attribute were replaced, and an import was put in front, nothing more is
done to the file. -/
theorem wrapContent_again_greeting :
    wrapContent plainOptions greetingParser "A.tsx" greetingNew = .unchanged "A.tsx" ∧
      ∀ edits, declares greetingNew "t" greetingAgain edits = true := by
  obtain ⟨pass, hreopened, -, hadded⟩ := reopened_greeting
  obtain ⟨-, -, -, hunchanged, hdeclares⟩ := wrapContent_again hreopened
  exact ⟨hunchanged (by decide), hdeclares hadded⟩

end Localization.Extraction
