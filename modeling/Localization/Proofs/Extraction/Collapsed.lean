import Localization.Proofs.Extraction.Marked
import Localization.Proofs.Extraction.ReadAlike
import Localization.Proofs.Text.Words

/-!
# What is left of a text between tags

A run of text is reported with its references resolved and its words joined by single spaces. Words
are parted by every blank, and there are blanks beyond those of ASCII: a no-break space is one, in
the file itself or as a reference. So the report has all characters of the run that are not blank,
in their order, and loses every blank that is not one of ASCII (`reported_dense_iff`).
-/

namespace Localization.Extraction

open Syntax Syntax.Tree

/-! ## Reports -/

section
variable {o : WrapOptions} {source : Source} {file : Text} {root : Tree} {pass : Pass}

/-- The places that a pass reports are those of all that is asked for. -/
theorem locations_of_record (hplaced : ∀ v ∈ root.visits, Placed source v)
    (hgram : ∀ v ∈ root.visits, Grammatical v) (h : record o source file root = .ok pass) :
    pass.wrapped.map (·.location) =
      (root.visits.flatMap (asked o source)).map (·.location source) := by
  have hreports : pass.wrapped.map (·.location) =
      (pass.edits.map Edit.span).map fun s => source.location s.start := by
    rw [List.map_map, ← List.forall₂_eq_eq_eq, List.forall₂_map_left_iff,
      List.forall₂_map_right_iff]
    exact (record_extends h).1.flip.imp fun _ _ hreport => hreport.location
  rw [hreports, edits_of_record hplaced hgram h, List.map_map]
  rfl

/-- There is one report on what is asked for: every report on its place has its text. -/
theorem text_of_location (hplaced : ∀ v ∈ root.visits, Placed source v)
    (hgram : ∀ v ∈ root.visits, Grammatical v) (h : record o source file root = .ok pass)
    {v : Visit} (hv : v ∈ root.visits) {r : Replacement} (hr : r ∈ asked o source v)
    {w : Wrapped} (hw : w ∈ pass.wrapped) (hlocation : w.location = r.location source) :
    w.text = r.text := by
  have hnodup : (pass.wrapped.map (·.location)).Nodup := by
    rw [locations_of_record hplaced hgram h]
    exact nodup_locations hplaced hgram
  obtain ⟨w', hw', htext, hlocation'⟩ := exists_wrapped_of_asked hplaced hgram h hv hr
  obtain rfl := List.inj_on_of_nodup_map hnodup hw hw' (hlocation.trans hlocation'.symm)
  exact htext

end

/-! ## The characters of a run -/

/-- These are the characters from the start of a run of text to its end. -/
def RunHolds (source : Source) (run : List Tree) (cs : List Char) : Prop :=
  (runSpan? run).map (fun s => source.slice s.start s.stop) = some (Utf8.encodeChars cs)

/-- A run holds at most one text. -/
theorem RunHolds.unique {source : Source} {run : List Tree} {cs cs' : List Char}
    (h : RunHolds source run cs) (h' : RunHolds source run cs') : cs = cs' := by
  have hbytes := congrArg Utf8.decode (Option.some.inj (h.symm.trans h'))
  rw [Utf8.decode, Utf8.decode, Utf8.decodeFrom_encodeChars, Utf8.decodeFrom_encodeChars] at hbytes
  exact Except.ok.inj hbytes

section
variable {o : WrapOptions} {parser : Parser} {file text : Text} {source : Source} {root : Tree}
  {v : Visit} {s : Span}

/-- A run starts and ends at boundaries. -/
theorem boundaries_of_run (hplaced : ∀ v ∈ root.visits, Placed source v) (hv : v ∈ root.visits)
    {run : List Tree} (hrun : run ∈ textRuns v.tree) (hspan : runSpan? run = some s) :
    source.IsBoundary s.start ∧ source.IsBoundary s.stop := by
  have hchild : ∀ t ∈ run, Placed source ⟨t, v.tree :: v.ancestors⟩ := by
    intro t ht
    have hmem : t ∈ (textRuns v.tree).flatten := List.mem_flatten_of_mem hrun ht
    rw [textRuns, flatten_textRunsOf] at hmem
    have hchild : t ∈ v.tree.children := List.mem_of_mem_filter (List.mem_of_mem_filter hmem)
    exact hplaced _ (child_mem_visitsUnder hv hchild)
  unfold runSpan? at hspan
  split at hspan
  next first last hfirst hlast =>
    cases hspan
    exact ⟨(hchild first (List.mem_of_head? hfirst)).boundary.1,
      (hchild last (List.mem_of_getLast? hlast)).boundary.2⟩
  next => cases hspan

/-- A run of blanks is not asked for. -/
theorem exists_not_blank {run : List Tree} {whole : Span} {cs : List Char}
    (hwhole : runSpan? run = some whole) (hin : whole.stop ≤ source.bytes.length)
    (hbytes : source.slice whole.start whole.stop = Utf8.encodeChars cs)
    (hspan : trimmedSpan? source run = some s) : ∃ c ∈ cs, isBlankChar c = false := by
  by_contra hall
  push Not at hall
  have hblank : cs.takeWhile isBlankChar = cs :=
    List.takeWhile_eq_self_iff.2 fun c hc => by simpa using hall c hc
  have hlength : (Utf8.encodeChars cs).length = whole.stop - whole.start := by
    rw [← hbytes, Source.slice, List.length_drop, List.length_take, Nat.min_eq_left hin]
  rw [trimmedSpan?, hwhole, Option.bind_some] at hspan
  dsimp only at hspan
  rw [hbytes, (takeWhile_encodeChars cs).1, hblank, if_pos (by omega)] at hspan
  cases hspan

/-- A run that is asked for shows what its characters show. -/
theorem exists_runHolds (hplaced : ∀ v ∈ root.visits, Placed source v) (hv : v ∈ root.visits)
    (hasks : Asks o source v ⟨.text, text, s⟩) :
    ∃ run ∈ textRuns v.tree, trimmedSpan? source run = some s ∧
      ∃ cs, RunHolds source run cs ∧ text = shownChars cs := by
  obtain @⟨run, _, -, -, -, -, hrun, hspan, -⟩ := hasks
  obtain ⟨whole, hwhole, -⟩ := Option.bind_eq_some_iff.1 hspan
  obtain ⟨hstart, hstop⟩ := boundaries_of_run hplaced hv hrun hwhole
  obtain ⟨cs, hbytes⟩ := Source.exists_slice hstart hstop
  have hsome := exists_not_blank hwhole hstop.le hbytes hspan
  obtain ⟨trimmed, htrimmed, hshown⟩ := trimmedSpan?_of_bytes hwhole hstop.le hbytes hsome
  cases htrimmed.symm.trans hspan
  exact ⟨run, hrun, hspan, cs, by rw [RunHolds, hwhole, Option.map_some, hbytes], hshown⟩

/-- **What is left of a run of text.** For every run of text between tags that is asked for in a
file that is wrapped without errors, there is a report on its place, and every report on this place
tells the same. Apart from blanks of ASCII, its text has the characters of the run, references resolved,
that are not blank, in their order. So it has all of the run but blanks of ASCII exactly if the run
has no other blanks. -/
theorem reported_dense_iff (hparse : parser file source = .ok root)
    (herrors : (wrapContent o parser file source).errors = [])
    (hplaced : ∀ v ∈ root.visits, Placed source v) (hgram : ∀ v ∈ root.visits, Grammatical v)
    (hv : v ∈ root.visits) (hasks : Asks o source v ⟨.text, text, s⟩) :
    ∃ run ∈ textRuns v.tree, ∃ cs, trimmedSpan? source run = some s ∧ RunHolds source run cs ∧
      (∃ w ∈ (wrapContent o parser file source).wrapped, w.location = source.location s.start) ∧
      ∀ w ∈ (wrapContent o parser file source).wrapped, w.location = source.location s.start →
        (w.text.dense = (Reference.decode (Text.ofChars cs)).filter fun c => !c.isBlank) ∧
        (w.text.dense = (Reference.decode (Text.ofChars cs)).dense ↔
          ∀ c ∈ Reference.decode (Text.ofChars cs), c.isBlank = true → c.isAsciiBlank = true) := by
  obtain ⟨run, hrun, hspan, cs, hholds, htext⟩ := exists_runHolds hplaced hv hasks
  obtain ⟨pass, hpass, hwrapped⟩ := wrapped_of_errors_nil hparse herrors
  rw [hwrapped]
  refine ⟨run, hrun, cs, hspan, hholds, ?_, fun w hw hlocation => ?_⟩
  · obtain ⟨w, hw, -, hlocation⟩ := exists_wrapped_of_asked hplaced hgram hpass hv hasks.mem
    exact ⟨w, hw, hlocation⟩
  · have hshown : w.text = Text.join " " (Reference.decode (Text.ofChars cs)).words :=
      (text_of_location hplaced hgram hpass hv hasks.mem hw hlocation).trans htext
    rw [hshown]
    exact ⟨Text.dense_join_words _, Text.dense_join_words_iff⟩

end

/-! ## A no-break space -/

/-- A text with a reference to a no-break space. -/
def pageChars : List Char := "Page&#160;two".toList

/-- The file with this text in an element. -/
def pageSource : Source := .ofChars ("<p>".toList ++ pageChars ++ "</p>".toList)

/-- The element of the file. -/
def pageElement : Tree :=
  .node .element none ⟨0, 20⟩ [
    .node .openTag (some .openTag) ⟨0, 3⟩ [
      .node .token none ⟨0, 1⟩ [],
      .node .identifier (some .name) ⟨1, 2⟩ [],
      .node .token none ⟨2, 3⟩ []],
    .node .markupText none ⟨3, 7⟩ [],
    .node .characterReference none ⟨7, 13⟩ [],
    .node .markupText none ⟨13, 16⟩ [],
    .node .closeTag (some .closeTag) ⟨16, 20⟩ [
      .node .token none ⟨16, 18⟩ [],
      .node .identifier (some .name) ⟨18, 19⟩ [],
      .node .token none ⟨19, 20⟩ []]]

/-- The statement of the file. -/
def pageStatement : Tree := .node .expressionStatement none ⟨0, 20⟩ [pageElement]

/-- The tree of the file. -/
def pageTree : Tree := .node .program none ⟨0, 20⟩ [pageStatement]

/-- The visit to the element. -/
def pageVisit : Visit := ⟨pageElement, [pageStatement, pageTree]⟩

/-- The parser that gives this tree. -/
def pageParser : Parser := fun _ _ => .ok pageTree

/-- The walk over the page comes to its element. -/
theorem pageVisit_mem : pageVisit ∈ pageTree.visits :=
  child_mem_visitsUnder (child_mem_visitsUnder (self_mem_visitsUnder [] pageTree)
    (List.mem_singleton_self pageStatement)) (List.mem_singleton_self pageElement)

/-- The tree of the page is one the grammar builds. -/
theorem grammatical_page : ∀ v ∈ pageTree.visits, Grammatical v := by
  have houtside : ∀ v ∈ pageTree.visits, v.inError = false →
      v.tree.kind = .element ∨ v.tree.kind = .markupAttribute ∨ v.tree.kind = .string →
      ∀ a ∈ v.ancestors, isLiteral a = false := by
    decide
  have hruns : ∀ v ∈ pageTree.visits, v.tree.kind = .element →
      ∀ run ∈ textRuns v.tree, run <:+: v.tree.children := by
    simp [visits, pageTree, pageStatement, pageElement, visitsUnder, visitsBeside, Tree.kind,
      Tree.children, Tree.role, textRuns, elementContent, textRunsOf, isMarkupText]
    exact ⟨[_], [_], rfl⟩
  exact fun v hv => ⟨houtside v hv, fun _ => hruns v hv⟩

/-- The text of the element is asked for. -/
theorem asks_page : Asks plainOptions pageSource pageVisit
    ⟨.text, shownText pageSource ⟨3, 16⟩, ⟨3, 16⟩⟩ :=
  .text rfl (by decide +kernel) (by decide) (by decide)
    (List.mem_singleton_self (elementContent pageElement)) (by decide) (by decide +kernel)

/-- It is reported with a space in place of the no-break space. -/
theorem wrapContent_page :
    (wrapContent plainOptions pageParser "a.tsx" pageSource).errors = [] ∧
    (wrapContent plainOptions pageParser "a.tsx" pageSource).wrapped.map
      (fun w => (w.text, w.location)) =
        [(Text.ofString "Page two", pageSource.location 3)] := by
  have hrecord : ((record plainOptions pageSource "a.tsx" pageTree).toOption.map
      fun pass =>
        (fileEdits plainOptions pageSource pageTree
          (!declares pageSource plainOptions.markers.functionName pageTree pass.edits)
          pass.edits,
        pass.wrapped.map fun w => (w.text, w.location))) =
      some ([⟨3, 16, "\x7bt('a_page_two')\x7d"⟩,
          importEdit pageSource "t" "lokal-react" pageTree],
        [(Text.ofString "Page two", pageSource.location 3)]) := by
    decide +kernel
  obtain ⟨pass, hpass, hparts⟩ := Option.map_eq_some_iff.1 hrecord
  obtain ⟨hedits, htexts⟩ := Prod.mk.inj hparts
  have hparse : pageParser "a.tsx" pageSource = .ok pageTree := rfl
  obtain ⟨herrors, hwrapped⟩ := wrapContent_of_ordered hparse (eq_ok_of_toOption hpass) hedits
    (by decide) (by decide +kernel)
  exact ⟨herrors, by rw [hwrapped, htexts]⟩

/-- The element's content holds the characters of the page. -/
theorem runHolds_page : RunHolds pageSource (elementContent pageElement) pageChars := rfl

/-- The characters of the text have a blank that is not one of ASCII, and the report loses it. -/
theorem reported_dense_iff_page : ∃ w ∈ (wrapContent plainOptions pageParser "a.tsx"
    pageSource).wrapped, w.location = pageSource.location 3 ∧
      w.text.dense = Text.ofString "Pagetwo" ∧
      w.text.dense ≠ (Reference.decode (Text.ofChars pageChars)).dense := by
  obtain ⟨run, hrun, cs, -, hholds, ⟨w, hw, hlocation⟩, hall⟩ :=
    reported_dense_iff rfl wrapContent_page.1 (by decide) grammatical_page pageVisit_mem
      asks_page
  obtain rfl : run = elementContent pageElement := List.mem_singleton.1 hrun
  obtain rfl := hholds.unique runHolds_page
  obtain ⟨hkept, hiff⟩ := hall w hw hlocation
  refine ⟨w, hw, hlocation, hkept.trans (by decide), fun hsame => ?_⟩
  exact absurd (hiff.1 hsame) (by decide)

/-- Reports do not have all of a text but blanks of ASCII. -/
theorem reported_not_dense : ¬ ∀ (o : WrapOptions) (parser : Parser) (file text : Text)
    (source : Source) (root : Tree) (v : Visit) (s : Span) (run : List Tree) (cs : List Char)
    (w : Wrapped),
      parser file source = .ok root → (wrapContent o parser file source).errors = [] →
      (∀ v ∈ root.visits, Placed source v) → (∀ v ∈ root.visits, Grammatical v) →
      v ∈ root.visits → Asks o source v ⟨.text, text, s⟩ →
      run ∈ textRuns v.tree → trimmedSpan? source run = some s → RunHolds source run cs →
      w ∈ (wrapContent o parser file source).wrapped → w.location = source.location s.start →
      w.text.dense = (Reference.decode (Text.ofChars cs)).dense := by
  intro hall
  obtain ⟨herrors, hwrapped⟩ := wrapContent_page
  obtain ⟨w, hw⟩ := List.length_eq_one_iff.1 (by simpa using congrArg List.length hwrapped)
  rw [hw, List.map_singleton, List.singleton_inj, Prod.mk.injEq] at hwrapped
  have hsame := hall plainOptions pageParser "a.tsx" _ pageSource pageTree pageVisit _ _ pageChars w
    rfl herrors (by decide) grammatical_page pageVisit_mem asks_page
    (List.mem_singleton_self (elementContent pageElement)) (by decide) runHolds_page
    (by simp [hw]) hwrapped.2
  rw [hwrapped.1] at hsame
  exact absurd hsame (by decide)

end Localization.Extraction
