import Localization.Proofs.Extraction.FolderScan
import Localization.Proofs.Extraction.Marked
import Localization.Proofs.Reference.Decode
import Localization.Proofs.Text.Words

/-!
# One text, scanned and wrapped

Text between tags is read twice: a scan reads the text of the translation component, and wrapping
reads the text of other elements. The scan resolves references and strips what comes out. Wrapping
trims the bytes first, resolves references then, and joins the words with single spaces. Trimming
first makes no difference, as blank bytes are whole characters (`trimmedSpan?_of_bytes`) and white
space is no part of a reference. So both read the same words, and they read the same text exactly if
there are single spaces between these words (`scanned_eq_wrapped_iff`).
-/

namespace Localization.Extraction

open Syntax Syntax.Tree

/-! ## Blank bytes and blank characters -/

/-- Whether a character is one of the blanks of ASCII. -/
def isBlankChar (c : Char) : Bool := (CodePoint.scalar c).isAsciiBlank

/-- The blank characters are the space and the five controls from the tab on. -/
theorem isBlankChar_iff {c : Char} : isBlankChar c = true ↔
    c.toNat = 0x20 ∨ 0x09 ≤ c.toNat ∧ c.toNat ≤ 0x0D := by
  change (c.toNat == 0x20 || (0x09 ≤ c.toNat && c.toNat ≤ 0x0D)) = true ↔ _
  rw [Bool.or_eq_true, Bool.and_eq_true, beq_iff_eq, decide_eq_true_iff, decide_eq_true_iff]

/-- The blank bytes are those of the blank characters. -/
theorem isBlankByte_eq (b : UInt8) :
    isBlankByte b = (b.toNat == 0x20 || (0x09 ≤ b.toNat && b.toNat ≤ 0x0D)) := by
  rw [Bool.eq_iff_iff]
  simp [isBlankByte, ← UInt8.toNat_inj, UInt8.le_iff_toNat_le]

/-- A byte of a character is blank exactly if the character is. -/
theorem isBlankByte_of_mem {c : Char} {b : UInt8} (hb : b ∈ String.utf8EncodeChar c) :
    isBlankByte b = isBlankChar c := by
  by_cases hascii : c.toNat ≤ 127
  · have hform : String.utf8EncodeChar c = [UInt8.ofNat c.toNat] := if_pos hascii
    have hnat : b.toNat = c.toNat := by
      rw [hform] at hb
      rw [List.mem_singleton.1 hb, UInt8.toNat_ofNat']
      omega
    rw [isBlankByte_eq, hnat]
    rfl
  · have hblank : isBlankChar c ≠ true := by
      intro h
      have hlow := isBlankChar_iff.1 h
      omega
    rw [Bool.eq_false_iff.2 hblank, Bool.eq_false_iff]
    intro hbyte
    have hone := Utf8.utf8EncodeChar_of_ascii hb (isBlankByte_ascii b hbyte)
    have hsize := String.length_utf8EncodeChar c
    rw [hone] at hsize
    exact hascii (Char.utf8Size_eq_one_iff.1 hsize.symm)

/-- If the pieces of a list are wanted or not as a whole, whole pieces are taken from its start. -/
theorem takeWhile_flatMap {α β : Type} {f : α → List β} {p : β → Bool} {q : α → Bool}
    (hne : ∀ a, f a ≠ []) (hsame : ∀ a, ∀ b ∈ f a, p b = q a) (l : List α) :
    (l.flatMap f).takeWhile p = (l.takeWhile q).flatMap f := by
  induction l with
  | nil => rfl
  | cons a l ih =>
    rw [List.flatMap_cons, List.takeWhile_cons]
    cases hq : q a with
    | true =>
      rw [List.takeWhile_append_of_pos fun b hb => (hsame a b hb).trans hq, ih, if_pos rfl,
        List.flatMap_cons]
    | false =>
      obtain ⟨b, rest, hf⟩ := List.exists_cons_of_ne_nil (hne a)
      have hb : p b = false := (hsame a b (by simp [hf])).trans hq
      simp [hf, hb]

/-- What is blank at the start of the form of some characters, and what is blank at its end. -/
theorem takeWhile_encodeChars (cs : List Char) :
    (Utf8.encodeChars cs).takeWhile isBlankByte =
      Utf8.encodeChars (cs.takeWhile isBlankChar) ∧
    (Utf8.encodeChars cs).reverse.takeWhile isBlankByte =
      (Utf8.encodeChars
        (cs.reverse.takeWhile isBlankChar).reverse).reverse := by
  refine ⟨takeWhile_flatMap (by simp) (fun c b hb => isBlankByte_of_mem hb) cs, ?_⟩
  rw [Utf8.encodeChars, Utf8.encodeChars, List.reverse_flatMap, List.reverse_flatMap,
    List.reverse_reverse]
  exact takeWhile_flatMap (by simp) (fun c b hb => isBlankByte_of_mem (List.mem_reverse.1 hb)) _

/-- A list that is not wanted all through is what is wanted at its start, something else, and what
is wanted at its end. -/
theorem exists_middle {α : Type} {p : α → Bool} {l : List α} (h : ∃ a ∈ l, p a = false) :
    ∃ middle, middle ≠ [] ∧
      l = l.takeWhile p ++ middle ++ (l.reverse.takeWhile p).reverse := by
  obtain ⟨a, ha, hp⟩ := h
  generalize hrest : l.dropWhile p = rest
  have hsplit : l = l.takeWhile p ++ rest := by rw [← hrest, List.takeWhile_append_dropWhile]
  have hmem : a ∈ rest := by
    rw [hsplit, List.mem_append] at ha
    refine ha.resolve_left fun ha => ?_
    rw [List.mem_takeWhile_imp ha] at hp
    cases hp
  have hlast : l.reverse.takeWhile p = rest.reverse.takeWhile p := by
    conv_lhs => rw [hsplit]
    rw [List.reverse_append, List.takeWhile_append, if_neg]
    intro hlength
    have hall := (List.takeWhile_prefix (p := p) (l := rest.reverse)).eq_of_length hlength
    have hpa := List.mem_takeWhile_imp (hall.symm ▸ List.mem_reverse.2 hmem)
    rw [hp] at hpa
    cases hpa
  refine ⟨(rest.reverse.dropWhile p).reverse, ?_, ?_⟩
  · rw [ne_eq, List.reverse_eq_nil_iff, List.dropWhile_eq_nil_iff]
    intro hall
    rw [hall a (List.mem_reverse.2 hmem)] at hp
    cases hp
  · conv_lhs => rw [hsplit]
    rw [hlast, List.append_assoc, ← List.reverse_append, List.takeWhile_append_dropWhile,
      List.reverse_reverse]

/-! ## The text of an element -/

/-- An element holds nothing but a run of text, and these are the characters of the run. -/
structure HoldsOnly (source : Source) (t : Tree) (cs : List Char) : Prop where
  kind : t.kind = .element
  texts : ∀ c ∈ elementContent t, isMarkupText c = true
  bytes : (runSpan? (elementContent t)).map (fun s => source.slice s.start s.stop) =
    some (Utf8.encodeChars cs)

/-- What characters between tags show: references resolved, words with single spaces between. -/
def shownChars (cs : List Char) : Text :=
  Text.join " " (Reference.decode (Text.ofChars cs)).words

/-- Blank ASCII characters are low, and blank. -/
theorem low_of_isBlankChar {cs : List Char} (h : ∀ c ∈ cs, isBlankChar c = true) :
    Reference.Low (Text.ofChars cs) ∧ ∀ c ∈ Text.ofChars cs, c.isBlank = true := by
  have hpoint : ∀ c ∈ Text.ofChars cs, c.toNat = 0x20 ∨ 0x09 ≤ c.toNat ∧ c.toNat ≤ 0x0D := by
    intro c hc
    obtain ⟨d, hd, rfl⟩ := List.mem_map.1 hc
    exact isBlankChar_iff.1 (h d hd)
  have hranges : ∀ n ≤ 0x20, n = 0x20 ∨ 0x09 ≤ n ∧ n ≤ 0x0D →
      Text.inRanges blankRanges n = true := by
    decide
  have hlow : Reference.Low (Text.ofChars cs) := fun c hc => by
    have hc := hpoint c hc
    omega
  exact ⟨hlow, fun c hc => hranges c.toNat (hlow c hc) (hpoint c hc)⟩

/-- White space at the ends of some characters changes nothing of what they show. -/
theorem shownChars_between {front middle back : List Char}
    (hfront : ∀ c ∈ front, isBlankChar c = true)
    (hback : ∀ c ∈ back, isBlankChar c = true) :
    shownChars (front ++ middle ++ back) = shownChars middle := by
  obtain ⟨hlow, hblank⟩ := low_of_isBlankChar hfront
  obtain ⟨hlow', hblank'⟩ := low_of_isBlankChar hback
  have hchars : Text.ofChars (front ++ middle ++ back) =
      Text.ofChars front ++ Text.ofChars middle ++ Text.ofChars back := by
    simp [Text.ofChars]
  rw [shownChars, hchars, Reference.decode_between hlow hlow']
  exact congrArg _ (Text.wordsBy_between hblank hblank')

section
variable {source : Source} {run : List Tree} {s : Span} {cs : List Char}

/-- A run whose characters are not all blank is trimmed to those between the blank ones. -/
theorem trimmedSpan?_of_bytes (hspan : runSpan? run = some s)
    (hin : s.stop ≤ source.bytes.length)
    (hbytes : source.slice s.start s.stop = Utf8.encodeChars cs)
    (hsome : ∃ c ∈ cs, isBlankChar c = false) :
    ∃ trimmed, trimmedSpan? source run = some trimmed ∧
      shownText source trimmed = shownChars cs := by
  obtain ⟨middle, hne, hcs⟩ := exists_middle hsome
  obtain ⟨hlead, htail⟩ := takeWhile_encodeChars cs
  generalize hfront : (cs.takeWhile isBlankChar) = front at *
  generalize hback :
    (cs.reverse.takeWhile isBlankChar).reverse = back at *
  have hfront' : ∀ c ∈ front, isBlankChar c = true := fun c hc =>
    List.mem_takeWhile_imp (hfront ▸ hc)
  have hback' : ∀ c ∈ back, isBlankChar c = true := fun c hc =>
    List.mem_takeWhile_imp (List.mem_reverse.1 (hback ▸ hc))
  have hlength : (source.slice s.start s.stop).length = s.stop - s.start := by
    rw [Source.slice, List.length_drop, List.length_take, Nat.min_eq_left hin]
  have hform : Utf8.encodeChars cs =
      Utf8.encodeChars front ++ Utf8.encodeChars middle ++ Utf8.encodeChars back := by
    rw [hcs, Utf8.encodeChars_append, Utf8.encodeChars_append]
  have hpos : 0 < (Utf8.encodeChars middle).length := by
    obtain ⟨c, rest, rfl⟩ := List.exists_cons_of_ne_nil hne
    rw [Utf8.encodeChars, List.flatMap_cons, List.length_append]
    have := Source.length_utf8EncodeChar_pos c
    omega
  have htotal := congrArg List.length hform
  rw [← hbytes, hlength, List.length_append, List.length_append] at htotal
  refine ⟨⟨s.start + (Utf8.encodeChars front).length, s.stop - (Utf8.encodeChars back).length⟩,
    ?_, ?_⟩
  · rw [trimmedSpan?, hspan, Option.bind_some]
    dsimp only
    rw [hbytes, hlead, htail, List.length_reverse, if_neg (by omega)]
  · have hslice : source.slice (s.start + (Utf8.encodeChars front).length)
        (s.stop - (Utf8.encodeChars back).length) = Utf8.encodeChars middle := by
      have hcount : s.stop - s.start - (Utf8.encodeChars back).length =
          (Utf8.encodeChars front ++ Utf8.encodeChars middle).length := by
        rw [List.length_append]
        omega
      rw [Source.slice_trim source s.start s.stop (by omega), hbytes, hform, hcount,
        List.take_left, List.drop_left]
    rw [hcs, shownChars_between hfront' hback', shownText, Source.sliceText, hslice, Utf8.decode,
      Utf8.decodeFrom_encodeChars]
    rfl

end

/-! ## The texts that a pass reports -/

/-- A pass goes on from another one, and tells the text of every edit that it records. -/
structure Pass.Tells (source : Source) (rs : List Replacement) (p q : Pass) : Prop where
  wrapped : p.wrapped ⊆ q.wrapped
  edits : ∀ e ∈ q.edits, e ∈ p.edits ∨ ∃ r ∈ rs, e.span = r.span ∧
    ∃ w ∈ q.wrapped, w.text = r.text ∧ w.location = r.location source

section
variable {o : WrapOptions} {source : Source} {p q r : Pass} {rs rs' : List Replacement}

namespace Pass.Tells

/-- A pass that does not go on has nothing to tell. -/
theorem refl (source : Source) (rs : List Replacement) (p : Pass) : p.Tells source rs p :=
  ⟨List.Subset.refl _, fun _ he => .inl he⟩

/-- A pass that goes on twice tells what it told both times. -/
theorem trans (h : p.Tells source rs q) (h' : q.Tells source rs' r) :
    p.Tells source (rs ++ rs') r where
  wrapped := List.Subset.trans h.wrapped h'.wrapped
  edits e he := by
    rcases h'.edits e he with he | ⟨r', hr', hspan, w, hw, htold⟩
    · refine (h.edits e he).imp_right ?_
      rintro ⟨r', hr', hspan, w, hw, htold⟩
      exact ⟨r', List.mem_append_left _ hr', hspan, w, h'.wrapped hw, htold⟩
    · exact .inr ⟨r', List.mem_append_right _ hr', hspan, w, hw, htold⟩

end Pass.Tells

/-- A replacement that is taken is told, if it is made. -/
theorem take_tells {r : Replacement} (h : p.take o source r = .ok q) : p.Tells source [r] q := by
  simp only [Pass.take, Pass.replace] at h
  split at h
  next =>
    cases h
    exact .refl source [r] p
  next =>
    obtain ⟨⟨key, registry⟩, -, h⟩ := bind_eq_ok.1 h
    cases h
    refine ⟨List.subset_append_left _ _, fun e he => ?_⟩
    refine (List.mem_append.1 he).imp_right fun he => ?_
    cases List.mem_singleton.1 he
    exact ⟨r, List.mem_singleton_self r, rfl, _,
      List.mem_append_right _ (List.mem_singleton_self _), rfl, rfl⟩

/-- A visit tells of the replacements it asked for. -/
theorem wrapVisit_tells {v : Visit} (h : wrapVisit o source p v = .ok q) :
    p.Tells source (asked o source v) q := by
  rw [wrapVisit_eq] at h
  obtain ⟨rs, hrs, h⟩ := bind_eq_ok.1 h
  rw [asked_of_ok (mapError_eq_ok.1 hrs)]
  have hall := foldlM_extends (fun r => [r]) (.refl source []) .trans (fun _ _ _ => take_tells) h
  rwa [List.flatMap_singleton'] at hall

/-- A pass reports everything that is asked for, with its text and its place. -/
theorem exists_wrapped_of_asked {file : Text} {root : Tree}
    (hplaced : ∀ v ∈ root.visits, Placed source v) (hgram : ∀ v ∈ root.visits, Grammatical v)
    (h : record o source file root = .ok p) {v : Visit} (hv : v ∈ root.visits) {r : Replacement}
    (hr : r ∈ asked o source v) :
    ∃ w ∈ p.wrapped, w.text = r.text ∧ w.location = r.location source := by
  have hmem : r ∈ root.visits.flatMap (asked o source) := List.mem_flatMap.2 ⟨v, hv, hr⟩
  have hspan : r.span ∈ p.edits.map Edit.span := by
    rw [edits_of_record hplaced hgram h]
    exact List.mem_map_of_mem hmem
  obtain ⟨e, he, hspan⟩ := List.mem_map.1 hspan
  obtain ⟨registry, -, h⟩ := bind_eq_ok.1 h
  have htells := foldlM_extends (asked o source) (.refl source []) .trans
    (fun _ _ _ => wrapVisit_tells) h
  rcases htells.edits e he with he | ⟨r', hr', hspan', w, hw, htext, hlocation⟩
  · cases he
  · -- no two replacements have one place, so that the text was told for this one
    have hsame : r'.location source = r.location source := by
      rw [Replacement.location, Replacement.location, ← hspan', hspan]
    obtain rfl := List.inj_on_of_nodup_map (nodup_locations hplaced hgram) hr' hmem hsame
    exact ⟨w, hw, htext, hlocation⟩

end

/-! ## Scanned and wrapped -/

namespace HoldsOnly

variable {source : Source} {t : Tree} {cs : List Char}

/-- An element that holds only a run of text has a span with the bytes of the run. -/
theorem exists_span (h : HoldsOnly source t cs) : ∃ s, runSpan? (elementContent t) = some s ∧
    source.slice s.start s.stop = Utf8.encodeChars cs :=
  Option.map_eq_some_iff.1 h.bytes

/-- A scan reads the text of the component with references resolved and nothing blank at its
ends. -/
theorem fromElement (h : HoldsOnly source t cs) {m : Markers} (file : Text)
    (hname : elementName? source t = some m.componentName)
    (hne : (Reference.decode (Text.ofChars cs)).strip ≠ []) :
    ∃ s, fromElement m source file t = some s ∧
      s.value = (Reference.decode (Text.ofChars cs)).strip := by
  obtain ⟨span, hspan, hbytes⟩ := h.exists_span
  have hchars : textOf (source.slice span.start span.stop) = Text.ofChars cs := by
    rw [textOf, hbytes, Utf8.decode, Utf8.decodeFrom_encodeChars]
  generalize hvalue : (Reference.decode (Text.ofChars cs)).strip = value at hne ⊢
  have hfound : Extraction.fromElement m source file t = some ⟨value, value, file, source.location
      (span.start + ((source.slice span.start span.stop).takeWhile isBlankByte).length)⟩ :=
    fromElement_eq_some_iff.2 ⟨hname, List.all_eq_true.2 h.texts, span, hspan,
      by rw [hchars, hvalue], hne, rfl, rfl, rfl⟩
  exact ⟨_, hfound, rfl⟩

/-- Wrapping asks for the text of another element as its characters show it. -/
theorem asks {v : Visit} (h : HoldsOnly source v.tree cs) {o : WrapOptions} {root : Tree}
    (hplaced : ∀ v ∈ root.visits, Placed source v) (hv : v ∈ root.visits)
    (hother : elementName? source v.tree ≠ some o.markers.componentName)
    (hread : v.inError = false) (houtside : insideCall o source v = false)
    (hkept : o.filter.excludes (shownChars cs) = false) :
    ∃ span, trimmedSpan? source (elementContent v.tree) = some span ∧
      Asks o source v ⟨.text, shownChars cs, span⟩ := by
  obtain ⟨s, hspan, hbytes⟩ := h.exists_span
  have hin : s.stop ≤ source.bytes.length := by
    unfold runSpan? at hspan
    split at hspan
    next first last hfirst hlast =>
      cases hspan
      have hchild : last ∈ v.tree.children :=
        List.mem_of_mem_filter (List.mem_of_getLast? hlast)
      exact (hplaced _ (child_mem_visitsUnder hv hchild)).boundary.2.le
    next => cases hspan
  have hsome : ∃ c ∈ cs, isBlankChar c = false := by
    by_contra hall
    push Not at hall
    have hblank : ∀ c ∈ cs, isBlankChar c = true := fun c hc => by simpa using hall c hc
    -- a text that is blank all through shows nothing, and nothing is excluded
    have hnothing : shownChars cs = [] := by
      have hends : shownChars (cs ++ [] ++ []) = shownChars [] := shownChars_between hblank nofun
      rwa [List.append_nil, List.append_nil] at hends
    rw [hnothing, excludes_nil] at hkept
    cases hkept
  obtain ⟨trimmed, htrimmed, hshown⟩ := trimmedSpan?_of_bytes hspan hin hbytes hsome
  have hruns : textRuns v.tree = [elementContent v.tree] := by
    have happend : textRunsOf (elementContent v.tree ++ []) = [elementContent v.tree] :=
      Rewrite.textRunsOf_append (Rewrite.ne_nil_of_runSpan? hspan) h.texts nofun
    rwa [List.append_nil] at happend
  refine ⟨trimmed, htrimmed, ?_⟩
  rw [← hshown]
  exact .text h.kind hother hread houtside (by simp [hruns]) htrimmed (hshown ▸ hkept)

end HoldsOnly

/-- Where nothing goes wrong, what wrapping reports is what the pass recorded. -/
theorem wrapped_of_errors_nil {o : WrapOptions} {parser : Parser} {file : Text} {source : Source}
    {root : Tree} (hparse : parser file source = .ok root)
    (h : (wrapContent o parser file source).errors = []) :
    ∃ pass, record o source file root = .ok pass ∧
      (wrapContent o parser file source).wrapped = pass.wrapped := by
  unfold wrapContent at h ⊢
  simp only [hparse] at h ⊢
  cases htree : wrapTree o source file root with
  | error e =>
    rw [htree] at h
    cases h
  | ok r =>
    obtain ⟨pass, hpass, -⟩ := bind_eq_ok.1 htree
    refine ⟨pass, hpass, ?_⟩
    rw [wrapTree_eq hpass] at htree
    split at htree
    next hempty =>
      cases htree
      have hreports := (record_extends hpass).1
      rw [List.isEmpty_iff.1 hempty] at hreports
      exact (List.forall₂_nil_left_iff.1 hreports).symm
    next =>
      obtain ⟨text, -, rfl⟩ := map_eq_ok.1 htree
      rfl

/-- In a file that is scanned, a run of text is all that an element of the translation component
holds. -/
structure ScannedAlone (m : Markers) (parser : Parser) (file : Text) (source : Source)
    (cs : List Char) (v : Visit) (found : ScanResult) : Prop where
  scanned : (scanContent m parser file source).result = .ok found
  visited : ∃ root, parser file source = .ok root ∧ v ∈ root.visits
  component : elementName? source v.tree = some m.componentName
  holds : HoldsOnly source v.tree cs

/-- In a file that is wrapped, a run of text is all that another element holds, outside of any call
of the translation function, and the filter keeps what it shows. -/
structure WrappedAlone (o : WrapOptions) (parser : Parser) (file : Text) (source : Source)
    (cs : List Char) (v : Visit) : Prop where
  wrapped : (wrapContent o parser file source).errors = []
  visited : ∃ root, parser file source = .ok root ∧ (∀ v ∈ root.visits, Placed source v) ∧
    (∀ v ∈ root.visits, Grammatical v) ∧ v ∈ root.visits
  other : elementName? source v.tree ≠ some o.markers.componentName
  read : v.inError = false
  outside : insideCall o source v = false
  holds : HoldsOnly source v.tree cs
  kept : o.filter.excludes (shownChars cs) = false

/-- **When scanning and wrapping read the same text.** Let a run of text stand alone in an element
of the translation component, in a file that is scanned, and in another element, in a file that is
wrapped. Then the scan finds a text for the first element, and wrapping reports one for the second,
at the place where its text begins. The scan's text has the references resolved and nothing blank at
its ends. The text that is reported is made of the words of the scan's text, with single spaces
between. So the two are equal exactly if the scan's text has single spaces only. -/
theorem scanned_eq_wrapped_iff {o : WrapOptions} {parser : Parser} {cs : List Char}
    {file file' : Text} {source source' : Source} {found : ScanResult} {v v' : Visit}
    (h : ScannedAlone o.markers parser file source cs v found)
    (h' : WrappedAlone o parser file' source' cs v') :
    ∃ s ∈ found.strings, ∃ w ∈ (wrapContent o parser file' source').wrapped, ∃ span,
      extract o.markers source file v.tree = .ok (some s) ∧
      trimmedSpan? source' (elementContent v'.tree) = some span ∧
      w.location = source'.location span.start ∧
      s.value = (Reference.decode (Text.ofChars cs)).strip ∧
      w.text = Text.join " " s.value.words ∧
      (w.text = s.value ↔ s.value.SingleSpaced) := by
  have hsame : (Reference.decode (Text.ofChars cs)).strip.words =
      (Reference.decode (Text.ofChars cs)).words := Text.words_strip _
  have hne : (Reference.decode (Text.ofChars cs)).strip ≠ [] := by
    intro hnil
    have hnothing : shownChars cs = [] := by
      rw [shownChars, ← hsame, hnil]
      rfl
    have hkept := h'.kept
    rw [hnothing, excludes_nil] at hkept
    cases hkept
  obtain ⟨s, hs, hvalue⟩ := h.holds.fromElement file h.component hne
  have hextract : extract o.markers source file v.tree = .ok (some s) := by
    rw [extract, h.holds.kind]
    exact congrArg _ hs
  obtain ⟨root, hparse, hplaced, hgram, hv'⟩ := h'.visited
  obtain ⟨span, hspan, hasks⟩ := h'.holds.asks hplaced hv' h'.other h'.read h'.outside h'.kept
  obtain ⟨pass, hpass, hwrapped⟩ := wrapped_of_errors_nil hparse h'.wrapped
  obtain ⟨w, hw, htext, hlocation⟩ := exists_wrapped_of_asked hplaced hgram hpass hv' hasks.mem
  have hwords : w.text = Text.join " " s.value.words := by
    rw [htext, hvalue, hsame]
    rfl
  have hfound : s ∈ found.strings := by
    obtain ⟨root, hparse, hv⟩ := h.visited
    exact (mem_strings_iff h.scanned).2 ⟨root, hparse, v, hv, hextract⟩
  refine ⟨s, hfound, w, hwrapped ▸ hw, span, hextract, hspan, hlocation, hvalue, hwords, ?_⟩
  rw [hwords]
  exact Text.join_words_iff

/-! ## A text on two lines -/

/-- A file is wrapped without errors if its edits stand in the order in which they are applied and
can be applied. -/
theorem wrapContent_of_ordered {o : WrapOptions} {parser : Parser} {file : Text} {source : Source}
    {root : Tree} {pass : Pass} {edits : List Edit} (hparse : parser file source = .ok root)
    (hpass : record o source file root = .ok pass)
    (hedits : fileEdits o source root (!declares source o.markers.functionName root pass.edits)
      pass.edits = edits)
    (hordered : edits.Pairwise fun a b => Edit.goesBefore a b)
    (hchars : ((Edit.applyAll edits source.bytes).toOption.bind fun bytes =>
      (Utf8.decode bytes).toOption).isSome = true) :
    (wrapContent o parser file source).errors = [] ∧
      (wrapContent o parser file source).wrapped = pass.wrapped := by
  obtain ⟨new, hedited⟩ := exists_edited_of_ordered (List.mergeSort_of_pairwise hordered) hchars
  have herrors : (wrapContent o parser file source).errors = [] := by
    have htree := wrapTree_eq hpass
    rw [hedits, hedited] at htree
    simp only [wrapContent, hparse, htree]
    split
    next r hr =>
      split at hr <;> cases hr <;> rfl
    next e he => split at he <;> cases he
  obtain ⟨pass', hpass', hwrapped⟩ := wrapped_of_errors_nil hparse herrors
  rw [hpass] at hpass'
  cases hpass'
  exact ⟨herrors, hwrapped⟩

/-- A text with a reference, on two lines. -/
def termsChars : List Char := "Terms &#38;\n  conditions".toList

/-- The file with this text in an element, whose name has one letter. -/
def termsSource (name : Char) : Source :=
  .ofChars (['<', name, '>'] ++ termsChars ++ ['<', '/', name, '>'])

/-- The element of the file. -/
def termsElement : Tree :=
  .node .element none ⟨0, 31⟩ [
    .node .openTag (some .openTag) ⟨0, 3⟩ [
      .node .token none ⟨0, 1⟩ [],
      .node .identifier (some .name) ⟨1, 2⟩ [],
      .node .token none ⟨2, 3⟩ []],
    .node .markupText none ⟨3, 9⟩ [],
    .node .characterReference none ⟨9, 14⟩ [],
    .node .markupText none ⟨14, 27⟩ [],
    .node .closeTag (some .closeTag) ⟨27, 31⟩ [
      .node .token none ⟨27, 29⟩ [],
      .node .identifier (some .name) ⟨29, 30⟩ [],
      .node .token none ⟨30, 31⟩ []]]

/-- The statement of the file. -/
def termsStatement : Tree := .node .expressionStatement none ⟨0, 31⟩ [termsElement]

/-- The tree of the file. -/
def termsTree : Tree := .node .program none ⟨0, 31⟩ [termsStatement]

/-- The visit to the element. -/
def termsVisit : Visit := ⟨termsElement, [termsStatement, termsTree]⟩

/-- The parser that gives this tree. -/
def termsParser : Parser := fun _ _ => .ok termsTree

/-- The walk over the terms comes to their element. -/
theorem termsVisit_mem : termsVisit ∈ termsTree.visits :=
  child_mem_visitsUnder (child_mem_visitsUnder (self_mem_visitsUnder [] termsTree)
    (List.mem_singleton_self termsStatement)) (List.mem_singleton_self termsElement)

/-- Both files hold the terms and nothing else. -/
theorem holdsOnly_terms : ∀ name ∈ ['T', 'p'],
    HoldsOnly (termsSource name) termsVisit.tree termsChars := by
  have hbytes : ∀ name ∈ ['T', 'p'],
      (runSpan? (elementContent termsElement)).map (fun s =>
        (termsSource name).slice s.start s.stop) = some (Utf8.encodeChars termsChars) := by
    rw [List.forall_mem_cons, List.forall_mem_singleton]
    exact ⟨rfl, rfl⟩
  exact fun name hname => ⟨rfl, by decide, hbytes name hname⟩

/-- The tree of the terms is one the grammar builds. -/
theorem grammatical_terms : ∀ v ∈ termsTree.visits, Grammatical v := by
  have houtside : ∀ v ∈ termsTree.visits, v.inError = false →
      v.tree.kind = .element ∨ v.tree.kind = .markupAttribute ∨ v.tree.kind = .string →
      ∀ a ∈ v.ancestors, isLiteral a = false := by
    decide
  have hruns : ∀ v ∈ termsTree.visits, v.tree.kind = .element →
      ∀ run ∈ textRuns v.tree, run <:+: v.tree.children := by
    simp [visits, termsTree, termsStatement, termsElement, visitsUnder, visitsBeside, Tree.kind,
      Tree.children, Tree.role, textRuns, elementContent, textRunsOf, isMarkupText]
    exact ⟨[_], [_], rfl⟩
  exact fun v hv => ⟨houtside v hv, fun _ => hruns v hv⟩

/-- In the component the text is scanned. -/
theorem scannedAlone_terms : ∃ found,
    ScannedAlone plainOptions.markers termsParser "a.tsx" (termsSource 'T') termsChars termsVisit
      found := by
  have hscan : (scanContent plainOptions.markers termsParser "a.tsx"
      (termsSource 'T')).result.toOption.isSome = true := by
    decide +kernel
  obtain ⟨found, hfound⟩ := Option.isSome_iff_exists.1 hscan
  exact ⟨found, eq_ok_of_toOption hfound, ⟨termsTree, rfl, termsVisit_mem⟩, by decide +kernel,
    holdsOnly_terms 'T' (by simp)⟩

/-- What wrapping the other file does, edit by edit. -/
theorem wrapContent_terms :
    (wrapContent plainOptions termsParser "b.tsx" (termsSource 'p')).errors = [] ∧
    (wrapContent plainOptions termsParser "b.tsx" (termsSource 'p')).wrapped.map
      (fun w => (w.text, w.location)) =
        [(Text.ofString "Terms & conditions", (termsSource 'p').location 3)] := by
  have hrecord : ((record plainOptions (termsSource 'p') "b.tsx" termsTree).toOption.map
      fun pass =>
        (fileEdits plainOptions (termsSource 'p') termsTree
          (!declares (termsSource 'p') plainOptions.markers.functionName termsTree pass.edits)
          pass.edits,
        pass.wrapped.map fun w => (w.text, w.location))) =
      some ([⟨3, 27, "\x7bt('b_terms_conditions')\x7d"⟩,
          importEdit (termsSource 'p') "t" "lokal-react" termsTree],
        [(Text.ofString "Terms & conditions", (termsSource 'p').location 3)]) := by
    decide +kernel
  obtain ⟨pass, hpass, hparts⟩ := Option.map_eq_some_iff.1 hrecord
  obtain ⟨hedits, htexts⟩ := Prod.mk.inj hparts
  have hparse : termsParser "b.tsx" (termsSource 'p') = .ok termsTree := rfl
  obtain ⟨herrors, hwrapped⟩ := wrapContent_of_ordered hparse (eq_ok_of_toOption hpass) hedits
    (by decide +kernel) (by decide +kernel)
  exact ⟨herrors, by rw [hwrapped, htexts]⟩

/-- In another element it is wrapped. -/
theorem wrappedAlone_terms :
    WrappedAlone plainOptions termsParser "b.tsx" (termsSource 'p') termsChars termsVisit where
  wrapped := wrapContent_terms.1
  visited := ⟨termsTree, rfl, by decide +kernel, grammatical_terms, termsVisit_mem⟩
  other := by decide +kernel
  read := by decide +kernel
  outside := by decide
  holds := holdsOnly_terms 'p' (by simp)
  kept := by decide

/-- The scan keeps the line break, and wrapping reports a space in its place. -/
theorem scanned_eq_wrapped_iff_terms : ∃ found, ∃ s ∈ found.strings,
    ∃ w ∈ (wrapContent plainOptions termsParser "b.tsx" (termsSource 'p')).wrapped,
      ScannedAlone plainOptions.markers termsParser "a.tsx" (termsSource 'T') termsChars termsVisit
        found ∧
      s.value = Text.ofString "Terms &\n  conditions" ∧
      w.text = Text.ofString "Terms & conditions" ∧ ¬ s.value.SingleSpaced := by
  obtain ⟨found, h⟩ := scannedAlone_terms
  obtain ⟨s, hs, w, hw, -, -, -, -, hvalue, htext, hiff⟩ :=
    scanned_eq_wrapped_iff h wrappedAlone_terms
  have hread : (Reference.decode (Text.ofChars termsChars)).strip =
      Text.ofString "Terms &\n  conditions" := by
    decide +kernel
  have hjoined : Text.join " " (Text.words "Terms &\n  conditions") = "Terms & conditions" := by
    decide +kernel
  rw [hread] at hvalue
  rw [hvalue, hjoined] at htext
  refine ⟨found, s, hs, w, hw, h, hvalue, htext, fun hspaced => ?_⟩
  have heq := hiff.2 hspaced
  rw [htext, hvalue] at heq
  exact absurd heq (by decide +kernel)

/-- Scanning and wrapping do not read the same text everywhere. -/
theorem scanned_ne_wrapped : ¬ ∀ (o : WrapOptions) (parser : Parser) (cs : List Char)
    (file file' : Text) (source source' : Source) (found : ScanResult) (v v' : Visit)
    (s : Extracted) (w : Wrapped) (span : Span),
      ScannedAlone o.markers parser file source cs v found →
      WrappedAlone o parser file' source' cs v' →
      extract o.markers source file v.tree = .ok (some s) →
      w ∈ (wrapContent o parser file' source').wrapped →
      trimmedSpan? source' (elementContent v'.tree) = some span →
      w.location = source'.location span.start → s.value = w.text := by
  intro hall
  obtain ⟨found, h⟩ := scannedAlone_terms
  have hextract : ((extract plainOptions.markers (termsSource 'T') "a.tsx"
      termsVisit.tree).toOption.bind id).map (·.value) =
        some (Text.ofString "Terms &\n  conditions") := by
    decide +kernel
  obtain ⟨s, hs, hvalue⟩ := Option.map_eq_some_iff.1 hextract
  obtain ⟨_, hs, rfl⟩ := Option.bind_eq_some_iff.1 hs
  have hwrapped := wrapContent_terms.2
  obtain ⟨w, hw⟩ := List.length_eq_one_iff.1 (by simpa using congrArg List.length hwrapped)
  rw [hw, List.map_singleton, List.singleton_inj, Prod.mk.injEq] at hwrapped
  have heq := hall plainOptions termsParser termsChars "a.tsx" "b.tsx" _ _ found termsVisit
    termsVisit s w ⟨3, 27⟩ h wrappedAlone_terms (eq_ok_of_toOption hs) (by simp [hw])
    (by decide +kernel) hwrapped.2
  rw [hvalue, hwrapped.1] at heq
  exact absurd heq (by decide +kernel)

end Localization.Extraction
