import Mathlib.Data.List.Forall2
import Localization.Extraction.Folder
import Localization.Proofs.Escape
import Localization.Proofs.Extraction.Replacements
import Localization.Proofs.Reference.Decode
import Localization.Proofs.Results

/-!
# Scanning the files of a folder

Files are scanned one after another, and what was found in each is put together. A file that cannot
be read, or that the parser refuses, is reported as an error of that file, and the scan goes on. One
fault is not caught: a call of the translation function whose literal stands for no text, such as
one with an escape beyond the last code point (`StopsScan`). A scan of a folder gives a result
exactly if no file of the walk holds such a call (`exists_scanFolder_iff`), and then every file
counts and every file's texts and errors are those of its own scan.
-/

namespace Localization.Extraction

open Syntax Syntax.Tree

/-! ## Literals without a value -/

/-- A literal stands for no text: in an attribute, it has a decimal reference of too many digits;
elsewhere, one of its escapes names no code point. -/
def Unresolvable (source : Source) (parent : Option Tree) (literal : Tree) : Prop :=
  if parent.any (·.kind = .markupAttribute) then
    Reference.Oversized (unquoted (literal.text source))
  else
    ∃ behind, Escape.HasEscape (unquoted (literal.text source)) behind ∧ Escape.NamesNone behind

/-- A literal has a value exactly if it stands for a text. -/
theorem exists_stringValue_iff {source : Source} {parent : Option Tree} {literal : Tree} :
    (∃ value, stringValue source parent literal = .ok value) ↔
      ¬ Unresolvable source parent literal := by
  unfold stringValue Unresolvable
  dsimp only
  split
  next =>
    rw [← Reference.exists_oversized_iff]
    cases Reference.oversized? (unquoted (literal.text source)) with
    | none => simp
    | some digits => simp
  next =>
    rw [Escape.exists_resolve_iff]
    simp

section
variable {m : Markers} {source : Source} {file : Text}

/-- The text of some bytes; bytes that cut a character have none. -/
def textOf (bytes : List UInt8) : Text :=
  match Utf8.decode bytes with
  | .ok cs => Text.ofChars cs
  | .error _ => []

/-- An element of the translation component marks the text that it holds, if it holds nothing else
and is not blank. -/
theorem fromElement_eq_some_iff {t : Tree} {s : Extracted} :
    fromElement m source file t = some s ↔
      elementName? source t = some m.componentName ∧
      (elementContent t).all isMarkupText = true ∧
      ∃ span, runSpan? (elementContent t) = some span ∧
        s.value = (Reference.decode (textOf (source.slice span.start span.stop))).strip ∧
        s.value ≠ [] ∧ s.key = s.value ∧ s.file = file ∧
        s.location = source.location
          (span.start + ((source.slice span.start span.stop).takeWhile isBlankByte).length) := by
  have hform : fromElement m source file t =
      if elementName? source t = some m.componentName ∧
          (elementContent t).all isMarkupText = true then
        (runSpan? (elementContent t)).bind fun span =>
          let value := (Reference.decode (textOf (source.slice span.start span.stop))).strip
          if value = [] then none
          else some ⟨value, value, file, source.location
            (span.start + ((source.slice span.start span.stop).takeWhile isBlankByte).length)⟩
      else none := by
    simp only [fromElement, Bool.and_eq_true, decide_eq_true_eq, List.isEmpty_iff]
    rfl
  obtain ⟨key, value, place, location⟩ := s
  rw [hform, Option.ite_none_right_eq_some, Option.bind_eq_some_iff]
  simp only [Option.ite_none_left_eq_some, Option.some.injEq, Extracted.mk.injEq, and_assoc]
  refine and_congr_right fun _ => and_congr_right fun _ => exists_congr fun span =>
    and_congr_right fun _ => ?_
  constructor
  · rintro ⟨hne, hkey, hvalue, hfile, hlocation⟩
    exact ⟨hvalue.symm, hvalue ▸ hne, hkey.symm.trans hvalue, hfile.symm, hlocation.symm⟩
  · rintro ⟨hvalue, hne, hkey, hfile, hlocation⟩
    exact ⟨hvalue ▸ hne, hvalue.symm.trans hkey.symm, hvalue.symm, hfile.symm, hlocation.symm⟩

/-- Whether a node marks a text is known exactly if the node can be read. -/
theorem exists_extract_iff {t : Tree} :
    (∃ found, extract m source file t = .ok found) ↔ Legible m source t := by
  by_cases hkind : t.kind = .call
  · rw [extract, hkind, Legible]
    dsimp only [fromCall]
    cases literalArgument? source m.functionName t with
    | none =>
      refine ⟨fun _ literal h => ?_, fun _ => ⟨none, rfl⟩⟩
      cases h
    | some literal =>
      constructor
      · rintro ⟨found, h⟩ literal hliteral
        cases hliteral
        obtain ⟨value, hvalue, -⟩ := map_eq_ok.1 h
        exact ⟨value, hvalue⟩
      · intro h
        obtain ⟨value, hvalue⟩ := h literal rfl
        exact ⟨_, map_eq_ok.2 ⟨value, hvalue, rfl⟩⟩
  · refine ⟨fun _ => legible_of_kind hkind, fun _ => ?_⟩
    unfold extract
    split
    · exact absurd ‹_› hkind
    · exact ⟨_, rfl⟩
    · exact ⟨_, rfl⟩

/-- A walk puts what a node marks in front of what the rest of it finds. -/
theorem result_extractAll_cons (v : Visit) (vs : List Visit) :
    (extractAll m source file (v :: vs)).result =
      (extract m source file v.tree).mapError .escape >>= fun found =>
        (extractAll m source file vs).result.map (found.toList ++ ·) := by
  rw [extractAll, Logged.result_bind]
  refine congrArg _ (funext fun found => ?_)
  cases found with
  | none =>
    cases (extractAll m source file vs).result with
    | error e => rfl
    | ok strings => rfl
  | some s =>
    -- A report on a region that could not be read changes no result.
    change Logged.result (if v.inError = true then _ else _) = _
    split
    · rw [Logged.result_bind, Logged.warn, Logged.record, ok_bind, Logged.result_bind]
      rfl
    · rw [Logged.result_bind]
      rfl

/-- A walk gives a result exactly if every node on it can be read. -/
theorem exists_extractAll_iff {vs : List Visit} :
    (∃ strings, (extractAll m source file vs).result = .ok strings) ↔
      ∀ v ∈ vs, Legible m source v.tree := by
  induction vs with
  | nil => exact ⟨fun _ => nofun, fun _ => ⟨[], rfl⟩⟩
  | cons v vs ih =>
    rw [List.forall_mem_cons, ← ih, ← @exists_extract_iff m source file, result_extractAll_cons]
    simp only [bind_eq_ok, mapError_eq_ok, map_eq_ok]
    constructor
    · rintro ⟨_, found, hfound, strings, hstrings, -⟩
      exact ⟨⟨found, hfound⟩, strings, hstrings⟩
    · rintro ⟨⟨found, hfound⟩, strings, hstrings⟩
      exact ⟨_, found, hfound, strings, hstrings, rfl⟩

/-- A walk finds what its nodes mark. -/
theorem mem_extractAll_iff {vs : List Visit} {strings : List Extracted}
    (h : (extractAll m source file vs).result = .ok strings) {s : Extracted} :
    s ∈ strings ↔ ∃ v ∈ vs, extract m source file v.tree = .ok (some s) := by
  induction vs generalizing strings with
  | nil =>
    cases h
    simp
  | cons v vs ih =>
    rw [result_extractAll_cons] at h
    obtain ⟨found, hfound, h⟩ := bind_eq_ok.1 h
    obtain ⟨rest, hrest, rfl⟩ := map_eq_ok.1 h
    rw [List.mem_append, ih hrest, List.exists_mem_cons_iff, mapError_eq_ok.1 hfound]
    refine or_congr_left ?_
    simp

/-- A call is illegible exactly when its argument is a literal with no value. -/
theorem not_legible_iff {t : Tree} : ¬ Legible m source t ↔
    ∃ literal, literalArgument? source m.functionName t = some literal ∧
      Unresolvable source (t.child? .arguments) literal := by
  unfold Legible
  push Not
  refine exists_congr fun literal => and_congr_right fun _ => ?_
  rw [← not_exists, exists_stringValue_iff, not_not]

/-- The warnings about a tree's errors stop nothing. -/
theorem result_warnOfErrors (root : Tree) : (warnOfErrors source file root).result = .ok () := by
  unfold warnOfErrors
  split
  · rfl
  · rfl

/-- The scan of a file's content gives a result exactly if the parser refuses the file or every node
of its tree can be read. -/
theorem exists_scanContent_iff {parser : Parser} :
    (∃ found, (scanContent m parser file source).result = .ok found) ↔
      ∀ root, parser file source = .ok root → ∀ v ∈ root.visits, Legible m source v.tree := by
  unfold scanContent
  cases hparse : parser file source with
  | error reason => exact ⟨fun _ _ h => (nomatch h), fun _ => ⟨_, rfl⟩⟩
  | ok root =>
    dsimp only
    simp only [Logged.result_bind, result_warnOfErrors, Except.ok.injEq, forall_eq']
    rw [← @exists_extractAll_iff m source file]
    constructor
    · rintro ⟨found, h⟩
      obtain ⟨-, -, h⟩ := bind_eq_ok.1 h
      obtain ⟨strings, hstrings, -⟩ := bind_eq_ok.1 h
      exact ⟨strings, hstrings⟩
    · rintro ⟨strings, hstrings⟩
      exact ⟨_, bind_eq_ok.2 ⟨(), rfl, bind_eq_ok.2 ⟨strings, hstrings, rfl⟩⟩⟩

/-- The scan of a file's content finds what the nodes of its tree mark. -/
theorem mem_strings_iff {parser : Parser} {found : ScanResult}
    (h : (scanContent m parser file source).result = .ok found) {s : Extracted} :
    s ∈ found.strings ↔ ∃ root, parser file source = .ok root ∧
      ∃ v ∈ root.visits, extract m source file v.tree = .ok (some s) := by
  unfold scanContent at h
  cases hparse : parser file source with
  | error reason =>
    rw [hparse] at h
    cases h
    exact iff_of_false List.not_mem_nil fun ⟨_, hroot, _⟩ => (nomatch hroot)
  | ok root =>
    rw [hparse] at h
    simp only [Logged.result_bind, result_warnOfErrors] at h
    obtain ⟨-, -, h⟩ := bind_eq_ok.1 h
    obtain ⟨strings, hstrings, h⟩ := bind_eq_ok.1 h
    cases h
    simp only [Except.ok.injEq, exists_eq_left']
    exact mem_extractAll_iff hstrings

end

/-! ## One file -/

/-- A file stops a scan: it can be read and has a tree, and in the tree there is a call of the
translation function with a literal that stands for no text. -/
def StopsScan (m : Markers) (parser : Parser) (t : FileTree) (p : Path) : Prop :=
  ∃ chars root, scannedContent t p = .ok chars ∧ parser p.toText (.ofChars chars) = .ok root ∧
    ∃ v ∈ root.visits, ∃ literal,
      literalArgument? (.ofChars chars) m.functionName v.tree = some literal ∧
      Unresolvable (.ofChars chars) (v.tree.child? .arguments) literal

section
variable {m : Markers} {parser : Parser} {t : FileTree} {p : Path}

/-- The scan of a file gives a result unless the file stops it. -/
theorem exists_scanFile_iff :
    (∃ found, (scanFile m parser t p).result = .ok found) ↔ ¬ StopsScan m parser t p := by
  unfold scanFile StopsScan
  cases scannedContent t p with
  | error report => exact ⟨fun _ ⟨_, _, h, _⟩ => (nomatch h), fun _ => ⟨_, rfl⟩⟩
  | ok chars =>
    dsimp only
    rw [Logged.result_bind]
    trans ∃ found, (scanContent m parser p.toText (.ofChars chars)).result = .ok found
    · constructor
      · rintro ⟨found, h⟩
        obtain ⟨r, hr, -⟩ := bind_eq_ok.1 h
        exact ⟨r, hr⟩
      · rintro ⟨r, hr⟩
        exact ⟨_, bind_eq_ok.2 ⟨r, hr, rfl⟩⟩
    · rw [exists_scanContent_iff]
      constructor
      · rintro h ⟨_, root, hchars, hparse, v, hv, hstop⟩
        cases hchars
        exact not_legible_iff.2 hstop (h root hparse v hv)
      · intro h root hparse v hv
        by_contra hlegible
        exact h ⟨chars, root, rfl, hparse, v, hv, not_legible_iff.1 hlegible⟩

/-- A file that is scanned counts, be it for its texts or for an error. -/
theorem filesScanned_scanFile {found : ScanResult}
    (h : (scanFile m parser t p).result = .ok found) : found.filesScanned = 1 := by
  unfold scanFile at h
  split at h
  next =>
    cases h
    rfl
  next =>
    rw [Logged.result_bind] at h
    obtain ⟨r, -, h⟩ := bind_eq_ok.1 h
    cases h
    rfl

/-! ## All files -/

/-- The scans of files one by one, all with a result. -/
def ScansAll (m : Markers) (parser : Parser) (t : FileTree) :
    List Path → List ScanResult → Prop :=
  List.Forall₂ fun p found => (scanFile m parser t p).result = .ok found

/-- A scan of several files is the scan of the first and then that of the others. -/
theorem result_scanFiles_cons (total : ScanResult) (files : List Path) :
    (scanFiles m parser t none total (p :: files)).result =
      (scanFile m parser t p).result >>= fun found =>
        (scanFiles m parser t none (total.append found) files).result := by
  rw [scanFiles]
  exact Logged.result_bind _ _

/-- A scan that is not cancelled gives a result if every file's own scan does, and puts these
results together. -/
theorem scanFiles_eq_ok {total r : ScanResult} {files : List Path} :
    (scanFiles m parser t none total files).result = .ok r ↔
      ∃ found, ScansAll m parser t files found ∧ r = found.foldl ScanResult.append total := by
  induction files generalizing total with
  | nil =>
    constructor
    · intro h
      cases h
      exact ⟨[], .nil, rfl⟩
    · rintro ⟨_, ⟨⟩, rfl⟩
      rfl
  | cons p files ih =>
    rw [result_scanFiles_cons, bind_eq_ok]
    constructor
    · rintro ⟨first, hfirst, h⟩
      obtain ⟨found, hfound, rfl⟩ := ih.1 h
      exact ⟨first :: found, .cons hfirst hfound, rfl⟩
    · rintro ⟨_, hall, rfl⟩
      cases hall with
      | cons hfirst hfound => exact ⟨_, hfirst, ih.2 ⟨_, hfound, rfl⟩⟩

/-- A list of files can be scanned exactly when none of them stops the scan. -/
theorem exists_scansAll_iff {files : List Path} :
    (∃ found, ScansAll m parser t files found) ↔ ∀ p ∈ files, ¬ StopsScan m parser t p := by
  induction files with
  | nil => exact ⟨fun _ => nofun, fun _ => ⟨[], .nil⟩⟩
  | cons p files ih =>
    rw [List.forall_mem_cons, ← ih, ← exists_scanFile_iff]
    constructor
    · rintro ⟨_, hall⟩
      cases hall with
      | cons hfirst hfound => exact ⟨⟨_, hfirst⟩, _, hfound⟩
    · rintro ⟨⟨first, hfirst⟩, found, hfound⟩
      exact ⟨first :: found, .cons hfirst hfound⟩

end

/-- Put together, the scans of files have the texts and errors of each, and every file counts. -/
theorem ScansAll.foldl_append {m : Markers} {parser : Parser} {t : FileTree} {files : List Path}
    {found : List ScanResult} (h : ScansAll m parser t files found) (total : ScanResult) :
    found.foldl ScanResult.append total =
      { strings := total.strings ++ found.flatMap (·.strings)
        errors := total.errors ++ found.flatMap (·.errors)
        filesScanned := total.filesScanned + files.length
        cancelled := total.cancelled } := by
  induction h generalizing total with
  | nil => simp
  | cons hfirst _ ih =>
    rw [List.foldl_cons, ih]
    simp only [ScanResult.append, filesScanned_scanFile hfirst, List.flatMap_cons,
      List.append_assoc, List.length_cons, ScanResult.mk.injEq, true_and, and_true]
    omega

/-- A walk always gives a list of files; at a path that cannot be listed there are none. -/
theorem Walk.exists_files (w : Walk) (t : FileTree) (root : Path) :
    ∃ files, (w.files t root).result = .ok files := by
  unfold Walk.files
  dsimp only
  split
  · exact ⟨_, rfl⟩
  · exact ⟨_, rfl⟩
  · exact ⟨_, rfl⟩

/-- In a folder whose entries stand in order, files are taken in that order. -/
theorem Walk.files_of_sorted {w : Walk} {entries : List (Text × FileTree)}
    {found : List (Text × List Path)} (h : w.filesIn ⟨.relative, []⟩ [] entries = found)
    (hsorted : found.Pairwise fun a b => Text.notAfter a.1 b.1) :
    (w.files (.folder entries) ⟨.relative, []⟩).result = .ok (found.flatMap Prod.snd) := by
  change Except.ok (w.filesBelow ⟨.relative, []⟩ [] entries) = _
  rw [Walk.filesBelow, h, Entries.sorted, List.mergeSort_of_pairwise hsorted]

/-- **What stops a scan.** A scan of a folder that is not cancelled gives a result exactly if no
file of the walk stops it. Then every file counts, and the texts and errors are those of the files'
own scans, file by file. -/
theorem exists_scanFolder_iff (m : Markers) (parser : Parser) (w : Walk) (t : FileTree)
    (root : Path) :
    ∃ files, (w.files t root).result = .ok files ∧
      ((∃ r, (scanFolder m parser w t root none).result = .ok r) ↔
        ∀ p ∈ files, ¬ StopsScan m parser t p) ∧
      ∀ r, (scanFolder m parser w t root none).result = .ok r →
        r.filesScanned = files.length ∧ r.cancelled = false ∧
        ∃ found, ScansAll m parser t files found ∧
          r.strings = found.flatMap (·.strings) ∧ r.errors = found.flatMap (·.errors) := by
  obtain ⟨files, hfiles⟩ := w.exists_files t root
  have hresult : ∀ r, (scanFolder m parser w t root none).result = .ok r ↔
      ∃ found, ScansAll m parser t files found ∧ r = found.foldl ScanResult.append .empty := by
    intro r
    rw [scanFolder, Logged.result_bind, hfiles]
    exact scanFiles_eq_ok
  refine ⟨files, hfiles, ?_, fun r hr => ?_⟩
  · rw [← exists_scansAll_iff]
    simp only [hresult]
    constructor
    · rintro ⟨r, found, hfound, -⟩
      exact ⟨found, hfound⟩
    · rintro ⟨found, hfound⟩
      exact ⟨_, found, hfound, rfl⟩
  · obtain ⟨found, hfound, rfl⟩ := (hresult r).1 hr
    rw [hfound.foldl_append]
    exact ⟨Nat.zero_add _, rfl, found, hfound, rfl, rfl⟩

/-- Three files with a call each; the literal of the second one has an escape beyond the last code
point. -/
def farEscapeFiles : List (Text × FileTree) :=
  [("a.tsx", .file "t('Good');".toUTF8.toList),
    ("b.tsx", .file "t('\\u\x7b110000\x7d');".toUTF8.toList),
    ("c.tsx", .file "t('Also');".toUTF8.toList)]

/-- The walk over the tree of the example lists its three files. -/
theorem files_farEscape :
    (Walk.files ⟨Walk.standardSuffixes, []⟩ (.folder farEscapeFiles) ⟨.relative, []⟩).result =
      .ok [⟨.relative, ["a.tsx"]⟩, ⟨.relative, ["b.tsx"]⟩, ⟨.relative, ["c.tsx"]⟩] := by
  have htaken : ∀ name ∈ [Text.ofString "a.tsx", Text.ofString "b.tsx", Text.ofString "c.tsx"],
      Walk.isPassedOver name = false ∧
      Walk.isWanted ⟨Walk.standardSuffixes, []⟩ (Path.name ⟨.relative, [name]⟩) = true := by
    decide
  have hentries : Walk.filesIn ⟨Walk.standardSuffixes, []⟩ ⟨.relative, []⟩ [] farEscapeFiles =
      [(Text.ofString "a.tsx", [⟨.relative, ["a.tsx"]⟩]),
        (Text.ofString "b.tsx", [⟨.relative, ["b.tsx"]⟩]),
        (Text.ofString "c.tsx", [⟨.relative, ["c.tsx"]⟩])] := by
    simp only [List.forall_mem_cons] at htaken
    simp [farEscapeFiles, Walk.filesIn, Walk.filesAt, Path.child, htaken]
  exact Walk.files_of_sorted hentries (by decide)

/-- The files in front of and behind the one with the far escape are scanned on their own, and the
scan of the folder gives nothing of them. -/
theorem scanFolder_farEscape :
    (∀ p ∈ [Text.ofString "a.tsx", Text.ofString "c.tsx"], ∃ found,
      (scanFile ⟨"t", "T"⟩ standardParser (.folder farEscapeFiles) ⟨.relative, [p]⟩).result =
        .ok found ∧ found.errors = [] ∧ found.strings.length = 1) ∧
    ∃ e, (scanFolder ⟨"t", "T"⟩ standardParser ⟨Walk.standardSuffixes, []⟩
      (.folder farEscapeFiles) ⟨.relative, []⟩ none).result = .error e ∧
      e.message = "chr() arg not in range(0x110000)" := by
  obtain ⟨hgood, hbad⟩ :
      (∀ p ∈ [Text.ofString "a.tsx", Text.ofString "c.tsx"],
        ((scanFile ⟨"t", "T"⟩ standardParser (.folder farEscapeFiles)
          ⟨.relative, [p]⟩).result.toOption.map fun found =>
            (found.errors, found.strings.length)) = some ([], 1)) ∧
      ((scanFile ⟨"t", "T"⟩ standardParser (.folder farEscapeFiles)
        ⟨.relative, ["b.tsx"]⟩).result.mapError Failure.message).map (fun _ => ()) =
          .error (Text.ofString "chr() arg not in range(0x110000)") := by
    decide +kernel
  have hscanned : ∀ p ∈ [Text.ofString "a.tsx", Text.ofString "c.tsx"], ∃ found,
      (scanFile ⟨"t", "T"⟩ standardParser (.folder farEscapeFiles) ⟨.relative, [p]⟩).result =
        .ok found ∧ found.errors = [] ∧ found.strings.length = 1 := by
    intro p hp
    obtain ⟨found, hfound, hparts⟩ := Option.map_eq_some_iff.1 (hgood p hp)
    exact ⟨found, eq_ok_of_toOption hfound, Prod.mk.inj hparts⟩
  obtain ⟨first, hfirst, -⟩ := hscanned "a.tsx" List.mem_cons_self
  obtain ⟨e, he, hmessage⟩ := mapError_eq_error.1 (map_eq_error.1 hbad)
  refine ⟨hscanned, e, ?_, hmessage⟩
  rw [scanFolder, Logged.result_bind, files_farEscape, ok_bind, result_scanFiles_cons, hfirst,
    ok_bind, result_scanFiles_cons, he, error_bind]

end Localization.Extraction
