import Mathlib.Data.List.Basic
import Localization.Extraction.Folder
import Localization.Proofs.Entries
import Localization.Proofs.Extraction.FolderScan
import Localization.Proofs.Extraction.Replacements
import Localization.Proofs.Key.Registry

/-!
# The keys of a folder

Every file is wrapped with a registry of its own, so the texts of a file and their keys are a
history of that registry (`WrapResult.Keyed`): an invariant of the pass, kept by every replacement.
The keys of all files then go into one mapping. No text is lost on the way exactly if texts with one
key are the same (`exists_newKeys_iff`). Nothing makes sure of that: of a file's path only its stem
goes into a key, so files with one stem share their keys, and within a file two texts may clash.
-/

namespace Localization.Extraction

open Syntax Syntax.Tree

/-! ## One file -/

section
variable {o : WrapOptions} {source : Source} {file lead : Text} {p q : Pass}

/-- The texts and keys of wrapped texts. -/
def requests (items : List Wrapped) : List (Text × Text) := items.map fun i => (i.text, i.key)

/-- What a pass has wrapped so far is what its registry was asked for. -/
def Pass.Keyed (file lead : Text) (p : Pass) : Prop :=
  Key.History file lead (requests p.wrapped) p.registry

/-- Reserving the keys of the calls in a file continues the history of its registry. -/
theorem history_reserveKeys {given : List (Text × Text)} {r r' : Key.Registry} {ts : List Tree}
    (h : Key.History file lead given r) (hreserve : reserveKeys o source r ts = .ok r') :
    Key.History file lead given r' := by
  induction ts generalizing r with
  | nil =>
    cases hreserve
    exact h
  | cons t ts ih =>
    rw [reserveKeys] at hreserve
    split at hreserve
    next => exact ih h hreserve
    next =>
      obtain ⟨key, -, hreserve⟩ := bind_eq_ok.1 hreserve
      exact ih (h.reserve key) hreserve

/-- A replacement asks the registry for one key, or for none if its location is taken. -/
theorem Pass.Keyed.take {r : Replacement} (h : p.Keyed file lead)
    (htake : p.take o source r = .ok q) : q.Keyed file lead := by
  unfold Pass.take Pass.replace at htake
  dsimp only at htake
  split at htake
  next =>
    cases htake
    exact h
  next =>
    obtain ⟨⟨key, registry⟩, hkey, htake⟩ := bind_eq_ok.1 htake
    cases htake
    have hnext := h.keyFor (mapError_eq_ok.1 hkey)
    unfold Pass.Keyed requests
    rw [List.map_append]
    exact hnext

/-- A visit wraps what it asks the registry for, and nothing else. -/
theorem Pass.Keyed.wrapVisit {v : Visit} (h : p.Keyed file lead)
    (hvisit : wrapVisit o source p v = .ok q) : q.Keyed file lead := by
  rw [wrapVisit_eq] at hvisit
  obtain ⟨rs, -, hvisit⟩ := bind_eq_ok.1 hvisit
  exact foldlM_keeps (fun _ _ _ htake h => h.take htake) hvisit h

/-- What the pass over a file wraps is what the file's registry was asked for. -/
theorem keyed_of_record {root : Tree} (h : record o source file root = .ok p) :
    p.Keyed file o.keyLead := by
  obtain ⟨registry, hregistry, h⟩ := bind_eq_ok.1 h
  have hstart : Pass.Keyed file o.keyLead ⟨registry, [], [], []⟩ :=
    history_reserveKeys .empty hregistry
  exact foldlM_keeps (fun _ _ _ hvisit h => h.wrapVisit hvisit) h hstart

end

/-- The texts that were wrapped in a file, with their keys, are what one registry was asked for. -/
def WrapResult.Keyed (lead : Text) (f : WrapResult) : Prop :=
  ∃ r, Key.History f.file lead (requests f.wrapped) r

section
variable {o : WrapOptions} {parser : Parser} {lead : Text}

/-- A file that was left as it is has no wrapped text to account for. -/
theorem keyed_unchanged (file : Text) (errors : List Text) :
    { WrapResult.unchanged file with errors := errors }.Keyed lead :=
  ⟨.empty file lead, .empty⟩

/-- Wrapping a tree reports what one registry was asked for. -/
theorem keyed_wrapTree {source : Source} {file : Text} {root : Tree} {f : WrapResult}
    (h : wrapTree o source file root = .ok f) : f.Keyed o.keyLead := by
  obtain ⟨pass, hpass, -⟩ := bind_eq_ok.1 h
  rw [wrapTree_eq hpass] at h
  split at h
  next =>
    cases h
    exact keyed_unchanged file []
  next =>
    obtain ⟨new, -, rfl⟩ := map_eq_ok.1 h
    exact ⟨pass.registry, keyed_of_record hpass⟩

/-- Wrapping a file's content reports what one registry was asked for. -/
theorem keyed_wrapContent (file : Text) (source : Source) :
    (wrapContent o parser file source).Keyed o.keyLead := by
  unfold wrapContent
  split
  next => exact keyed_unchanged file _
  next =>
    split
    next h => exact keyed_wrapTree h
    next => exact keyed_unchanged file _

/-- Writing a file back changes neither its texts nor their keys. -/
theorem keyed_writeBack {t : FileTree} {p : Path} {f : WrapResult} (h : f.Keyed lead)
    (new : List Char) : (writeBack t p f new).1.Keyed lead := by
  unfold writeBack
  split
  · exact h
  · exact h

/-- Wrapping a file, dry or not, reports what one registry was asked for. -/
theorem keyed_wrapFile (dryRun : Bool) (t : FileTree) (p : Path) :
    (wrapFile o parser dryRun t p).1.Keyed o.keyLead := by
  unfold wrapFile
  split
  next => exact keyed_unchanged _ _
  next chars _ =>
    have hcontent : (wrapContent o parser p.toText (.ofChars chars)).Keyed o.keyLead :=
      keyed_wrapContent _ _
    dsimp only
    split
    · split
      · exact hcontent
      · exact keyed_writeBack hcontent _
    · exact hcontent

/-! ## All files -/

/-- Every result of a run over files reports what a registry of its own was asked for. -/
theorem keyed_wrapFiles (dryRun : Bool) (checks : Checks) (t : FileTree) (files : List Path) :
    ∀ f ∈ (wrapFiles o parser dryRun checks t files).1.results, f.Keyed o.keyLead := by
  induction files generalizing checks t with
  | nil => nofun
  | cons p files ih =>
    rw [wrapFiles]
    cases checks.step with
    | none => nofun
    | some checks =>
      exact List.forall_mem_cons.2 ⟨keyed_wrapFile dryRun t p, ih checks _⟩

end

/-- Wrapping a folder is wrapping the files that the walk lists. -/
theorem result_wrapFolder {o : WrapOptions} {parser : Parser} {w : Walk} {dryRun : Bool}
    {t : FileTree} {root : Path} {checks : Checks} {files : List Path}
    (hfiles : (w.files t root).result = .ok files) :
    (wrapFolder o parser w dryRun t root checks).result =
      .ok ((wrapFiles o parser dryRun checks t files).1,
        (wrapFiles o parser dryRun checks t files).2) := by
  rw [wrapFolder, Logged.result_bind, hfiles]
  rfl

/-- The new keys of a folder are one mapping filled from all its results in order. -/
theorem FolderResult.newKeys_eq (r : FolderResult) : r.newKeys =
    Entries.ofPairs ((r.results.flatMap fun f => requests f.wrapped).map Prod.swap) := by
  simp only [newKeys, requests, List.map_flatMap, List.map_map]
  rfl

/-- The keys of all files give back every text exactly if texts with one key are the same. -/
theorem FolderResult.newKeys_iff (r : FolderResult) :
    (∀ f ∈ r.results, ∀ i ∈ f.wrapped, r.newKeys.get? i.key = some i.text) ↔
      ∀ f ∈ r.results, ∀ i ∈ f.wrapped, ∀ g ∈ r.results, ∀ j ∈ g.wrapped,
        i.key = j.key → i.text = j.text := by
  have hpairs := Entries.get?_ofPairs_iff
    (r.results.flatMap fun f => f.wrapped.map fun w => (w.key, w.text))
  simp only [List.forall_mem_flatMap, List.forall_mem_map] at hpairs
  exact hpairs

/-- No key is lost: it has one of the texts that were wrapped with it. -/
theorem FolderResult.exists_newKeys (r : FolderResult) {f : WrapResult} (hf : f ∈ r.results)
    {i : Wrapped} (hi : i ∈ f.wrapped) :
    ∃ g ∈ r.results, ∃ j ∈ g.wrapped, j.key = i.key ∧ r.newKeys.get? i.key = some j.text := by
  have hpair : (i.key, i.text) ∈
      r.results.flatMap fun f => f.wrapped.map fun w => (w.key, w.text) :=
    List.mem_flatMap.2 ⟨f, hf, List.mem_map.2 ⟨i, hi, rfl⟩⟩
  obtain ⟨text, htext⟩ := Entries.exists_get?_ofPairs hpair
  obtain ⟨g, hg, hmem⟩ := List.mem_flatMap.1 (Entries.mem_of_get?_ofPairs htext)
  obtain ⟨j, hj, heq⟩ := List.mem_map.1 hmem
  obtain ⟨hkey, rfl⟩ := Prod.mk.inj heq
  exact ⟨g, hg, j, hj, hkey, htext⟩

/-- **Which texts reach the catalog.** Wrapping a folder always gives a result. Each key in it is
the plain or the marked key of its text in its file, and has one of the texts that were wrapped with
it. No text is lost exactly if texts with one key are the same, over all files; two texts of one
file share a key only if they clash. -/
theorem exists_newKeys_iff (o : WrapOptions) (parser : Parser) (w : Walk) (dryRun : Bool)
    (t : FileTree) (root : Path) (checks : Checks) :
    ∃ r t', (wrapFolder o parser w dryRun t root checks).result = .ok (r, t') ∧
      ((∀ f ∈ r.results, ∀ i ∈ f.wrapped, r.newKeys.get? i.key = some i.text) ↔
        ∀ f ∈ r.results, ∀ i ∈ f.wrapped, ∀ g ∈ r.results, ∀ j ∈ g.wrapped,
          i.key = j.key → i.text = j.text) ∧
      ∀ f ∈ r.results, ∀ i ∈ f.wrapped,
        (∃ g ∈ r.results, ∃ j ∈ g.wrapped, j.key = i.key ∧ r.newKeys.get? i.key = some j.text) ∧
        (Key.generate i.text f.file o.keyLead = .ok i.key ∨
          Key.marked i.text f.file o.keyLead = .ok i.key) ∧
        ∀ j ∈ f.wrapped, i.key = j.key → i.text ≠ j.text →
          Key.Clash f.file o.keyLead i.text j.text := by
  obtain ⟨files, hfiles⟩ := w.exists_files t root
  refine ⟨_, _, result_wrapFolder hfiles, FolderResult.newKeys_iff _, fun f hf i hi => ?_⟩
  obtain ⟨registry, h⟩ := keyed_wrapFiles dryRun checks t files f hf
  have hasked : ∀ j ∈ f.wrapped, (j.text, j.key) ∈ requests f.wrapped :=
    fun j hj => List.mem_map.2 ⟨j, hj, rfl⟩
  refine ⟨FolderResult.exists_newKeys _ hf hi, (h.given_cases (hasked i hi)).imp_left And.left,
    fun j hj hkey hne => ?_⟩
  exact h.clash_of_shared hne (hasked i hi) (hkey ▸ hasked j hj)

/-- A dry run leaves the files as they are. -/
theorem wrapFile_dryRun (o : WrapOptions) (parser : Parser) (t : FileTree) (p : Path) :
    (wrapFile o parser true t p).2 = t := by
  unfold wrapFile
  split
  · rfl
  · dsimp only
    split
    · rfl
    · rfl

/-- A dry run wraps every file by itself. -/
theorem results_wrapFiles_dryRun (o : WrapOptions) (parser : Parser) (t : FileTree)
    (files : List Path) : (wrapFiles o parser true none t files).1.results =
      files.map fun p => (wrapFile o parser true t p).1 := by
  induction files with
  | nil => rfl
  | cons p files ih =>
    rw [wrapFiles, List.map_cons, ← ih]
    simp only [Checks.step, wrapFile_dryRun]

/-- In a dry run the texts of a file are those of the pass, if its edits can be applied. -/
theorem wrapFile_of_record {o : WrapOptions} {parser : Parser} {t : FileTree} {p : Path}
    {chars : List Char} {root : Tree} {pass : Pass} {new : List Char}
    (hcontent : wrappedContent t p = .ok chars)
    (hparse : parser p.toText (.ofChars chars) = .ok root)
    (hpass : record o (.ofChars chars) p.toText root = .ok pass) (hne : pass.edits.isEmpty = false)
    (hedited : edited (.ofChars chars) (fileEdits o (.ofChars chars) root
      (!declares (.ofChars chars) o.markers.functionName root pass.edits) pass.edits) = .ok new) :
    (wrapFile o parser true t p).1.wrapped = pass.wrapped := by
  simp only [wrapFile, hcontent, wrapContent_of_edited hparse hpass hne hedited]
  rfl

/-- Two files with one stem; their texts differ in case only. -/
def sameStem : FileTree :=
  .folder [("a", .folder [("index.tsx", .file "<p>Hello</p>".toUTF8.toList)]),
    ("b", .folder [("index.tsx", .file "<p>HELLO</p>".toUTF8.toList)])]

/-- The edits of each of them, the last place first. -/
def sameStemEdits : List Edit :=
  [⟨3, 8, "\x7bt('index_hello')\x7d"⟩, ⟨0, 0, "import \x7b t \x7d from 'lokal-react';\n"⟩]

/-- The places of these files, what they hold, and their texts. -/
def sameStemFiles : List (Path × List Char × Text) :=
  [(⟨.relative, ["a", "index.tsx"]⟩, "<p>Hello</p>".toList, "Hello"),
    (⟨.relative, ["b", "index.tsx"]⟩, "<p>HELLO</p>".toList, "HELLO")]

/-- The walk over the tree of the example lists its two files. -/
theorem files_sameStem :
    (Walk.files ⟨Walk.standardSuffixes, []⟩ sameStem ⟨.relative, []⟩).result =
      .ok (sameStemFiles.map Prod.fst) := by
  have hbelow : ∀ name ∈ [Text.ofString "a", Text.ofString "b"],
      Walk.isPassedOver name = false ∧ Walk.isPassedOver "index.tsx" = false ∧
      Walk.isWanted ⟨Walk.standardSuffixes, []⟩
        (Path.name ⟨.relative, [name, Text.ofString "index.tsx"]⟩) = true := by
    decide
  have hfolder : ∀ name ∈ [Text.ofString "a", Text.ofString "b"], ∀ content,
      Walk.filesAt ⟨Walk.standardSuffixes, []⟩ ⟨.relative, [name]⟩ [name]
        (.folder [("index.tsx", .file content)]) = [⟨.relative, [name, "index.tsx"]⟩] := by
    intro name hname content
    obtain ⟨-, hpassed, hwanted⟩ := hbelow name hname
    simp [Walk.filesAt, Walk.filesIn, Path.child, Entries.sorted, hpassed, hwanted]
  have hentries : Walk.filesIn ⟨Walk.standardSuffixes, []⟩ ⟨.relative, []⟩ []
      [("a", .folder [("index.tsx", .file "<p>Hello</p>".toUTF8.toList)]),
        ("b", .folder [("index.tsx", .file "<p>HELLO</p>".toUTF8.toList)])] =
      [(Text.ofString "a", [⟨.relative, ["a", "index.tsx"]⟩]),
        (Text.ofString "b", [⟨.relative, ["b", "index.tsx"]⟩])] := by
    have hpassed : Walk.isPassedOver "a" = false ∧ Walk.isPassedOver "b" = false :=
      ⟨(hbelow "a" (by decide)).1, (hbelow "b" (by decide)).1⟩
    simp [Walk.filesIn, Path.child, hpassed, hfolder]
  exact Walk.files_of_sorted hentries (by decide)

/-- Both files of the example ask for one key. -/
theorem wrapped_sameStem : ∀ f ∈ sameStemFiles,
    requests (wrapFile plainOptions standardParser true sameStem f.1).1.wrapped =
      [(f.2.2, Text.ofString "index_hello")] := by
  have hcontent : ∀ f ∈ sameStemFiles, (wrappedContent sameStem f.1).toOption = some f.2.1 := by
    decide +kernel
  have hrecord : ∀ f ∈ sameStemFiles, ((record plainOptions (.ofChars f.2.1) f.1.toText
      (parse (dialectOf f.1.toText) (.ofChars f.2.1))).toOption.map fun pass =>
        (requests pass.wrapped, pass.edits.isEmpty, fileEdits plainOptions (.ofChars f.2.1)
          (parse (dialectOf f.1.toText) (.ofChars f.2.1)) (!declares (.ofChars f.2.1) "t"
            (parse (dialectOf f.1.toText) (.ofChars f.2.1)) pass.edits) pass.edits)) =
      some ([(f.2.2, Text.ofString "index_hello")], false, sameStemEdits) := by
    decide +kernel
  have happly : ∀ f ∈ sameStemFiles,
      ((Edit.applyAll sameStemEdits (Source.ofChars f.2.1).bytes).toOption.bind fun bytes =>
        (Utf8.decode bytes).toOption).isSome = true := by
    decide +kernel
  have hordered : Edit.ordered sameStemEdits = sameStemEdits :=
    List.mergeSort_of_pairwise (by decide)
  intro f hf
  obtain ⟨pass, hpass, hparts⟩ := Option.map_eq_some_iff.1 (hrecord f hf)
  simp only [Prod.mk.injEq] at hparts
  obtain ⟨hrequests, hne, hedits⟩ := hparts
  obtain ⟨new, hedited⟩ := exists_edited_of_ordered hordered (happly f hf)
  rw [← hedits] at hedited
  rw [wrapFile_of_record (eq_ok_of_toOption (hcontent f hf)) rfl (eq_ok_of_toOption hpass) hne
    hedited, hrequests]

/-- The text of the first file is wrapped, and its key has the text of the second one. -/
theorem newKeys_sameStem :
    ∃ r t', (wrapFolder plainOptions standardParser ⟨Walk.standardSuffixes, []⟩ true sameStem
      ⟨.relative, []⟩ none).result = .ok (r, t') ∧
      ∃ f ∈ r.results, ∃ i ∈ f.wrapped, i.text = "Hello" ∧ r.newKeys.get? i.key = some "HELLO" := by
  refine ⟨_, _, result_wrapFolder files_sameStem, ?_⟩
  have hrequests : ((wrapFiles plainOptions standardParser true none sameStem
      (sameStemFiles.map Prod.fst)).1.results.flatMap fun f => requests f.wrapped) =
      sameStemFiles.flatMap fun f => [(f.2.2, Text.ofString "index_hello")] := by
    rw [results_wrapFiles_dryRun, List.map_map, List.flatMap_map]
    exact List.flatMap_congr wrapped_sameStem
  have hfirst : (Text.ofString "Hello", Text.ofString "index_hello") ∈
      sameStemFiles.flatMap fun f => [(f.2.2, Text.ofString "index_hello")] := List.mem_cons_self
  rw [← hrequests] at hfirst
  obtain ⟨f, hf, hmem⟩ := List.mem_flatMap.1 hfirst
  obtain ⟨i, hi, heq⟩ := List.mem_map.1 hmem
  obtain ⟨htext, hkey⟩ := Prod.mk.inj heq
  refine ⟨f, hf, i, hi, htext, ?_⟩
  rw [FolderResult.newKeys_eq, hrequests, hkey]
  decide

end Localization.Extraction
