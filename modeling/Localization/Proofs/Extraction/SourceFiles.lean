import Localization.Proofs.Extraction.Walk
import Localization.Proofs.Text.Parts

/-!
# The source files below a folder

A walk that starts at a folder lists the files below it that are source files (`IsSource`): their
suffix is wanted, no name on the way to them is hidden or one of a folder of dependencies, and they
lie in no excluded folder. They are listed in the order of the names that lead to them. Files and
folders stand among each other in that order: what lies in a folder comes where the folder's name
comes.

Both are shown entry by entry. What leads to a file in a folder is the name of an entry and then
what leads to the file from there (`isSource_folder_iff`), and of two such lists of names the first
names decide if they differ, the rest if they do not.
-/

namespace Localization

/-- The path to which names lead down from a path. -/
def Path.down (p : Path) (names : List Text) : Path := p.join ⟨.relative, names⟩

/-- No name leads down to the path itself. -/
theorem Path.down_nil (p : Path) : p.down [] = p := by
  rw [down, join, List.append_nil]

/-- To go down by names from a child is to go down by its name first. -/
theorem Path.down_child (p : Path) (name : Text) (names : List Text) :
    (p.child name).down names = p.down (name :: names) := by
  simp only [down, join, child, List.append_assoc, List.singleton_append]

/-- A text that is not after a different one is before it. -/
theorem Text.before_of_notAfter {s t : Text} (h : notAfter s t = true) (hne : s ≠ t) :
    before s t = true :=
  before_iff.2 (lt_of_le_of_ne (notAfter_iff.1 h) fun heq =>
    hne (CodePoint.toNat_injective.list_map heq))

namespace Extraction.Walk

variable {exts : List Text} {excluded : List (List Text)} {t u : FileTree} {es : Entries FileTree}
  {shown p : Path} {place below : List Text}

/-- The walk that takes files with some suffixes, in whatever case they are written, and passes over
some folders. -/
def taking (exts : List Text) (excluded : List (List Text)) : Walk :=
  ⟨exts.map Text.lower, excluded⟩

/-- A name is wanted when its suffix, in any case, is one of those asked for. -/
theorem isWanted_taking_iff {name : Text} : (taking exts excluded).isWanted name = true ↔
    ∃ ext ∈ exts, ext.lower = (Path.suffixOf name).lower := by
  rw [isWanted, List.contains_iff_mem, taking, List.mem_map]

/-- A name is entered unless it starts with a dot or is a dependency folder's. -/
theorem isPassedOver_eq_false_iff {name : Text} : isPassedOver name = false ↔
    ¬ Text.ofString "." <+: name ∧ name ∉ dependencyFolders := by
  rw [isPassedOver, Bool.or_eq_false_iff, ← Bool.not_eq_true, Text.startsWith_iff,
    ← Bool.not_eq_true, List.contains_iff_mem]

/-! ## Source files -/

/-- In the tree `u` at a path, names lead to a source file; `place` is where the path leads. -/
structure IsSource (exts : List Text) (excluded : List (List Text)) (u : FileTree) (shown : Path)
    (place below : List Text) : Prop where
  isFile : ∃ bytes, u.find below = .ok (.file bytes)
  isWanted : ∃ ext ∈ exts, ext.lower = (shown.down below).suffix.lower
  isShown : ∀ name ∈ below, ¬ Text.ofString "." <+: name ∧ name ∉ dependencyFolders
  isOutside : ∀ above, above <+: below → above ≠ [] → above ≠ below → place ++ above ∉ excluded

/-- A file is the one source file at its path if its name is wanted. -/
theorem isSource_file_iff {bytes : List UInt8} :
    IsSource exts excluded (.file bytes) shown place below ↔
      below = [] ∧ (taking exts excluded).isWanted shown.name = true := by
  rw [isWanted_taking_iff]
  constructor
  · intro h
    obtain ⟨_, hfile⟩ := h.isFile
    cases below with
    | nil =>
      have hwanted := h.isWanted
      rw [Path.down_nil] at hwanted
      exact ⟨rfl, hwanted⟩
    | cons name below => cases hfile
  · rintro ⟨rfl, hwanted⟩
    refine ⟨⟨bytes, by rw [FileTree.find]⟩, by rwa [Path.down_nil], nofun, ?_⟩
    exact fun above hprefix hne => absurd (List.prefix_nil.1 hprefix) hne

/-- A file is found by names in a tree that is a folder, and by none in one that is a file. -/
theorem isFolder_iff_of_find {bytes : List UInt8} (h : u.find below = .ok (.file bytes)) :
    u.isFolder = true ↔ below ≠ [] := by
  cases u with
  | file content =>
    cases below with
    | nil => exact iff_of_false Bool.false_ne_true (not_not.2 rfl)
    | cons name below => cases h
  | folder es =>
    refine iff_of_true rfl ?_
    rintro rfl
    rw [FileTree.find] at h
    cases h

/-- Names lead to a source file in a folder by way of one of its entries. -/
theorem isSource_folder_iff (hes : FileTree.Proper (.folder es)) :
    IsSource exts excluded (.folder es) shown place below ↔
      ∃ e ∈ es, isEntered e = true ∧ ∃ rest, below = e.1 :: rest ∧
        (e.2.isFolder = true → place ++ [e.1] ∉ excluded) ∧
        IsSource exts excluded e.2 (shown.child e.1) (place ++ [e.1]) rest := by
  obtain ⟨hn, hproper⟩ := FileTree.proper_folder_iff.1 hes
  constructor
  · rintro ⟨⟨bytes, hfile⟩, hwanted, hshown, houtside⟩
    cases below with
    | nil =>
      rw [FileTree.find] at hfile
      cases hfile
    | cons name rest =>
      obtain ⟨hname, hrest⟩ := List.forall_mem_cons.1 hshown
      rw [FileTree.find] at hfile
      split at hfile
      · cases hfile
      · split at hfile
        next v hv =>
          refine ⟨(name, v), Entries.mem_of_get? hv, ?_, rest, rfl, fun hfolder => ?_,
            ⟨bytes, hfile⟩, by rwa [Path.down_child], hrest, fun above hprefix hne hneq => ?_⟩
          · rw [isEntered, isPassedOver_eq_false_iff.2 hname, Bool.not_false]
          · have hne := (isFolder_iff_of_find hfile).1 hfolder
            exact houtside [name] ⟨rest, rfl⟩ (List.cons_ne_nil _ _) fun heq =>
              hne (List.cons.inj heq).2.symm
          · rw [List.append_assoc]
            exact houtside (name :: above) ((List.cons_prefix_cons ..).2 ⟨rfl, hprefix⟩)
              (List.cons_ne_nil _ _) fun heq => hneq (List.cons.inj heq).2
        · cases hfile
  · rintro ⟨⟨name, v⟩, hmem, hentered, rest, rfl, hfolder, ⟨bytes, hfile⟩, hwanted, hshown,
      houtside⟩
    have hname : isPassedOver name = false := by simpa [isEntered] using hentered
    refine ⟨⟨bytes, ?_⟩, by rwa [Path.down_child] at hwanted,
      List.forall_mem_cons.2 ⟨isPassedOver_eq_false_iff.1 hname, hshown⟩, ?_⟩
    · rw [FileTree.find, if_neg (by simp [(hproper _ hmem).1]), Entries.get?_of_mem hn hmem]
      exact hfile
    · rintro (_ | ⟨first, above⟩) hprefix hne hneq
      · exact absurd rfl hne
      · obtain ⟨rfl, habove⟩ := (List.cons_prefix_cons ..).1 hprefix
        have hrest : above ≠ rest := fun heq => hneq (by rw [heq])
        by_cases hnil : above = []
        · subst hnil
          exact hfolder ((isFolder_iff_of_find hfile).2 hrest.symm)
        · have hout := houtside above habove hnil hrest
          rwa [List.append_assoc] at hout

/-- A walk finds at an entry with a tree the source files there, unless it is an excluded folder. -/
def FindsSources (exts : List Text) (excluded : List (List Text)) (u : FileTree) : Prop :=
  ∀ (shown : Path) (place : List Text) (p : Path),
    p ∈ (taking exts excluded).filesAt shown place u ↔
      (u.isFolder = true → place ∉ excluded) ∧
        ∃ below, p = shown.down below ∧ IsSource exts excluded u shown place below

/-- The files a walk lists below a folder are the source files there, by what it lists at each
entry. -/
theorem mem_filesBelow_iff (hes : FileTree.Proper (.folder es))
    (hentries : ∀ e ∈ es, FindsSources exts excluded e.2) :
    p ∈ (taking exts excluded).filesBelow shown place es ↔
      ∃ below, p = shown.down below ∧ IsSource exts excluded (.folder es) shown place below := by
  rw [filesBelow_eq _ _ _ (FileTree.proper_folder_iff.1 hes).1, List.mem_flatMap]
  simp only [isSource_folder_iff hes]
  constructor
  · rintro ⟨e, he, hp⟩
    obtain ⟨hmem, hentered⟩ := mem_of_entered he
    obtain ⟨hfolder, rest, rfl, hsource⟩ := (hentries e hmem _ _ _).1 hp
    exact ⟨e.1 :: rest, Path.down_child .., e, hmem, hentered, rest, rfl, hfolder, hsource⟩
  · rintro ⟨_, rfl, e, hmem, hentered, rest, rfl, hfolder, hsource⟩
    refine ⟨e, List.mem_filter.2 ⟨(Entries.perm_sorted es).subset hmem, hentered⟩, ?_⟩
    exact (hentries e hmem _ _ _).2 ⟨hfolder, rest, (Path.down_child ..).symm, hsource⟩

/-- A walk lists at any entry the source files there, by induction on the tree. -/
theorem findsSources (u : FileTree) (hu : u.Proper) : FindsSources exts excluded u := by
  induction u using FileTree.induct_entries with
  | file content =>
    intro shown place p
    simp only [isSource_file_iff, FileTree.isFolder, Bool.false_eq_true, false_imp_iff, true_and]
    rw [filesAt]
    split
    next h => simp [h, Path.down_nil]
    next h => simp [h]
  | folder es ih =>
    intro shown place p
    rw [filesAt_folder, ← mem_filesBelow_iff hu fun e he =>
      ih e he ((FileTree.proper_folder_iff.1 hu).2 e he).2]
    have hexcluded : (taking exts excluded).excluded.contains place = true ↔ place ∈ excluded :=
      List.contains_iff_mem
    split
    next h => simp [hexcluded.1 h, FileTree.isFolder]
    next h => simp [mt hexcluded.2 h]

/-! ## The order of a walk -/

/-- Names that lead down come before others in the lexicographic order: by the first name that
differs, or by being fewer. -/
def NamesBefore : List Text → List Text → Prop := List.Lex fun a b => Text.before a b = true

/-- Names that come before others differ from them. -/
theorem NamesBefore.ne {names names' : List Text} (h : NamesBefore names names') :
    names ≠ names' := by
  rintro rfl
  exact List.lex_irrefl (fun a => by rw [Text.before_iff]; exact lt_irrefl _) names h

/-- Below a path, one path comes before another. -/
def Precedes (shown p q : Path) : Prop :=
  ∃ names names', p = shown.down names ∧ q = shown.down names' ∧ NamesBefore names names'

/-- A path that comes before another below a child does so below the folder. -/
theorem Precedes.of_child {name : Text} {q : Path} (h : Precedes (shown.child name) p q) :
    Precedes shown p q := by
  obtain ⟨names, names', rfl, rfl, hbefore⟩ := h
  exact ⟨name :: names, name :: names', Path.down_child .., Path.down_child .., .cons hbefore⟩

/-- The entries that a walk goes on to stand in increasing order of their names. -/
theorem pairwise_before_entered (hn : es.keys.Nodup) :
    ((Entries.sorted es).filter isEntered).Pairwise fun a b => Text.before a.1 b.1 = true :=
  (((Entries.pairwise_sorted es).filter _).and (pairwise_entered hn)).imp fun h =>
    Text.before_of_notAfter h.1 h.2

/-- The files of a folder are in order if those at each entry are. -/
theorem pairwise_filesBelow (hes : FileTree.Proper (.folder es))
    (hentries : ∀ e ∈ es, ∀ (shown : Path) (place : List Text),
      ((taking exts excluded).filesAt shown place e.2).Pairwise (Precedes shown)) :
    ((taking exts excluded).filesBelow shown place es).Pairwise (Precedes shown) := by
  obtain ⟨hn, hproper⟩ := FileTree.proper_folder_iff.1 hes
  rw [filesBelow_eq _ shown place hn, List.pairwise_flatMap]
  refine ⟨fun e he => (hentries e (mem_of_entered he).1 _ _).imp Precedes.of_child, ?_⟩
  refine (pairwise_before_entered hn).imp_of_mem fun {a b} ha hb hab p hp q hq => ?_
  obtain ⟨-, names, rfl, -⟩ := (findsSources a.2 (hproper a (mem_of_entered ha).1).2 _ _ _).1 hp
  obtain ⟨-, names', rfl, -⟩ := (findsSources b.2 (hproper b (mem_of_entered hb).1).2 _ _ _).1 hq
  exact ⟨a.1 :: names, b.1 :: names', Path.down_child .., Path.down_child .., .rel hab⟩

/-- What a walk lists at an entry is strictly in order, by induction on the tree. -/
theorem pairwise_filesAt (u : FileTree) (hu : u.Proper) : ∀ (shown : Path) (place : List Text),
    ((taking exts excluded).filesAt shown place u).Pairwise (Precedes shown) := by
  induction u using FileTree.induct_entries with
  | file content =>
    intro shown place
    rw [filesAt]
    split
    · exact List.pairwise_singleton _ _
    · exact .nil
  | folder es ih =>
    intro shown place
    rw [filesAt_folder]
    split
    · exact .nil
    · exact pairwise_filesBelow hu fun e he => ih e he ((FileTree.proper_folder_iff.1 hu).2 e he).2

/-! ## Walks -/

/-- The names that lead from one path down to another. -/
def namesFrom (shown p : Path) : List Text := p.names.drop shown.names.length

/-- The names that lead down from a path are read back from it. -/
theorem namesFrom_down (shown : Path) (names : List Text) :
    namesFrom shown (shown.down names) = names := List.drop_left

/-- The walk from a folder lists the files below it. -/
theorem files_of_folder (w : Walk) {root : Path}
    (hroot : startOf t root = .ok (place, .folder es)) :
    w.files t root = pure (w.filesBelow root place es) := by
  unfold startOf at hroot
  unfold files
  rw [hroot]

/-- **The files of a walk.** Let a tree be proper, and let a path lead to a folder in it. The walk
from there that takes files with some suffixes and passes over some folders gives a list without a
report. The names that lead to its files are those that lead to the source files below the folder,
and no others, each once and in increasing order. -/
theorem files_eq_sources (ht : t.Proper) {root : Path}
    (hroot : startOf t root = .ok (place, .folder es)) (exts : List Text)
    (excluded : List (List Text)) :
    ∃ found : List (List Text),
      (taking exts excluded).files t root = pure (found.map root.down) ∧
      (∀ below, below ∈ found ↔ IsSource exts excluded (.folder es) root place below) ∧
      found.Pairwise NamesBefore ∧ found.Nodup := by
  have hes := ht.find (startOf_eq_ok.1 hroot).2
  have hproper := fun e he => ((FileTree.proper_folder_iff.1 hes).2 e he).2
  have hmem : ∀ p, p ∈ (taking exts excluded).filesBelow root place es ↔ _ := fun p =>
    mem_filesBelow_iff hes fun e he => findsSources e.2 (hproper e he)
  have hdown : ∀ p ∈ (taking exts excluded).filesBelow root place es,
      root.down (namesFrom root p) = p := by
    intro p hp
    obtain ⟨below, rfl, -⟩ := (hmem p).1 hp
    rw [namesFrom_down]
  have horder : (((taking exts excluded).filesBelow root place es).map (namesFrom root)).Pairwise
      NamesBefore := by
    rw [List.pairwise_map]
    refine (pairwise_filesBelow hes fun e he => pairwise_filesAt e.2 (hproper e he)).imp ?_
    rintro _ _ ⟨names, names', rfl, rfl, hbefore⟩
    rwa [namesFrom_down, namesFrom_down]
  refine ⟨_, ?_, ?_, horder, horder.imp NamesBefore.ne⟩
  · rw [files_of_folder _ hroot, List.map_map]
    exact congrArg pure ((List.map_congr_left hdown).trans (List.map_id _)).symm
  · intro below
    rw [List.mem_map]
    constructor
    · rintro ⟨p, hp, rfl⟩
      obtain ⟨below, rfl, hsource⟩ := (hmem p).1 hp
      rwa [namesFrom_down]
    · intro hsource
      exact ⟨_, (hmem _).2 ⟨below, rfl, hsource⟩, namesFrom_down ..⟩

/-- A folder with sources in an excluded folder and in one of dependencies, and with a hidden
source. -/
def mixedEntries : List (Text × FileTree) :=
  [("b.tsx", .file []), ("a", .folder [("z.TSX", .file [])]), (".c.tsx", .file []),
    ("node_modules", .folder [("d.tsx", .file [])]), ("locales", .folder [("e.tsx", .file [])])]

/-- The tree of the example is a proper one. -/
theorem proper_mixed : FileTree.Proper (.folder [("src", .folder mixedEntries)]) :=
  ⟨by decide, by decide, ⟨by decide, by decide, trivial, by decide, by decide,
    ⟨by decide, by decide, trivial, trivial⟩, by decide, by decide, trivial, by decide, by decide,
    ⟨by decide, by decide, trivial, trivial⟩, by decide, by decide,
    ⟨by decide, by decide, trivial, trivial⟩, trivial⟩, trivial⟩

/-- In that folder a file in capitals below another folder is listed, one in an excluded folder is
not. -/
theorem files_eq_sources_mixed :
    FileTree.Proper (.folder [("src", .folder mixedEntries)]) ∧
    startOf (.folder [("src", .folder mixedEntries)]) ⟨.relative, ["src"]⟩ =
      .ok ([Text.ofString "src"], .folder mixedEntries) ∧
    ∃ found : List (List Text),
      (taking [".Tsx"] [["src", "locales"]]).files (.folder [("src", .folder mixedEntries)])
        ⟨.relative, ["src"]⟩ = pure (found.map (Path.down ⟨.relative, ["src"]⟩)) ∧
      [Text.ofString "a", Text.ofString "z.TSX"] ∈ found ∧
      [Text.ofString "locales", Text.ofString "e.tsx"] ∉ found := by
  have hstart : startOf (.folder [("src", .folder mixedEntries)]) ⟨.relative, ["src"]⟩ =
      .ok ([Text.ofString "src"], .folder mixedEntries) := rfl
  obtain ⟨found, hfiles, hfound, -⟩ :=
    files_eq_sources proper_mixed hstart [".Tsx"] [["src", "locales"]]
  refine ⟨proper_mixed, hstart, found, hfiles, (hfound _).2 ⟨⟨[], rfl⟩, by decide, by decide, ?_⟩,
    fun hlisted => ?_⟩
  · simp only [← List.mem_inits]
    decide
  · exact ((hfound _).1 hlisted).isOutside [Text.ofString "locales"] ⟨_, rfl⟩ (by decide)
      (by decide) (by decide)

end Extraction.Walk

end Localization
