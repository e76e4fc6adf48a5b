import Localization.Extraction.Walk
import Localization.Proofs.Contents
import Localization.Proofs.Text.Order

/-!
# The files of a walk

A walk goes through the entries of a folder in the order of their names and passes some of them over
(`filesBelow_eq`). The files that it finds below a path are reached by going down from there. In a
proper tree no two of them stand at one place (`places_files`).
-/

namespace Localization.Extraction.Walk

variable {w : Walk} {shown : Path} {place : List Text} {t u : FileTree} {es : Entries FileTree}

/-! ## Folders -/

/-- Whether a walk goes on to an entry. -/
def isEntered (e : Text × FileTree) : Bool := !isPassedOver e.1

/-- An entry that is not passed over leads down. -/
theorem ne_dots_of_isEntered {e : Text × FileTree} (h : isEntered e = true) :
    e.1 ≠ Text.ofString ".." := by
  intro heq
  rw [isEntered, heq] at h
  exact absurd h (by decide)

/-- The files below the entries of a folder are those at the entries that are entered. -/
theorem filesIn_eq (w : Walk) (shown : Path) (place : List Text) (es : Entries FileTree) :
    w.filesIn shown place es = (es.filter isEntered).map fun e =>
      (e.1, w.filesAt (shown.child e.1) (place ++ [e.1]) e.2) := by
  induction es with
  | nil => rw [filesIn, List.filter_nil, List.map_nil]
  | cons e es ih =>
    rw [filesIn, ih]
    split
    next hpassed => rw [List.filter_cons_of_neg (by simp [isEntered, hpassed])]
    next hentered =>
      rw [List.filter_cons_of_pos (by simpa [isEntered] using hentered), List.map_cons]

/-- A walk takes the files of a folder entry by entry, in the order of the names. -/
theorem filesBelow_eq (w : Walk) (shown : Path) (place : List Text) (hn : es.keys.Nodup) :
    w.filesBelow shown place es = ((Entries.sorted es).filter isEntered).flatMap fun e =>
      w.filesAt (shown.child e.1) (place ++ [e.1]) e.2 := by
  rw [filesBelow, filesIn_eq, ← Entries.map_sorted, ← Entries.filter_sorted hn,
    List.flatMap_map]

/-- At a folder a walk lists what is below it, unless the folder is excluded. -/
theorem filesAt_folder (w : Walk) (shown : Path) (place : List Text) (es : Entries FileTree) :
    w.filesAt shown place (.folder es) =
      if w.excluded.contains place then [] else w.filesBelow shown place es := by
  rw [filesAt, filesBelow]

/-- The entries that a walk goes on to are entries of the folder, each with a name of its own. -/
theorem pairwise_entered (hn : es.keys.Nodup) :
    ((Entries.sorted es).filter isEntered).Pairwise fun a b => a.1 ≠ b.1 :=
  (List.pairwise_map.1 (Entries.nodup_keys_sorted hn)).filter _

/-- An entry that a walk enters is one of the folder's. -/
theorem mem_of_entered {e : Text × FileTree} (h : e ∈ (Entries.sorted es).filter isEntered) :
    e ∈ es ∧ isEntered e = true := by
  obtain ⟨hmem, hentered⟩ := List.mem_filter.1 h
  exact ⟨(Entries.perm_sorted es).symm.subset hmem, hentered⟩

/-! ## Places -/

/-- A path leads down from another one. -/
def Below (shown p : Path) : Prop :=
  ∃ below, p.names = shown.names ++ below ∧ ∀ name ∈ below, name ≠ Text.ofString ".."

/-- What is below a child is below the folder. -/
theorem below_of_child {name : Text} (hname : name ≠ Text.ofString "..") {p : Path}
    (h : Below (shown.child name) p) : Below shown p := by
  obtain ⟨below, hnames, hbelow⟩ := h
  refine ⟨name :: below, ?_, List.forall_mem_cons.2 ⟨hname, hbelow⟩⟩
  rw [hnames, Path.child, List.append_assoc]
  rfl

/-- Files below a folder are reached by going down, if those at its entries are. -/
theorem below_of_mem_filesBelow (hn : es.keys.Nodup)
    (hes : ∀ e ∈ es, ∀ {shown : Path} {place : List Text}, ∀ p ∈ w.filesAt shown place e.2,
      Below shown p) : ∀ p ∈ w.filesBelow shown place es, Below shown p := by
  intro p hp
  rw [filesBelow_eq w shown place hn] at hp
  obtain ⟨e, he, hp⟩ := List.mem_flatMap.1 hp
  obtain ⟨hmem, hentered⟩ := mem_of_entered he
  exact below_of_child (ne_dots_of_isEntered hentered) (hes e hmem p hp)

/-- Files that are found at an entry are reached by going down. -/
theorem below_of_mem_filesAt (t : FileTree) (h : t.Proper) : ∀ {shown : Path} {place : List Text},
    ∀ p ∈ w.filesAt shown place t, Below shown p := by
  induction t using FileTree.induct_entries with
  | file content =>
    intro shown place p hp
    rw [filesAt] at hp
    split at hp
    · rw [List.mem_singleton.1 hp]
      exact ⟨[], (List.append_nil _).symm, nofun⟩
    · cases hp
  | folder es ih =>
    intro shown place p hp
    obtain ⟨hn, hproper⟩ := FileTree.proper_folder_iff.1 h
    rw [filesAt_folder] at hp
    split at hp
    · cases hp
    · exact below_of_mem_filesBelow hn (fun e he => ih e he (hproper e he).2) p hp

/-- Files of entries with different names have different names. -/
theorem names_ne_of_below {a b : Text} (hab : a ≠ b) {p q : Path} (hp : Below (shown.child a) p)
    (hq : Below (shown.child b) q) : p.names ≠ q.names := by
  obtain ⟨below, hnames, -⟩ := hp
  obtain ⟨below', hnames', -⟩ := hq
  rw [hnames, hnames', Path.child, Path.child, List.append_assoc, List.append_assoc]
  intro heq
  exact hab (List.cons.inj (List.append_cancel_left heq)).1

/-- A walk lists no file below a folder twice if it lists none twice at an entry. -/
theorem filesBelow_pairwise (h : FileTree.Proper (.folder es))
    (hes : ∀ e ∈ es, ∀ {shown : Path} {place : List Text},
      (w.filesAt shown place e.2).Pairwise fun p q => p.names ≠ q.names) :
    (w.filesBelow shown place es).Pairwise fun p q => p.names ≠ q.names := by
  obtain ⟨hn, hproper⟩ := FileTree.proper_folder_iff.1 h
  rw [filesBelow_eq w shown place hn, List.pairwise_flatMap]
  refine ⟨fun e he => hes e (mem_of_entered he).1, ?_⟩
  refine (pairwise_entered hn).imp_of_mem fun {a b} ha hb hab p hp q hq => ?_
  exact names_ne_of_below hab
    (below_of_mem_filesAt a.2 (hproper a (mem_of_entered ha).1).2 p hp)
    (below_of_mem_filesAt b.2 (hproper b (mem_of_entered hb).1).2 q hq)

/-- No file is found twice at an entry. -/
theorem filesAt_pairwise (t : FileTree) (h : t.Proper) : ∀ {shown : Path} {place : List Text},
    (w.filesAt shown place t).Pairwise fun p q => p.names ≠ q.names := by
  induction t using FileTree.induct_entries with
  | file content =>
    intro shown place
    rw [filesAt]
    split
    · exact List.pairwise_singleton _ _
    · exact .nil
  | folder es ih =>
    intro shown place
    rw [filesAt_folder]
    split
    · exact .nil
    · exact filesBelow_pairwise h fun e he => ih e he ((FileTree.proper_folder_iff.1 h).2 e he).2

/-- Paths that go down from one path to one place are the same. -/
theorem names_eq_of_samePlace {p q : Path} (hp : Below shown p) (hq : Below shown q)
    (h : t.SamePlace p q) : p.names = q.names := by
  obtain ⟨below, hnames, hdown⟩ := hp
  obtain ⟨below', hnames', hdown'⟩ := hq
  obtain ⟨names, hfollow, hfollow'⟩ := h
  rw [hnames, FileTree.follow_append t [] _ hdown] at hfollow
  rw [hnames', FileTree.follow_append t [] _ hdown'] at hfollow'
  cases hplace : t.follow [] shown.names with
  | error f =>
    rw [hplace] at hfollow
    cases hfollow
  | ok place =>
    rw [hplace] at hfollow hfollow'
    have heq : place ++ below = place ++ below' :=
      (Except.ok.inj hfollow).trans (Except.ok.inj hfollow').symm
    rw [hnames, hnames', List.append_cancel_left heq]

/-! ## Walks -/

/-- What stands at the path where a walk starts, and where that is. -/
def startOf (t : FileTree) (root : Path) : Except FileFault (List Text × FileTree) := do
  let place ← t.follow [] root.names
  return (place, ← t.find place)

/-- A walk that starts at a file takes that file, and one that starts at a folder takes those below
it; nothing else has files. -/
theorem result_files (w : Walk) (t : FileTree) (root : Path) :
    (w.files t root).result = .ok (match startOf t root with
      | .ok (_, .file _) => if w.isWanted root.name then [root] else []
      | .ok (place, .folder es) => w.filesBelow root place es
      | .error _ => []) := by
  have hfiles : w.files t root = match startOf t root with
      | .ok (_, .file _) => pure (if w.isWanted root.name then [root] else [])
      | .ok (place, .folder es) => pure (w.filesBelow root place es)
      | .error f => do
        .warn ("Cannot list " ++ root.toText ++ ": " ++ f.message root.toText)
        return [] := rfl
  rw [hfiles]
  split
  · rfl
  · rfl
  · rfl

/-- A walk starts at the place that its path leads to, if something is there. -/
theorem startOf_eq_ok {root : Path} : startOf t root = .ok (place, u) ↔
    t.follow [] root.names = .ok place ∧ t.find place = .ok u := by
  unfold startOf
  simp only [bind_eq_ok]
  constructor
  · rintro ⟨place', hfollow, u', hfind, heq⟩
    cases heq
    exact ⟨hfollow, hfind⟩
  · rintro ⟨hfollow, hfind⟩
    exact ⟨place, hfollow, u, hfind, rfl⟩

/-- What stands at a path is what a walk from there starts with. -/
theorem at?_eq_startOf (t : FileTree) (root : Path) :
    t.at? root = (startOf t root).map Prod.snd := by
  rw [FileTree.at?, startOf]
  cases t.follow [] root.names with
  | error f => rfl
  | ok place =>
    rw [ok_bind, ok_bind]
    cases t.find place with
    | error f => rfl
    | ok u => rfl

/-- No two files of a walk stand at one place. -/
theorem places_files (h : t.Proper) {root : Path} {found : List Path}
    (hfound : (w.files t root).result = .ok found) :
    found.Pairwise fun p q => ¬ t.SamePlace p q := by
  rw [result_files] at hfound
  cases hfound
  split
  next =>
    split
    · exact List.pairwise_singleton _ _
    · exact .nil
  next place es hstart =>
    have hes := h.find (startOf_eq_ok.1 hstart).2
    obtain ⟨hn, hproper⟩ := FileTree.proper_folder_iff.1 hes
    have hbelow : ∀ p ∈ w.filesBelow root place es, Below root p :=
      below_of_mem_filesBelow hn fun e he => below_of_mem_filesAt e.2 (hproper e he).2
    have hnames : (w.filesBelow root place es).Pairwise fun p q => p.names ≠ q.names :=
      filesBelow_pairwise hes fun e he => filesAt_pairwise e.2 (hproper e he).2
    refine hnames.imp_of_mem fun hp hq hne hsame => ?_
    exact hne (names_eq_of_samePlace (hbelow _ hp) (hbelow _ hq) hsame)
  next => exact .nil

end Localization.Extraction.Walk
