import Localization.Proofs.Files
import Localization.Proofs.Results

/-!
# Writing over files

A write to a file that is there changes what the file holds and nothing else. Two things are kept
apart to say so: the tree without its contents (`bare`), which decides where paths lead and what is
listed in folders, and the content at every place (`contentAt`). A write over a file leaves the
first as it is and sets the second at one place (`writeBytes_of_readBytes`).

A tree that a file system can hold is proper: a folder has no name twice, and no name is too long.
-/

namespace Localization.FileTree

variable {t t' : FileTree} {names : List Text} {p q : Path}

/-! ## Trees without contents -/

mutual

/-- A tree with nothing in its files. -/
def bare : FileTree → FileTree
  | .file _ => .file []
  | .folder es => .folder (bareEntries es)

/-- The entries of a folder with nothing in their files. -/
def bareEntries : List (Text × FileTree) → List (Text × FileTree)
  | [] => []
  | (name, t) :: rest => (name, t.bare) :: bareEntries rest

end

/-- Stripping entries strips each of them under its name. -/
theorem bareEntries_eq (es : Entries FileTree) :
    bareEntries es = es.map fun e => (e.1, e.2.bare) := by
  induction es with
  | nil => rw [bareEntries, List.map_nil]
  | cons e es ih => rw [bareEntries, ih, List.map_cons]

/-- Under a name, stripped entries hold the stripped tree. -/
theorem get?_bareEntries (es : Entries FileTree) (name : Text) :
    Entries.get? (bareEntries es) name = (Entries.get? es name).map bare := by
  induction es with
  | nil =>
    rw [bareEntries]
    rfl
  | cons e es ih =>
    rw [bareEntries, Entries.get?, Entries.get?]
    split
    · rfl
    · exact ih

/-- Stripping entries after a change is changing them after stripping. -/
theorem bareEntries_set (es : Entries FileTree) (name : Text) (u : FileTree) :
    bareEntries (Entries.set es name u) = Entries.set (bareEntries es) name u.bare := by
  induction es with
  | nil => simp only [Entries.set, bareEntries]
  | cons e es ih =>
    rw [Entries.set, bareEntries, Entries.set]
    split
    · rw [bareEntries]
    · rw [bareEntries, ih]

/-- What stands in the bare tree is what stands in the tree, without contents. -/
theorem find_bare (t : FileTree) (names : List Text) :
    t.bare.find names = (t.find names).map bare := by
  induction names generalizing t with
  | nil => simp only [find, Except.map]
  | cons name names ih =>
    cases t with
    | file content => rfl
    | folder es =>
      rw [bare, find, find, get?_bareEntries]
      split
      · rfl
      · cases Entries.get? es name with
        | none => rfl
        | some u => exact ih u

/-- A path leads to the same place in the bare tree. -/
theorem follow_bare (t : FileTree) (above names : List Text) :
    t.bare.follow above names = t.follow above names := by
  induction names generalizing above with
  | nil => rw [follow, follow]
  | cons name names ih =>
    rw [follow, follow, find_bare, ih, ih]
    split
    · cases t.find above.reverse with
      | error f => rfl
      | ok u => cases u <;> rfl
    · rfl

/-- Where a path leads depends on names and kinds only. -/
theorem follow_congr (h : t'.bare = t.bare) (above names : List Text) :
    t'.follow above names = t.follow above names := by
  rw [← follow_bare, h, follow_bare]

/-- A path goes on from where its first part leads, if its second part leads down only. -/
theorem follow_append (t : FileTree) (above names : List Text) {below : List Text}
    (h : ∀ name ∈ below, name ≠ Text.ofString "..") :
    t.follow above (names ++ below) = (t.follow above names).map (· ++ below) := by
  induction names generalizing above with
  | nil => rw [List.nil_append, follow_of_plain t h, follow, Except.map]
  | cons name names ih =>
    rw [List.cons_append, follow, follow, ih, ih]
    split
    · cases t.find above.reverse with
      | error f => rfl
      | ok u => cases u <;> rfl
    · rfl

/-! ## Proper trees -/

/-- Induction over a tree by the entries of its folders. -/
@[elab_as_elim]
theorem induct_entries {motive : FileTree → Prop} (file : ∀ content, motive (.file content))
    (folder : ∀ es, (∀ e ∈ es, motive e.2) → motive (.folder es)) : ∀ t, motive t
  | .file content => file content
  | .folder es => folder es fun e _he => induct_entries file folder e.2
termination_by t => sizeOf t
decreasing_by
  have hentry : sizeOf e < sizeOf es := List.sizeOf_lt_of_mem _he
  obtain ⟨name, t⟩ := e
  simp only [Prod.mk.sizeOf_spec, FileTree.folder.sizeOf_spec] at hentry ⊢
  omega

mutual

/-- No folder has a name twice, and no name is too long. -/
def Proper : FileTree → Prop
  | .file _ => True
  | .folder es => ProperEntries es

/-- No name among these entries and below them stands twice in its folder or is too long. -/
def ProperEntries : List (Text × FileTree) → Prop
  | [] => True
  | (name, t) :: rest =>
    name ∉ rest.map Prod.fst ∧ isTooLong name = false ∧ t.Proper ∧ ProperEntries rest

end

/-- A folder is proper if its names are told apart and short enough, and its entries are proper. -/
theorem proper_folder_iff {es : Entries FileTree} :
    Proper (.folder es) ↔ es.keys.Nodup ∧ ∀ e ∈ es, isTooLong e.1 = false ∧ e.2.Proper := by
  rw [Proper]
  induction es with
  | nil => simp [ProperEntries, Entries.keys]
  | cons e es ih =>
    have hkeys : (Entries.keys (e :: es)).Nodup ↔
        e.1 ∉ es.map Prod.fst ∧ (Entries.keys es).Nodup := List.nodup_cons
    rw [ProperEntries, ih, hkeys, List.forall_mem_cons]
    tauto

/-- An entry of a proper folder is found by its name. -/
theorem find_entry {es : Entries FileTree} (h : t.find names = .ok (.folder es))
    (hes : Proper (.folder es)) {e : Text × FileTree} (he : e ∈ es) :
    t.find (names ++ [e.1]) = .ok e.2 := by
  obtain ⟨hnodup, hproper⟩ := proper_folder_iff.1 hes
  rw [find_child h, entry, if_neg (by simp [(hproper e he).1]), Entries.get?_of_mem hnodup he]

/-- What stands in a proper tree is proper. -/
theorem Proper.find (h : t.Proper) {u : FileTree} (hfind : t.find names = .ok u) : u.Proper := by
  induction names generalizing t with
  | nil =>
    rw [FileTree.find] at hfind
    cases hfind
    exact h
  | cons name names ih =>
    cases t with
    | file content => cases hfind
    | folder es =>
      rw [FileTree.find] at hfind
      split at hfind
      · cases hfind
      · split at hfind
        next below hbelow =>
          exact ih ((proper_folder_iff.1 h).2 _ (Entries.mem_of_get? hbelow)).2 hfind
        · cases hfind

/-! ## Contents -/

/-- What the file at a place holds. -/
def contentAt (t : FileTree) (names : List Text) : Except FileFault (List UInt8) :=
  t.find names >>= fun u =>
    match u with
    | .file bytes => .ok bytes
    | .folder _ => .error .isAFolder

/-- A file is read where its path leads. -/
theorem readBytes_eq (t : FileTree) (p : Path) :
    t.readBytes p = t.follow [] p.names >>= t.contentAt := by
  rw [readBytes, at?]
  cases t.follow [] p.names with
  | error f => rfl
  | ok names => rfl

/-- The content at a place is that of a file there. -/
theorem contentAt_eq_ok {bytes : List UInt8} :
    t.contentAt names = .ok bytes ↔ t.find names = .ok (.file bytes) := by
  rw [contentAt, bind_eq_ok]
  constructor
  · rintro ⟨u, hu, hfile⟩
    cases u with
    | file content =>
      cases hfile
      exact hu
    | folder es => cases hfile
  · intro h
    exact ⟨_, h, rfl⟩

/-- Below a name that is there, putting goes on in what stands at the name. -/
theorem put_of_get? {es : Entries FileTree} {name : Text} {below : FileTree} (x : FileTree)
    (hname : isTooLong name = false) (h : Entries.get? es name = some below) (names : List Text) :
    put x (.folder es) (name :: names) =
      (put x below names).map fun u => .folder (Entries.set es name u) := by
  cases names with
  | nil =>
    have hnil : put x below [] = .ok x := by rw [put]
    rw [hnil, put, if_neg (by simp [hname])]
    rfl
  | cons next names =>
    rw [put, if_neg (by simp [hname]), h]
    exact List.cons_ne_nil _ _

/-- A place in a folder goes through the entry of its first name. -/
theorem contentAt_folder_cons (es : Entries FileTree) {name : Text} (hname : isTooLong name = false)
    (names : List Text) : contentAt (.folder es) (name :: names) =
      match Entries.get? es name with
      | some u => u.contentAt names
      | none => .error .notFound := by
  rw [contentAt, find, if_neg (by simp [hname])]
  cases Entries.get? es name with
  | none => rfl
  | some u => rfl

/-- If a folder's entry changes at one place only, then so does the folder. -/
theorem contentAt_set {es : Entries FileTree} {name : Text} {below below' : FileTree}
    (hname : isTooLong name = false) (hbelow : Entries.get? es name = some below)
    (h : ∀ other, other ≠ names → below'.contentAt other = below.contentAt other)
    {other : List Text} (hother : other ≠ name :: names) :
    contentAt (.folder (Entries.set es name below')) other = contentAt (.folder es) other := by
  cases other with
  | nil => rfl
  | cons first other =>
    by_cases hfirst : name = first
    · subst hfirst
      rw [contentAt_folder_cons _ hname, contentAt_folder_cons _ hname, Entries.get?_set_self,
        hbelow]
      exact h other fun heq => hother (by rw [heq])
    · rw [contentAt, contentAt, find, find, Entries.get?_set_of_ne _ _ hfirst]

/-- Bytes that are put over a file are found there; no other place and no name changes. -/
theorem put_over_file {old : List UInt8} (h : t.find names = .ok (.file old))
    (bytes : List UInt8) :
    ∃ t', put (.file bytes) t names = .ok t' ∧ t'.bare = t.bare ∧
      t'.find names = .ok (.file bytes) ∧
      ∀ other, other ≠ names → t'.contentAt other = t.contentAt other := by
  induction names generalizing t with
  | nil =>
    obtain rfl : t = .file old := by simpa [find] using h
    refine ⟨.file bytes, by rw [put], by rw [bare, bare], by rw [find], fun other hother => ?_⟩
    obtain ⟨name, rest, rfl⟩ := List.exists_cons_of_ne_nil hother
    rfl
  | cons name names ih =>
    cases t with
    | file content => cases h
    | folder es =>
      rw [find] at h
      split at h
      · cases h
      next hlong =>
        have hname : isTooLong name = false := by simpa using hlong
        split at h
        next below hbelow =>
          obtain ⟨below', hput, hbare, hfind, hothers⟩ := ih h
          have hsame : Entries.get? (bareEntries es) name = some below'.bare := by
            rw [get?_bareEntries, hbelow, hbare]
            rfl
          refine ⟨.folder (Entries.set es name below'), ?_, ?_, ?_,
            fun other => contentAt_set hname hbelow hothers⟩
          · rw [put_of_get? _ hname hbelow, hput]
            rfl
          · rw [bare, bare, bareEntries_set, Entries.set_of_get? hsame]
          · rw [find, if_neg hlong, Entries.get?_set_self]
            exact hfind
        · cases h

/-! ## Writing -/

/-- Two paths lead to one place. -/
def SamePlace (t : FileTree) (p q : Path) : Prop :=
  ∃ names, t.follow [] p.names = .ok names ∧ t.follow [] q.names = .ok names

/-- A file that can be read can be written. What was written is read back, at other places nothing
changes, and the names in the tree stay as they are. -/
theorem writeBytes_of_readBytes {old : List UInt8} (h : t.readBytes p = .ok old)
    (bytes : List UInt8) :
    ∃ t', t.writeBytes p bytes = .ok t' ∧ t'.bare = t.bare ∧ t'.readBytes p = .ok bytes ∧
      ∀ q, ¬ t.SamePlace p q → t'.readBytes q = t.readBytes q := by
  rw [readBytes_eq] at h
  obtain ⟨names, hfollow, hcontent⟩ := bind_eq_ok.1 h
  have hfile := contentAt_eq_ok.1 hcontent
  obtain ⟨t', hput, hbare, hfind, hothers⟩ := put_over_file hfile bytes
  refine ⟨t', ?_, hbare, ?_, fun q hq => ?_⟩
  · rw [writeBytes, hfollow, ok_bind, hfile]
    exact hput
  · rw [readBytes_eq, follow_congr hbare, hfollow, ok_bind, contentAt_eq_ok]
    exact hfind
  · rw [readBytes_eq, readBytes_eq, follow_congr hbare]
    cases hother : t.follow [] q.names with
    | error f => rfl
    | ok other =>
      refine hothers other fun heq => hq ⟨names, hfollow, ?_⟩
      rw [hother, heq]

end Localization.FileTree
