import Localization.Files
import Localization.Proofs.Entries
import Localization.Proofs.Results

/-!
# Entries of a folder

What the operations on a tree of files do, seen from one folder of it: finding, writing and removing
at a name below the folder are reading, setting and filtering its entries. What was put under a new
name can be taken away again, and then the tree is as it was. A path without double dots leads where
its names say.
-/

namespace Localization

/-- The names of a path lead down only. -/
def Path.Plain (p : Path) : Prop := ∀ name ∈ p.names, name ≠ Text.ofString ".."

/-- A plain path stays plain by a name that does not lead up. -/
theorem Path.Plain.child {p : Path} (h : p.Plain) {name : Text} (hn : name ≠ Text.ofString "..") :
    (p.child name).Plain := by
  intro m hm
  rcases List.mem_append.1 hm with hm | hm
  · exact h m hm
  · rwa [List.mem_singleton.1 hm]

namespace FileTree

/-- Names that do not lead up are followed as they stand. -/
theorem follow_of_plain (root : FileTree) {names : List Text}
    (h : ∀ name ∈ names, name ≠ Text.ofString "..") (above : List Text) :
    follow root above names = .ok (above.reverse ++ names) := by
  induction names generalizing above with
  | nil => rw [follow, List.append_nil]
  | cons name names ih =>
    rw [follow, if_neg (h name List.mem_cons_self), ih fun m hm => h m (List.mem_cons_of_mem _ hm)]
    simp

/-- A path without double dots leads where its names say. -/
theorem at?_of_plain (root : FileTree) {p : Path} (h : p.Plain) :
    root.at? p = root.find p.names := by
  rw [at?, follow_of_plain root h]
  rfl

/-! ## One name below a folder -/

/-- What stands at a name in the entries of a folder. -/
def entry (es : Entries FileTree) (name : Text) : Except FileFault FileTree :=
  if isTooLong name then .error .nameTooLong
  else
    match Entries.get? es name with
    | some t => .ok t
    | none => .error .notFound

/-- What stands at one more name is the entry of the folder in front. -/
theorem find_child {t : FileTree} {names : List Text} {es : Entries FileTree}
    (h : t.find names = .ok (.folder es)) (name : Text) :
    t.find (names ++ [name]) = entry es name := by
  induction names generalizing t with
  | nil =>
    rw [find] at h
    cases h
    rw [List.nil_append, find, entry]
    split
    · rfl
    · cases Entries.get? es name with
      | none => rfl
      | some u => simp only [find]
  | cons first names ih =>
    cases t with
    | file content => cases h
    | folder top =>
      rw [find] at h
      split at h
      · cases h
      next hlong =>
        split at h
        next u hu =>
          rw [List.cons_append, find, if_neg hlong, hu]
          exact ih h
        · cases h

/-- A folder that has something below it is a folder. -/
theorem find_of_find_child {t u : FileTree} {names : List Text} {name : Text}
    (h : t.find (names ++ [name]) = .ok u) :
    ∃ es, t.find names = .ok (.folder es) ∧ entry es name = .ok u := by
  suffices hfolder : ∃ es, t.find names = .ok (.folder es) by
    obtain ⟨es, hes⟩ := hfolder
    exact ⟨es, hes, find_child hes name ▸ h⟩
  induction names generalizing t with
  | nil =>
    cases t with
    | file content => cases h
    | folder es => exact ⟨es, by rw [find]⟩
  | cons first names ih =>
    cases t with
    | file content => cases h
    | folder top =>
      rw [List.cons_append, find] at h
      split at h
      · cases h
      next hlong =>
        split at h
        next v hv =>
          rw [find, if_neg hlong, hv]
          exact ih h
        · cases h

/-- Putting something at a name of a folder sets that entry. -/
theorem put_child (x : FileTree) {t : FileTree} {names : List Text} {es : Entries FileTree}
    (h : t.find names = .ok (.folder es)) {name : Text} (hname : isTooLong name = false) :
    ∃ t', put x t (names ++ [name]) = .ok t' ∧
      t'.find names = .ok (.folder (Entries.set es name x)) := by
  induction names generalizing t with
  | nil =>
    rw [find] at h
    cases h
    refine ⟨_, ?_, by rw [find]⟩
    rw [List.nil_append, put, if_neg (by simp [hname])]
  | cons first names ih =>
    cases t with
    | file content => cases h
    | folder top =>
      rw [find] at h
      split at h
      · cases h
      next hlong =>
        split at h
        next u hu =>
          obtain ⟨u', hput, hfind⟩ := ih h
          refine ⟨.folder (Entries.set top first u'), ?_, ?_⟩
          · rw [List.cons_append, put, if_neg hlong, hu]
            · simp only [hput]
              rfl
            · exact List.append_ne_nil_of_right_ne_nil _ (List.cons_ne_nil _ _)
          · rw [find, if_neg hlong, Entries.get?_set_self]
            exact hfind
        · cases h

/-- Nothing is put at a name that is too long. -/
theorem put_child_of_isTooLong (x : FileTree) {t : FileTree} {names : List Text}
    {es : Entries FileTree} (h : t.find names = .ok (.folder es)) {name : Text}
    (hname : isTooLong name = true) : put x t (names ++ [name]) = .error .nameTooLong := by
  induction names generalizing t with
  | nil =>
    rw [find] at h
    cases h
    rw [List.nil_append, put, if_pos hname]
  | cons first names ih =>
    cases t with
    | file content => cases h
    | folder top =>
      rw [find] at h
      split at h
      · cases h
      next hlong =>
        split at h
        next u hu =>
          rw [List.cons_append, put, if_neg hlong, hu]
          · simp only [ih h]
            rfl
          · exact List.append_ne_nil_of_right_ne_nil _ (List.cons_ne_nil _ _)
        · cases h

/-- Removing what stands at a name of a folder removes that entry. -/
theorem remove_child {t : FileTree} {names : List Text} {es : Entries FileTree}
    (h : t.find names = .ok (.folder es)) {name : Text} (hname : Entries.has es name = true) :
    ∃ t', t.remove (names ++ [name]) = .ok t' ∧
      t'.find names = .ok (.folder (es.filter (·.1 ≠ name))) := by
  induction names generalizing t with
  | nil =>
    rw [find] at h
    cases h
    refine ⟨_, ?_, by rw [find]⟩
    rw [List.nil_append, remove, if_pos hname]
  | cons first names ih =>
    cases t with
    | file content => cases h
    | folder top =>
      rw [find] at h
      split at h
      · cases h
      next hlong =>
        split at h
        next u hu =>
          obtain ⟨u', hremove, hfind⟩ := ih h
          refine ⟨.folder (Entries.set top first u'), ?_, ?_⟩
          · rw [List.cons_append, remove, hu]
            · simp only [hremove]
              rfl
            · exact List.append_ne_nil_of_right_ne_nil _ (List.cons_ne_nil _ _)
          · rw [find, if_neg hlong, Entries.get?_set_self]
            exact hfind
        · cases h

/-! ## What was put can be taken away -/

/-- Putting something behind a name changes the entry of that name and no other. -/
theorem put_cons (x : FileTree) (es : Entries FileTree) (name : Text) {names : List Text}
    (h : names ≠ []) : put x (.folder es) (name :: names) =
      if isTooLong name then .error .nameTooLong
      else
        match Entries.get? es name with
        | none => .error .notFound
        | some below => (put x below names).map fun below' =>
            .folder (Entries.set es name below') := by
  obtain ⟨first, names, rfl⟩ := List.exists_cons_of_ne_nil h
  rfl

/-- Removing something behind a name changes the entry of that name and no other. -/
theorem remove_cons (es : Entries FileTree) (name : Text) {names : List Text} (h : names ≠ []) :
    remove (.folder es) (name :: names) =
      match Entries.get? es name with
      | none => .error .notFound
      | some below => (below.remove names).map fun below' =>
          .folder (Entries.set es name below') := by
  obtain ⟨first, names, rfl⟩ := List.exists_cons_of_ne_nil h
  rfl

/-- What is put below a name is put in what the name stands for. -/
theorem put_cons_eq_ok {x t' : FileTree} {es : Entries FileTree} {name : Text} {names : List Text}
    (h : names ≠ []) : put x (.folder es) (name :: names) = .ok t' ↔
      isTooLong name = false ∧ ∃ below below', Entries.get? es name = some below ∧
        put x below names = .ok below' ∧ t' = .folder (Entries.set es name below') := by
  rw [put_cons x es name h]
  cases isTooLong name with
  | true => simp
  | false =>
    cases Entries.get? es name with
    | none => simp
    | some below => simp [map_eq_ok, eq_comm (a := t')]

/-- Only a folder takes in something new. -/
theorem find_of_put_child {x t t' : FileTree} {names : List Text} {name : Text}
    (h : put x t (names ++ [name]) = .ok t') : ∃ es, t.find names = .ok (.folder es) := by
  induction names generalizing t t' with
  | nil =>
    cases t with
    | file content => cases h
    | folder es => exact ⟨es, by rw [find]⟩
  | cons first names ih =>
    cases t with
    | file content => cases h
    | folder top =>
      obtain ⟨hlong, below, below', hbelow, hput, -⟩ := (put_cons_eq_ok (by simp)).1 h
      rw [find, hlong, hbelow]
      exact ih hput

/-- What was put somewhere is found there. -/
theorem find_put {x t t' : FileTree} {names : List Text} (h : put x t names = .ok t') :
    t'.find names = .ok x := by
  induction names generalizing t t' with
  | nil =>
    rw [put] at h
    cases h
    rw [find]
  | cons first names ih =>
    cases t with
    | file content => cases h
    | folder es =>
      by_cases hnames : names = []
      · subst hnames
        rw [put] at h
        split at h
        · cases h
        next hlong =>
          cases h
          rw [find, if_neg hlong, Entries.get?_set_self]
          simp only [find]
      · obtain ⟨hlong, below, below', hbelow, hput, rfl⟩ := (put_cons_eq_ok hnames).1 h
        rw [find, hlong, Entries.get?_set_self]
        exact ih hput

/-- Of two things that are put at one place the second one counts. -/
theorem put_put {x y t t' : FileTree} {names : List Text} (h : put x t names = .ok t') :
    put y t' names = put y t names := by
  induction names generalizing t t' with
  | nil => rw [put, put]
  | cons first names ih =>
    cases t with
    | file content => cases h
    | folder es =>
      by_cases hnames : names = []
      · subst hnames
        rw [put] at h ⊢
        split at h
        · cases h
        next hlong =>
          cases h
          rw [put, if_neg hlong, if_neg hlong, Entries.set_set]
      · obtain ⟨hlong, below, below', hbelow, hput, rfl⟩ := (put_cons_eq_ok hnames).1 h
        rw [put_cons y _ _ hnames, put_cons y _ _ hnames, Entries.get?_set_self, hbelow]
        simp only [ih hput, Entries.set_set]

/-- Removing what was put under a new name brings back the tree as it was. -/
theorem remove_of_put {x t t' : FileTree} {names : List Text} {es : Entries FileTree} {name : Text}
    (h : t.find names = .ok (.folder es)) (hfree : name ∉ es.keys)
    (hput : put x t (names ++ [name]) = .ok t') : t'.remove (names ++ [name]) = .ok t := by
  induction names generalizing t t' with
  | nil =>
    rw [find] at h
    cases h
    rw [List.nil_append, put] at hput
    split at hput
    · cases hput
    · cases hput
      have hhas : Entries.has (Entries.set es name x) name = true := by
        rw [Entries.has, Entries.get?_set_self]
        rfl
      have hkept : es.filter (·.1 ≠ name) = es := by
        refine List.filter_eq_self.2 fun e he => decide_eq_true ?_
        rintro rfl
        exact hfree (Entries.mem_keys_of_mem he)
      rw [List.nil_append, remove, if_pos hhas, Entries.set_of_not_mem es x hfree,
        List.filter_append, hkept]
      simp
  | cons first names ih =>
    cases t with
    | file content => cases h
    | folder top =>
      have hnames : names ++ [name] ≠ [] := by simp
      obtain ⟨hlong, below, below', hbelow, hput', rfl⟩ := (put_cons_eq_ok hnames).1 hput
      rw [find, hlong, hbelow] at h
      rw [List.cons_append, remove_cons _ _ hnames, Entries.get?_set_self]
      simp only [ih h hput', Except.map, Entries.set_set, Entries.set_of_get? hbelow]

/-! ## Files of a folder -/

variable {root : FileTree} {base : Path} {es : Entries FileTree} {name : Text}

/-- What stands at a name below a folder. -/
theorem at?_child (hbase : base.Plain) (h : root.find base.names = .ok (.folder es))
    (hdots : name ≠ Text.ofString "..") : root.at? (base.child name) = entry es name := by
  rw [at?_of_plain root (hbase.child hdots)]
  exact find_child h name

/-- Writing to a path puts the bytes there, unless a folder stands there. -/
theorem writeBytes_of_plain (root : FileTree) {p : Path} (hp : p.Plain) (bytes : List UInt8) :
    root.writeBytes p bytes =
      match root.find p.names with
      | .ok (.folder _) => .error .isAFolder
      | _ => put (.file bytes) root p.names := by
  rw [writeBytes, follow_of_plain root hp []]
  rfl

/-- Writing to a path below a folder puts the bytes there, unless a folder stands there. -/
theorem writeBytes_eq (hbase : base.Plain) (hdots : name ≠ Text.ofString "..")
    (h : root.find base.names = .ok (.folder es)) (bytes : List UInt8) :
    root.writeBytes (base.child name) bytes =
      match entry es name with
      | .ok (.folder _) => .error .isAFolder
      | _ => put (.file bytes) root (base.names ++ [name]) := by
  rw [writeBytes_of_plain root (hbase.child hdots) bytes, ← find_child h name]
  rfl

/-- What was written to a path was put there. -/
theorem put_of_writeBytes {p : Path} (hp : p.Plain) {bytes : List UInt8} {root' : FileTree}
    (h : root.writeBytes p bytes = .ok root') : put (.file bytes) root p.names = .ok root' := by
  rw [writeBytes_of_plain root hp] at h
  split at h
  · cases h
  · exact h

/-- Of two writings to a path the second one counts. -/
theorem writeBytes_again {p : Path} (hp : p.Plain) {bytes : List UInt8} {root' : FileTree}
    (h : root.writeBytes p bytes = .ok root') (bytes' : List UInt8) :
    root'.writeBytes p bytes' = root.writeBytes p bytes' := by
  have hput := put_of_writeBytes hp h
  rw [writeBytes_of_plain root hp] at h ⊢
  rw [writeBytes_of_plain root' hp, find_put hput]
  dsimp only
  rw [put_put hput]
  split at h
  · cases h
  · rfl

/-- Writing a file in a folder sets its entry. -/
theorem writeBytes_child (hbase : base.Plain) (h : root.find base.names = .ok (.folder es))
    (hdots : name ≠ Text.ofString "..") (hname : isTooLong name = false)
    (hfree : ∀ below, Entries.get? es name ≠ some (.folder below)) (bytes : List UInt8) :
    ∃ root', root.writeBytes (base.child name) bytes = .ok root' ∧
      root'.find base.names = .ok (.folder (Entries.set es name (.file bytes))) := by
  obtain ⟨root', hput, hfind⟩ := put_child (.file bytes) h hname
  refine ⟨root', ?_, hfind⟩
  rw [writeBytes_eq hbase hdots h, entry, if_neg (by simp [hname])]
  cases hget : Entries.get? es name with
  | none => exact hput
  | some u =>
    cases u with
    | file content => exact hput
    | folder below => exact absurd hget (hfree below)

/-- A file can only be written under a name that is not too long and where no folder stands. -/
theorem fits_of_writeBytes (hbase : base.Plain) (h : root.find base.names = .ok (.folder es))
    (hdots : name ≠ Text.ofString "..") {bytes : List UInt8} {root' : FileTree}
    (hwrite : root.writeBytes (base.child name) bytes = .ok root') :
    isTooLong name = false ∧ ∀ below, Entries.get? es name ≠ some (.folder below) := by
  rw [writeBytes_eq hbase hdots h, entry] at hwrite
  cases hname : isTooLong name with
  | true =>
    rw [hname, if_pos rfl] at hwrite
    dsimp only at hwrite
    rw [put_child_of_isTooLong _ h hname] at hwrite
    cases hwrite
  | false =>
    refine ⟨rfl, fun below hget => ?_⟩
    rw [hname, if_neg (by simp), hget] at hwrite
    cases hwrite

/-- A file in a folder is read from its entry. -/
theorem readBytes_child (hbase : base.Plain) (h : root.find base.names = .ok (.folder es))
    (hdots : name ≠ Text.ofString "..") (hname : isTooLong name = false) {bytes : List UInt8}
    (hfile : Entries.get? es name = some (.file bytes)) :
    root.readBytes (base.child name) = .ok bytes := by
  rw [readBytes, at?_child hbase h hdots, entry, if_neg (by simp [hname]), hfile]
  rfl

end FileTree

end Localization
