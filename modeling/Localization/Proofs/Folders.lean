import Localization.Proofs.Files

/-!
# Making folders

Making folders takes nothing away: every file stays the same and every folder stays one
(`related_makeFolder`). Double dots in a path lead the same way as long as folders stay folders
(`follow_of_related`), and writing a file leaves the folders alone (`related_put`). So what is
written is read again at its path (`readBytes_of_writeBytes`), also after more folders are made
(`readBytes_of_related`).
-/

namespace Localization.FileTree

variable {t t' u x : FileTree} {es : Entries FileTree} {name : Text} {names : List Text} {p : Path}
  {bytes : List UInt8} {R R' : FileTree → FileTree → Prop}

/-- What stands in a tree has something in its place in another one, as a relation wants it. -/
def Related (R : FileTree → FileTree → Prop) (t t' : FileTree) : Prop :=
  ∀ names u, t.find names = .ok u → ∃ u', t'.find names = .ok u' ∧ R u u'

/-- A folder stays a folder. -/
def StaysFolder (u u' : FileTree) : Prop := u.isFolder = true → u'.isFolder = true

/-- A folder stays a folder, and a file stays the same. -/
def Stays (u u' : FileTree) : Prop := u.isFolder = true ∧ u'.isFolder = true ∨ u' = u

/-- What stays stays a folder if it is one. -/
theorem Stays.staysFolder (h : Stays t u) : StaysFolder t u := by
  rcases h with h | rfl
  · exact fun _ => h.2
  · exact id

/-- Trees related by one relation are so by a weaker one. -/
theorem Related.mono (h : Related R t t') (himp : ∀ u u', R u u' → R' u u') : Related R' t t' :=
  fun names u hu =>
    have ⟨u', hu', hr⟩ := h names u hu
    ⟨u', hu', himp u u' hr⟩

/-- A tree is related to itself by a reflexive relation. -/
theorem related_refl (hrefl : ∀ u, R u u) (t : FileTree) : Related R t t :=
  fun _ u hu => ⟨u, hu, hrefl u⟩

/-- An entry of a folder is replaced by one that is related to it. -/
theorem related_set (hrefl : ∀ u, R u u) (hfolder : ∀ es es', R (.folder es) (.folder es'))
    (h : ∀ below, Entries.get? es name = some below → Related R below u) :
    Related R (.folder es) (.folder (Entries.set es name u)) := by
  intro names v hv
  cases names with
  | nil =>
    rw [find] at hv
    cases hv
    exact ⟨_, by rw [find], hfolder _ _⟩
  | cons first names =>
    rw [find] at hv
    split at hv
    · cases hv
    next hfits =>
      split at hv
      next below hget =>
        rw [find, if_neg hfits]
        by_cases hname : first = name
        · subst hname
          rw [Entries.get?_set_self]
          exact h below hget names v hv
        · rw [Entries.get?_set_of_ne _ _ (Ne.symm hname), hget]
          exact ⟨v, hv, hrefl v⟩
      · cases hv

/-! ## Making folders -/

/-- Making a folder keeps what is there. -/
theorem related_makeFolder (h : t.makeFolder names = .ok t') : Related Stays t t' := by
  induction names generalizing t t' with
  | nil =>
    cases t with
    | file b => cases h
    | folder es =>
      cases h
      exact related_refl (fun _ => .inr rfl) _
  | cons name names ih =>
    cases t with
    | file b => cases h
    | folder es =>
      rw [makeFolder] at h
      split at h
      · cases h
      next hfits =>
        obtain ⟨u, hu, rfl⟩ := map_eq_ok.1 h
        refine related_set (fun _ => .inr rfl) (fun _ _ => .inl ⟨rfl, rfl⟩) fun below hget => ?_
        rw [hget, Option.getD_some] at hu
        exact ih hu

/-- A folder that is made is there. -/
theorem find_makeFolder (h : t.makeFolder names = .ok t') :
    ∃ es, t'.find names = .ok (.folder es) := by
  induction names generalizing t t' with
  | nil =>
    cases t with
    | file b => cases h
    | folder es =>
      cases h
      exact ⟨es, by rw [find]⟩
  | cons name names ih =>
    cases t with
    | file b => cases h
    | folder es =>
      rw [makeFolder] at h
      split at h
      · cases h
      next hfits =>
        obtain ⟨u, hu, rfl⟩ := map_eq_ok.1 h
        rw [find, if_neg hfits, Entries.get?_set_self]
        exact ih hu

/-! ## Writing files -/

/-- There are no folders in a file. -/
theorem related_file (bytes : List UInt8) (x : FileTree) : Related StaysFolder (.file bytes) x := by
  intro names u hu
  cases names with
  | nil =>
    rw [find] at hu
    cases hu
    refine ⟨x, by rw [find], fun hfolder => ?_⟩
    cases hfolder
  | cons name names => cases hu

/-- What is put where no folder was leaves the folders alone. -/
theorem related_put (h : put x t names = .ok t') (hplace : ∀ es, t.find names ≠ .ok (.folder es)) :
    Related StaysFolder t t' := by
  induction names generalizing t t' with
  | nil =>
    cases t with
    | file b => exact related_file b t'
    | folder es => exact absurd (by rw [find]) (hplace es)
  | cons name names ih =>
    cases t with
    | file b => cases h
    | folder es =>
      have hset : ∃ u, t' = .folder (Entries.set es name u) ∧
          ∀ below, Entries.get? es name = some below → Related StaysFolder below u := by
        by_cases hnames : names = []
        · subst hnames
          rw [put] at h
          split at h
          · cases h
          next hfits =>
            cases h
            refine ⟨x, rfl, fun below hget => ?_⟩
            cases below with
            | file b => exact related_file b x
            | folder es' =>
              refine absurd ?_ (hplace es')
              rw [find, if_neg hfits, hget]
              simp only [find]
        · obtain ⟨hfits, below, below', hget, hbelow, rfl⟩ := (put_cons_eq_ok hnames).1 h
          refine ⟨below', rfl, fun v hv => ?_⟩
          cases hget.symm.trans hv
          refine ih hbelow fun es' hfind => hplace es' ?_
          rw [find, if_neg (by simp [hfits]), hget]
          exact hfind
      obtain ⟨u, rfl, hu⟩ := hset
      exact related_set (fun _ => id) (fun _ _ _ => rfl) hu

/-! ## Reading -/

/-- A folder is found where folders stay folders. -/
theorem find_of_isFolder (h : Related StaysFolder t t') (hfind : t.find names = .ok (.folder es)) :
    ∃ es', t'.find names = .ok (.folder es') := by
  obtain ⟨u, hu, hstays⟩ := h names _ hfind
  cases u with
  | file b => cases hstays rfl
  | folder es' => exact ⟨es', hu⟩

/-- Double dots lead the same way as long as folders stay folders. -/
theorem follow_of_related (h : Related StaysFolder t t') {above ns : List Text}
    (hfollow : t.follow above names = .ok ns) : t'.follow above names = .ok ns := by
  induction names generalizing above with
  | nil => exact hfollow
  | cons name names ih =>
    rw [follow] at hfollow ⊢
    split
    next hdots =>
      rw [if_pos hdots] at hfollow
      split at hfollow
      next es hfolder =>
        obtain ⟨es', hfolder'⟩ := find_of_isFolder h hfolder
        rw [hfolder']
        exact ih hfollow
      · cases hfollow
      · cases hfollow
    next hname =>
      rw [if_neg hname] at hfollow
      exact ih hfollow

/-- What is written to a path is read there, also if it leads by double dots. -/
theorem readBytes_of_writeBytes (h : t.writeBytes p bytes = .ok t') :
    t'.readBytes p = .ok bytes := by
  obtain ⟨ns, hfollow, h⟩ := bind_eq_ok.1 h
  split at h
  · cases h
  next hplace =>
    have hfollow' := follow_of_related (related_put h hplace) hfollow
    rw [readBytes, at?, hfollow', ok_bind, find_put h]
    rfl

/-- A file is read as before when folders were made. -/
theorem readBytes_of_related (h : Related Stays t t') (hread : t.readBytes p = .ok bytes) :
    t'.readBytes p = .ok bytes := by
  obtain ⟨u, hu, hread⟩ := bind_eq_ok.1 hread
  obtain ⟨ns, hfollow, hfind⟩ := bind_eq_ok.1 hu
  cases u with
  | folder es => cases hread
  | file bytes' =>
    cases hread
    obtain ⟨u', hu', hstays⟩ := h ns _ hfind
    obtain rfl : u' = .file bytes := hstays.resolve_left fun hfolder => by cases hfolder.1
    have hfollow' := follow_of_related (h.mono fun _ _ => Stays.staysFolder) hfollow
    rw [readBytes, at?, hfollow', ok_bind, hu']
    rfl

end Localization.FileTree
