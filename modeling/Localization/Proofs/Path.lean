import Localization.Path
import Localization.Proofs.Text.Parts

/-!
# Paths as texts

A name that is joined to an absolute path in normal form is written behind a slash, and what is read
back from that text is the path with the name below it (`ofText_joined`): the name cannot be taken
for several names, for none, or for a step upward. Normal form means that every name stands for
itself: it is not empty, not a single or a double dot, and holds no slash.
-/

namespace Localization.Path

/-- A name that stands for itself in the text of a path. -/
structure IsName (name : Text) : Prop where
  ne_nil : name ≠ []
  ne_dot : name ≠ Text.ofString "."
  ne_dots : name ≠ Text.ofString ".."
  no_slash : .scalar '/' ∉ name

/-- An absolute path whose names all stand for themselves. -/
structure Normal (p : Path) : Prop where
  absolute : p.anchor ≠ .relative
  names : ∀ name ∈ p.names, IsName name

/-- The text of a path with a text joined to it. -/
def joined (p : Path) (t : Text) : Text :=
  if p.toText.endsWith "/" then p.toText ++ t else p.toText ++ "/" ++ t

/-- An absolute path without its double dots: each of them takes the name before it away. -/
def normalized (p : Path) : Path :=
  ⟨p.anchor, p.names.foldl (fun above name =>
    if name = Text.ofString ".." then above.dropLast else above ++ [name]) []⟩

variable {p : Path} {name : Text}

/-- A normal path stays normal by a name. -/
theorem Normal.child (h : p.Normal) (hname : IsName name) : (p.child name).Normal where
  absolute := h.absolute
  names m hm := by
    rcases List.mem_append.1 hm with hm | hm
    · exact h.names m hm
    · rwa [List.mem_singleton.1 hm]

/-- In a path in normal form there is nothing to take away. -/
theorem Normal.normalized_eq (h : p.Normal) : p.normalized = p := by
  have hfold : ∀ (names above : List Text), (∀ name ∈ names, IsName name) →
      names.foldl (fun above name =>
        if name = Text.ofString ".." then above.dropLast else above ++ [name]) above =
      above ++ names := by
    intro names
    induction names with
    | nil => simp
    | cons m names ih =>
      intro above hnames
      obtain ⟨hm, hnames⟩ := List.forall_mem_cons.1 hnames
      rw [List.foldl_cons, if_neg hm.ne_dots, ih _ hnames, List.append_assoc,
        List.singleton_append]
  rw [normalized, hfold p.names [] h.names, List.nil_append]

/-! ## Writing -/

/-- The text of an absolute path: its anchor, then its names behind each other. -/
theorem toText_of_absolute (h : p.anchor ≠ .relative) :
    p.toText = anchorText p.anchor ++ Text.join "/" p.names := by
  unfold toText
  split
  next hanchor _ => exact absurd hanchor h
  next => rfl

/-- What is joined ends with the last of the parts. -/
theorem exists_join_eq_append (sep : Text) {names : List Text} (hne : names ≠ []) :
    ∃ u, Text.join sep names = u ++ names.getLast hne := by
  obtain ⟨init, last, rfl⟩ := (List.eq_nil_or_concat' names).resolve_left hne
  rw [List.getLast_append_singleton]
  by_cases hinit : init = []
  · subst hinit
    exact ⟨[], Text.join_singleton sep last⟩
  · exact ⟨_, Text.join_concat sep hinit last⟩

/-- A text that ends with a name does not end with a slash. -/
theorem IsName.not_suffix (h : IsName name) (u : Text) : ¬ Text.ofString "/" <:+ u ++ name := by
  rintro ⟨w, hw⟩
  obtain ⟨init, last, rfl⟩ := (List.eq_nil_or_concat' name).resolve_left h.ne_nil
  rw [← List.append_assoc] at hw
  obtain ⟨-, hlast⟩ := List.append_inj' hw rfl
  exact h.no_slash (List.mem_append_right _ (hlast ▸ List.mem_singleton_self _))

/-- The text of a name joined to a path is the text of the path below it: the slash between them is
written unless the path is an anchor only, which ends with one. -/
theorem joined_eq (h : p.Normal) (name : Text) :
    p.joined name = anchorText p.anchor ++ Text.join "/" (p.names ++ [name]) := by
  rw [joined, toText_of_absolute h.absolute]
  by_cases hnames : p.names = []
  · have hslash : Text.endsWith (anchorText p.anchor ++ Text.join "/" p.names) "/" = true := by
      rw [hnames]
      cases hanchor : p.anchor with
      | relative => exact absurd hanchor h.absolute
      | root | doubleRoot => decide
    rw [if_pos hslash, hnames, List.nil_append, Text.join_singleton]
    simp [Text.join, List.intercalate]
  · have hslash : ¬ Text.endsWith (anchorText p.anchor ++ Text.join "/" p.names) "/" = true := by
      obtain ⟨u, hu⟩ := exists_join_eq_append (Text.ofString "/") hnames
      rw [Text.endsWith_iff, hu, ← List.append_assoc]
      exact (h.names _ (List.getLast_mem hnames)).not_suffix _
    rw [if_neg hslash, Text.join_concat _ hnames]
    simp only [List.append_assoc]

/-! ## Reading -/

/-- Names that stand for themselves are read back from their text. -/
theorem filter_splitOn_join {names : List Text} (hne : names ≠ []) (h : ∀ m ∈ names, IsName m) :
    ((Text.splitOn (.scalar '/') (Text.join "/" names)).filter fun name =>
      !name.isEmpty && name != Text.ofString ".") = names := by
  have hsplit : Text.splitOn (.scalar '/') (Text.join "/" names) = names :=
    Text.splitOn_join hne fun m hm => (h m hm).no_slash
  rw [hsplit, List.filter_eq_self]
  intro m hm
  simp [(h m hm).ne_nil, (h m hm).ne_dot]

/-- Names that are joined by slashes do not begin with one. -/
theorem takeWhile_join {names : List Text} (hne : names ≠ []) (h : ∀ m ∈ names, IsName m) :
    (Text.join "/" names).takeWhile (· = .scalar '/') = [] := by
  obtain ⟨first, rest, rfl⟩ := List.exists_cons_of_ne_nil hne
  have hfirst := h first List.mem_cons_self
  obtain ⟨c, cs, rfl⟩ := List.exists_cons_of_ne_nil hfirst.ne_nil
  have hc : c ≠ .scalar '/' := fun hc => hfirst.no_slash (hc ▸ List.mem_cons_self)
  by_cases hrest : rest = []
  · rw [hrest, Text.join_singleton]
    simp [hc]
  · rw [Text.join_cons _ _ hrest]
    simp [hc]

/-- Reading the text of a name joined to a path in normal form gives the path below it. -/
theorem ofText_joined (h : p.Normal) (hname : IsName name) :
    ofText (p.joined name) = p.child name := by
  have hall : ∀ m ∈ p.names ++ [name], IsName m := (h.child hname).names
  have hne : p.names ++ [name] ≠ [] := by simp
  have htake := takeWhile_join hne hall
  have hfilter := filter_splitOn_join hne hall
  rw [joined_eq h name]
  generalize Text.join "/" (p.names ++ [name]) = t at htake hfilter
  obtain ⟨anchor, names⟩ := p
  cases anchor with
  | relative => exact absurd rfl h.absolute
  | root =>
    have htext : anchorText .root ++ t = .scalar '/' :: t := rfl
    simp only [ofText, htext, List.takeWhile_cons, decide_true, if_true, htake, Text.splitOn,
      List.filter_cons, List.isEmpty_nil, Bool.not_true, Bool.false_and, hfilter]
    rfl
  | doubleRoot =>
    have htext : anchorText .doubleRoot ++ t = .scalar '/' :: .scalar '/' :: t := rfl
    simp only [ofText, htext, List.takeWhile_cons, decide_true, if_true, htake, Text.splitOn,
      List.filter_cons, List.isEmpty_nil, Bool.not_true, Bool.false_and, hfilter]
    rfl

end Localization.Path
