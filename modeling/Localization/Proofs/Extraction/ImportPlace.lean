import Mathlib.Data.List.Basic
import Mathlib.Data.List.Pairwise
import Mathlib.Data.List.TakeWhile
import Localization.Proofs.Extraction.ReadAlike
import Localization.Proofs.Extraction.Wrap

/-!
# Where an import goes

One pass over the statements of a file finds the last import, the last declaration that requires a
module, and the last directive of the prologue (`anchorsOf_eq`). The import goes behind the first of
these that there is, and to the very start of the file if there is none (`importEdit_cases`). So it
always goes between two statements and behind the prologue. Two things can go wrong. At the start
of the file it stands in front of the line that names the interpreter. And a required binding is put
behind the last declaration that requires something, wherever that is, so that edits may come before
it, where it is not yet defined (`importEdit_wellPlaced_iff`).
-/

namespace Localization.Extraction

open Syntax Syntax.Tree

/-! ## The statements an import can follow -/

/-- Whether a statement is an import. -/
def isImport (t : Tree) : Bool := t.kind = .importStatement

/-- Whether something may stand in front of the directives of a file and between them. -/
def isPreamble (t : Tree) : Bool := t.kind = .comment || t.kind = .hashBang

/-- The directives that a list of statements starts with. -/
def directivesOf (ts : List Tree) : List Tree := (ts.filter (!isPreamble ·)).takeWhile isDirective

/-- The prologue of a file: the directives it starts with. -/
def prologue (root : Tree) : List Tree := directivesOf root.namedChildren

/-- The end of the last of some statements. -/
def lastStop (ts : List Tree) : Option Nat := ts.getLast?.map (·.stop)

section
variable {source : Source} {t : Tree} {ts : List Tree}

/-- The end of the last node, by the first of the nodes. -/
theorem lastStop_cons (t : Tree) (ts : List Tree) :
    lastStop (t :: ts) = (lastStop ts).or (some t.stop) := by
  rw [lastStop, lastStop, List.getLast?_cons]
  cases ts.getLast? with
  | none => rfl
  | some last => rfl

/-- A directive is an expression statement. -/
theorem isDirective_kind (h : isDirective t = true) : t.kind = .expressionStatement := by
  simp only [isDirective, Bool.and_eq_true, decide_eq_true_eq] at h
  exact h.1

/-- A declaration that requires something is one of the two kinds of declaration. -/
theorem isRequire_kind (h : isRequire source t = true) :
    t.kind = .lexicalDeclaration ∨ t.kind = .variableDeclaration := by
  simp only [isRequire, Bool.and_eq_true, Bool.or_eq_true, decide_eq_true_eq] at h
  exact h.1

/-- A statement that is neither a directive nor part of the preamble ends the directives. -/
theorem directivesOf_cons_of_other (hpreamble : isPreamble t = false)
    (hdirective : isDirective t = false) (ts : List Tree) : directivesOf (t :: ts) = [] := by
  simp [directivesOf, hpreamble, hdirective]

/-- A hash-bang or a comment is passed over by the directives. -/
theorem directivesOf_cons_of_preamble (h : isPreamble t = true) (ts : List Tree) :
    directivesOf (t :: ts) = directivesOf ts := by
  simp [directivesOf, h]

/-- A directive in front is one of the directives. -/
theorem directivesOf_cons_of_directive (h : isDirective t = true) (ts : List Tree) :
    directivesOf (t :: ts) = t :: directivesOf ts := by
  have hpreamble : isPreamble t = false := by simp [isPreamble, isDirective_kind h]
  simp [directivesOf, hpreamble, h]

/-- **The pass over the statements** finds the last import, the last declaration that requires a
module and, while nothing else was met, the last directive. -/
theorem anchorsOf_eq (leading : Bool) (a : Anchors) (ts : List Tree) :
    anchorsOf source leading a ts =
      { lastImport := (lastStop (ts.filter isImport)).or a.lastImport
        lastRequire := (lastStop (ts.filter (isRequire source))).or a.lastRequire
        lastDirective := (lastStop (if leading then directivesOf ts else [])).or
          a.lastDirective } := by
  induction ts generalizing leading a with
  | nil => cases leading <;> rfl
  | cons t ts ih =>
    have hcons : ∀ {p : Tree → Bool} {x : Option Nat}, p t = true →
        (lastStop ((t :: ts).filter p)).or x = (lastStop (ts.filter p)).or (some t.stop) := by
      intro p x hp
      rw [List.filter_cons_of_pos hp, lastStop_cons, Option.or_assoc, Option.some_or]
    rw [anchorsOf]
    split
    next himport =>
      have hrequire : ¬ isRequire source t = true := fun h => by
        rcases isRequire_kind h with hkind | hkind <;> simp [himport] at hkind
      have hother : directivesOf (t :: ts) = [] := directivesOf_cons_of_other
        (by simp [isPreamble, himport]) (by simp [isDirective, himport]) ts
      rw [ih, hcons (by simpa [isImport] using himport), List.filter_cons_of_neg hrequire, hother]
      simp
    split
    next himport hrequire =>
      have hkind := isRequire_kind hrequire
      have hother : directivesOf (t :: ts) = [] := by
        refine directivesOf_cons_of_other ?_ ?_ ts
        · rcases hkind with hkind | hkind <;> simp [isPreamble, hkind]
        · rcases hkind with hkind | hkind <;> simp [isDirective, hkind]
      rw [ih, hcons hrequire, List.filter_cons_of_neg (by simpa [isImport] using himport), hother]
      simp
    split
    next himport hrequire hdirective =>
      rw [Bool.and_eq_true] at hdirective
      obtain ⟨rfl, hdirective⟩ := hdirective
      rw [ih, List.filter_cons_of_neg (by simpa [isImport] using himport),
        List.filter_cons_of_neg hrequire, if_pos rfl, if_pos rfl,
        directivesOf_cons_of_directive hdirective, lastStop_cons, Option.or_assoc, Option.some_or]
    next himport hrequire hdirective =>
      rw [ih, List.filter_cons_of_neg (by simpa [isImport] using himport),
        List.filter_cons_of_neg hrequire]
      congr 3
      cases leading with
      | false => rfl
      | true =>
        rw [Bool.true_and, Bool.not_eq_true] at hdirective
        rw [Bool.true_and, if_pos rfl]
        cases hpreamble : isPreamble t with
        | true =>
          rw [directivesOf_cons_of_preamble hpreamble]
          exact if_pos hpreamble
        | false =>
          rw [directivesOf_cons_of_other hpreamble hdirective]
          exact if_neg (by simpa [isPreamble] using hpreamble)

end

/-! ## The edit -/

/-- The statement that imports a name. -/
def importLine (name module : Text) : Text :=
  "import \x7b " ++ name ++ " \x7d from '" ++ module ++ "';"

/-- The statement that requires a name. It defines a constant where it stands. -/
def requireLine (name module : Text) : Text :=
  "const \x7b " ++ name ++ " \x7d = require('" ++ module ++ "');"

/-- Whether an edit puts in a statement that requires a name. -/
def Edit.Requires (i : Edit) (name module : Text) : Prop :=
  i.replacement = "\n" ++ requireLine name module

/-- Puts a statement on a line of its own behind a statement. -/
def behind (t : Tree) (line : Text) : Edit := ⟨t.stop, t.stop, "\n" ++ line⟩

section
variable {source : Source} {name module : Text} {root : Tree}

/-- A last end is the end of the last node. -/
theorem getLast?_of_lastStop {ts : List Tree} {n : Nat} (h : lastStop ts = some n) :
    ∃ t, ts.getLast? = some t ∧ t.stop = n :=
  Option.map_eq_some_iff.1 h

/-- Without a last end there are no nodes. -/
theorem eq_nil_of_lastStop {ts : List Tree} (h : lastStop ts = none) : ts = [] :=
  List.getLast?_eq_none_iff.1 (Option.map_eq_none_iff.1 h)

/-- The import goes behind the last import; else, as a required binding, behind the last declaration
that requires something; else behind the prologue; else to the start. -/
theorem importEdit_cases (source : Source) (name module : Text) (root : Tree) :
    (∃ t, (root.namedChildren.filter isImport).getLast? = some t ∧
      importEdit source name module root = behind t (importLine name module)) ∨
    root.namedChildren.filter isImport = [] ∧
      ((∃ t, (root.namedChildren.filter (isRequire source)).getLast? = some t ∧
        importEdit source name module root = behind t (requireLine name module)) ∨
      root.namedChildren.filter (isRequire source) = [] ∧
        ((∃ t, (prologue root).getLast? = some t ∧
          importEdit source name module root = behind t (importLine name module)) ∨
        prologue root = [] ∧
          importEdit source name module root = ⟨0, 0, importLine name module ++ "\n"⟩)) := by
  have hanchors : anchorsOf source true ⟨none, none, none⟩ root.namedChildren =
      ⟨lastStop (root.namedChildren.filter isImport),
        lastStop (root.namedChildren.filter (isRequire source)), lastStop (prologue root)⟩ := by
    rw [anchorsOf_eq, Option.or_none, Option.or_none, Option.or_none]
    rfl
  simp only [importEdit, hanchors]
  split
  next n hn =>
    obtain ⟨t, ht, rfl⟩ := getLast?_of_lastStop hn
    exact .inl ⟨t, ht, rfl⟩
  next n himport hn =>
    obtain ⟨t, ht, rfl⟩ := getLast?_of_lastStop hn
    exact .inr ⟨eq_nil_of_lastStop himport, .inl ⟨t, ht, rfl⟩⟩
  next n himport hrequire hn =>
    obtain ⟨t, ht, rfl⟩ := getLast?_of_lastStop hn
    exact .inr ⟨eq_nil_of_lastStop himport, .inr ⟨eq_nil_of_lastStop hrequire, .inl ⟨t, ht, rfl⟩⟩⟩
  next himport hrequire hdirective =>
    exact .inr ⟨eq_nil_of_lastStop himport, .inr ⟨eq_nil_of_lastStop hrequire,
      .inr ⟨eq_nil_of_lastStop hdirective, rfl⟩⟩⟩

end

/-! ## Well placed imports -/

/-- What the grammar says of the line that names the interpreter: only comments can stand in front
of it, and it is not empty. -/
structure Headed (root : Tree) : Prop where
  first : root.children.Pairwise fun a b => b.kind = .hashBang → a.kind = .comment
  visible : ∀ b ∈ root.children, b.kind = .hashBang → b.start < b.stop

instance (root : Tree) : Decidable (Headed root) :=
  decidable_of_iff
    ((root.children.Pairwise fun a b => b.kind = .hashBang → a.kind = .comment) ∧
      ∀ b ∈ root.children, b.kind = .hashBang → b.start < b.stop)
    ⟨fun ⟨h₁, h₂⟩ => ⟨h₁, h₂⟩, fun h => ⟨h.1, h.2⟩⟩

/-- An import is well placed among the statements and the edits of a file: it replaces nothing, it
goes into no statement, it goes behind the line that names the interpreter and behind the prologue,
and if it defines a constant, it does so in front of all edits. -/
structure WellPlaced (root : Tree) (name module : Text) (edits : List Edit) (i : Edit) : Prop where
  insertion : i.stop = i.start
  between : ∀ c ∈ root.children, i.start ≤ c.start ∨ c.stop ≤ i.start
  headed : ∀ b ∈ root.children, b.kind = .hashBang → b.stop ≤ i.start
  opened : ∀ d ∈ prologue root, d.stop ≤ i.start
  defined : i.Requires name module → ∀ e ∈ edits, i.start ≤ e.start

/-- Statements that stand one after the other. -/
structure InOrder (ts : List Tree) : Prop where
  forward : ∀ t ∈ ts, t.start ≤ t.stop
  ordered : ts.Pairwise fun a b => a.stop ≤ b.start

namespace InOrder

variable {ts us : List Tree} {t u : Tree}

/-- A sublist of nodes in order is in order. -/
theorem sublist (h : InOrder ts) (hus : us.Sublist ts) : InOrder us :=
  ⟨fun t ht => h.forward t (hus.subset ht), h.ordered.sublist hus⟩

/-- Among nodes in order none ends behind the last. -/
theorem stop_le_last (h : InOrder ts) (hlast : ts.getLast? = some u) (ht : t ∈ ts) :
    t.stop ≤ u.stop := by
  obtain ⟨front, rfl⟩ := List.getLast?_eq_some_iff.1 hlast
  rcases List.mem_append.1 ht with hfront | hu
  · have hle : t.stop ≤ u.start :=
      (List.pairwise_append.1 h.ordered).2.2 t hfront u (List.mem_singleton_self u)
    exact hle.trans (h.forward u (List.mem_append_right _ (List.mem_singleton_self u)))
  · rw [List.mem_singleton.1 hu]

/-- The end of a statement lies in no statement. -/
theorem stop_between (h : InOrder ts) (ht : t ∈ ts) (hu : u ∈ ts) :
    t.stop ≤ u.start ∨ u.stop ≤ t.stop := by
  have hpair : t = u ∨ t.stop ≤ u.start ∨ u.stop ≤ t.start :=
    List.Pairwise.forall_of_forall_of_flip
      (R := fun a b : Tree => a = b ∨ a.stop ≤ b.start ∨ b.stop ≤ a.start) (fun _ _ => .inl rfl)
      (h.ordered.imp fun hab => .inr (.inl hab)) (h.ordered.imp fun hab => .inr (.inr hab)) ht hu
  rcases hpair with rfl | htu | hut
  · exact .inr le_rfl
  · exact .inl htu
  · exact .inr (hut.trans (h.forward t ht))

/-- The directives come before every statement that is none and not part of the preamble. -/
theorem directive_le (h : InOrder ts) (hd : t ∈ directivesOf ts) (hu : u ∈ ts)
    (hpreamble : isPreamble u = false) (hdirective : isDirective u = false) : t.stop ≤ u.start := by
  have hsplit := List.takeWhile_append_dropWhile (p := isDirective)
    (l := ts.filter (!isPreamble ·))
  have hmem : u ∈ ts.filter (!isPreamble ·) := List.mem_filter.2 ⟨hu, by rw [hpreamble]; rfl⟩
  have hordered := h.ordered.sublist (List.filter_sublist (p := (!isPreamble ·)))
  rw [← hsplit] at hmem hordered
  rcases List.mem_append.1 hmem with hfront | hback
  · rw [List.mem_takeWhile_imp hfront] at hdirective
    cases hdirective
  · exact (List.pairwise_append.1 hordered).2.2 t hd u hback

/-- The line that names the interpreter comes before every statement. -/
theorem hashBang_le {root b s : Tree} (h : InOrder root.children) (hheaded : Headed root)
    (hb : b ∈ root.children) (hkind : b.kind = .hashBang) (hs : s ∈ root.children)
    (hpreamble : isPreamble s = false) : b.stop ≤ s.start := by
  have hpair := h.ordered.and hheaded.first
  refine List.Pairwise.forall_of_forall_of_flip
    (R := fun a c : Tree => a.kind = .hashBang → isPreamble c = false → a.stop ≤ c.start)
    (fun a _ ha hc => ?_) (hpair.imp fun hac _ _ => hac.1) (hpair.imp fun hac ha hc => ?_) hb hs
    hkind hpreamble
  · simp [isPreamble, ha] at hc
  · simp [isPreamble, hac.2 ha] at hc

end InOrder

/-- The statements that an import can follow: imports, declarations that require something, and
the directives of the prologue. -/
def IsAnchor (source : Source) (root s : Tree) : Prop :=
  s ∈ root.namedChildren ∧ (isImport s = true ∨ isRequire source s = true ∨ s ∈ prologue root)

section
variable {source : Source} {root s : Tree}

/-- The import put behind a node requires nothing. -/
theorem not_requires_behind (t : Tree) (name module : Text) :
    ¬ (behind t (importLine name module)).Requires name module := by
  intro h
  exact absurd (List.cons.inj (List.cons.inj h).2).1 (by decide)

/-- The import put at the start requires nothing. -/
theorem not_requires_start (name module : Text) :
    ¬ (⟨0, 0, importLine name module ++ "\n"⟩ : Edit).Requires name module := by
  intro h
  exact absurd (List.cons.inj h).1 (by decide)

/-- The last node of a filtered list is in the list and passes the filter. -/
theorem mem_of_getLast?_filter {ts : List Tree} {p : Tree → Bool}
    (h : (ts.filter p).getLast? = some s) : s ∈ ts ∧ p s = true :=
  List.mem_filter.1 (List.mem_of_getLast? h)

/-- The prologue consists of named children. -/
theorem mem_namedChildren_of_mem_prologue (h : s ∈ prologue root) : s ∈ root.namedChildren :=
  List.mem_of_mem_filter ((List.takeWhile_sublist _).subset h)

/-- The prologue consists of directives. -/
theorem isDirective_of_mem_prologue (h : s ∈ prologue root) : isDirective s = true :=
  List.mem_takeWhile_imp h

namespace IsAnchor

/-- An anchor is a child of the root. -/
theorem mem (h : IsAnchor source root s) : s ∈ root.children := List.mem_of_mem_filter h.1

/-- An anchor is neither a hash-bang nor a comment. -/
theorem not_preamble (h : IsAnchor source root s) : isPreamble s = false := by
  rcases h.2 with himport | hrequire | hprologue
  · have hkind : s.kind = .importStatement := by simpa [isImport] using himport
    simp [isPreamble, hkind]
  · rcases isRequire_kind hrequire with hkind | hkind <;> simp [isPreamble, hkind]
  · simp [isPreamble, isDirective_kind (isDirective_of_mem_prologue hprologue)]

end IsAnchor

/-- An import is put behind an anchor, or to the start of a file without any. -/
theorem importEdit_anchor (source : Source) (name module : Text) (root : Tree) :
    (∃ s, IsAnchor source root s ∧ (importEdit source name module root).start = s.stop) ∨
    (¬ ∃ s, IsAnchor source root s) ∧ (importEdit source name module root).start = 0 := by
  rcases importEdit_cases source name module root with ⟨s, hs, hedit⟩ | ⟨himport, hrest⟩
  · obtain ⟨hmem, himport⟩ := mem_of_getLast?_filter hs
    exact .inl ⟨s, ⟨hmem, .inl himport⟩, by rw [hedit]; rfl⟩
  rcases hrest with ⟨s, hs, hedit⟩ | ⟨hrequire, hrest⟩
  · obtain ⟨hmem, hrequire⟩ := mem_of_getLast?_filter hs
    exact .inl ⟨s, ⟨hmem, .inr (.inl hrequire)⟩, by rw [hedit]; rfl⟩
  rcases hrest with ⟨s, hs, hedit⟩ | ⟨hprologue, hedit⟩
  · have hmem := List.mem_of_getLast? hs
    exact .inl ⟨s, ⟨mem_namedChildren_of_mem_prologue hmem, .inr (.inr hmem)⟩, by rw [hedit]; rfl⟩
  · refine .inr ⟨?_, by rw [hedit]⟩
    rintro ⟨s, hmem, hs | hs | hs⟩
    · exact List.filter_eq_nil_iff.1 himport s hmem hs
    · exact List.filter_eq_nil_iff.1 hrequire s hmem hs
    · rw [hprologue] at hs
      cases hs

/-- The import is put between two children of the root and inside none. -/
theorem importEdit_between (source : Source) (name module : Text) (h : InOrder root.children) :
    ∀ c ∈ root.children, (importEdit source name module root).start ≤ c.start ∨
      c.stop ≤ (importEdit source name module root).start := by
  intro c hc
  rcases importEdit_anchor source name module root with ⟨s, hs, hstart⟩ | ⟨-, hstart⟩
  · rw [hstart]
    exact h.stop_between hs.mem hc
  · rw [hstart]
    exact .inl (Nat.zero_le _)

/-- An import always goes behind the prologue: imports and declarations come after it. -/
theorem importEdit_opened (source : Source) (name module : Text)
    (h : InOrder root.namedChildren) :
    ∀ d ∈ prologue root, d.stop ≤ (importEdit source name module root).start := by
  intro d hd
  have hafter : ∀ s ∈ root.namedChildren, isPreamble s = false → isDirective s = false →
      d.stop ≤ s.stop := fun s hs hpreamble hdirective =>
    (h.directive_le hd hs hpreamble hdirective).trans (h.forward s hs)
  rcases importEdit_cases source name module root with ⟨s, hs, hedit⟩ | ⟨-, hrest⟩
  · obtain ⟨hmem, himport⟩ := mem_of_getLast?_filter hs
    have hkind : s.kind = .importStatement := by simpa [isImport] using himport
    rw [hedit]
    exact hafter s hmem (by simp [isPreamble, hkind]) (by simp [isDirective, hkind])
  rcases hrest with ⟨s, hs, hedit⟩ | ⟨-, hrest⟩
  · obtain ⟨hmem, hrequire⟩ := mem_of_getLast?_filter hs
    rw [hedit]
    rcases isRequire_kind hrequire with hkind | hkind
    · exact hafter s hmem (by simp [isPreamble, hkind]) (by simp [isDirective, hkind])
    · exact hafter s hmem (by simp [isPreamble, hkind]) (by simp [isDirective, hkind])
  rcases hrest with ⟨s, hs, hedit⟩ | ⟨hprologue, -⟩
  · have hsublist : (prologue root).Sublist root.namedChildren :=
      (List.takeWhile_sublist _).trans List.filter_sublist
    rw [hedit]
    exact (h.sublist hsublist).stop_le_last hs hd
  · rw [hprologue] at hd
    cases hd

/-- An import goes behind the line that names the interpreter exactly if there is a statement that
it can follow. -/
theorem importEdit_headed_iff (source : Source) (name module : Text) (h : InOrder root.children)
    (hheaded : Headed root) :
    (∀ b ∈ root.children, b.kind = .hashBang →
        b.stop ≤ (importEdit source name module root).start) ↔
      ((∃ b ∈ root.children, b.kind = .hashBang) → ∃ s, IsAnchor source root s) := by
  rcases importEdit_anchor source name module root with ⟨s, hs, hstart⟩ | ⟨hnone, hstart⟩
  · refine ⟨fun _ _ => ⟨s, hs⟩, fun _ b hb hkind => ?_⟩
    rw [hstart]
    exact (h.hashBang_le hheaded hb hkind hs.mem hs.not_preamble).trans (h.forward s hs.mem)
  · rw [hstart]
    constructor
    · rintro hbehind ⟨b, hb, hkind⟩
      exact absurd (hheaded.visible b hb hkind) (by have := hbehind b hb hkind; omega)
    · intro hanchor b hb hkind
      exact absurd (hanchor ⟨b, hb, hkind⟩) hnone

/-- A required binding is defined in front of all edits exactly if all declarations that require
something come before them. -/
theorem importEdit_defined_iff (source : Source) (name module : Text)
    (h : InOrder root.namedChildren) (edits : List Edit) :
    ((importEdit source name module root).Requires name module →
        ∀ e ∈ edits, (importEdit source name module root).start ≤ e.start) ↔
      (root.namedChildren.filter isImport = [] →
        ∀ r ∈ root.namedChildren, isRequire source r = true → ∀ e ∈ edits, r.stop ≤ e.start) := by
  rcases importEdit_cases source name module root with ⟨s, hs, hedit⟩ | ⟨himport, hrest⟩
  · refine ⟨fun _ himport => ?_, fun _ hrequires => ?_⟩
    · rw [himport] at hs
      cases hs
    · rw [hedit] at hrequires
      exact absurd hrequires (not_requires_behind s name module)
  rcases hrest with ⟨s, hs, hedit⟩ | ⟨hrequire, hrest⟩
  · rw [hedit]
    constructor
    · intro hdefined _ r hr hrequire e he
      have hle : r.stop ≤ s.stop := (h.sublist List.filter_sublist).stop_le_last hs
        (List.mem_filter.2 ⟨hr, hrequire⟩)
      exact hle.trans (hdefined rfl e he)
    · intro hall _ e he
      obtain ⟨hmem, hrequire⟩ := mem_of_getLast?_filter hs
      exact hall himport s hmem hrequire e he
  · have hnot : ¬ (importEdit source name module root).Requires name module := by
      rcases hrest with ⟨s, -, hedit⟩ | ⟨-, hedit⟩
      · rw [hedit]
        exact not_requires_behind s name module
      · rw [hedit]
        exact not_requires_start name module
    exact ⟨fun _ _ r hr hr' => absurd hr' (List.filter_eq_nil_iff.1 hrequire r hr),
      fun _ hrequires => absurd hrequires hnot⟩

end

/-- A file in which an import was put is changed. -/
theorem newSource_of_importAdded {o : WrapOptions} {parser : Parser} {file : Text} {source : Source}
    (h : (wrapContent o parser file source).importAdded = true) :
    ∃ new, (wrapContent o parser file source).newSource = some new := by
  unfold wrapContent at h ⊢
  split at h
  next => cases h
  next root hparse =>
    cases htree : wrapTree o source file root with
    | error e =>
      rw [htree] at h
      cases h
    | ok r =>
      rw [htree] at h
      obtain ⟨pass, hpass, -⟩ := bind_eq_ok.1 htree
      rw [wrapTree_eq hpass] at htree
      split at htree
      next =>
        cases htree
        cases h
      next =>
        obtain ⟨new, -, rfl⟩ := map_eq_ok.1 htree
        exact ⟨new, rfl⟩

/-- **When an import is well placed.** In every file that gets one, the import is put in next to
what the pass recorded, and the new file is the old one with these edits. It replaces nothing, it
always goes between two statements, and always behind the prologue. And it is well placed altogether
exactly if two things hold. A file that starts with the line that names an interpreter has an
import, a declaration that requires something or a directive. And if it has no import, then all
declarations that require something come before all that was recorded. -/
theorem importEdit_wellPlaced_iff {o : WrapOptions} {parser : Parser} {file : Text}
    {source : Source} {root : Tree} (hparse : parser file source = .ok root)
    (hplaced : ∀ v ∈ root.visits, Placed source v) (hheaded : Headed root)
    (hadded : (wrapContent o parser file source).importAdded = true) :
    ∃ pass new i, record o source file root = .ok pass ∧
      i = importEdit source o.markers.functionName o.module root ∧
      (wrapContent o parser file source).newSource = some new ∧
      edited source (pass.edits ++ [i]) = .ok new ∧
      i.stop = i.start ∧
      (∀ c ∈ root.children, i.start ≤ c.start ∨ c.stop ≤ i.start) ∧
      (∀ d ∈ prologue root, d.stop ≤ i.start) ∧
      (WellPlaced root o.markers.functionName o.module pass.edits i ↔
        ((∃ b ∈ root.children, b.kind = .hashBang) → ∃ s, IsAnchor source root s) ∧
        (root.namedChildren.filter isImport = [] →
          ∀ r ∈ root.namedChildren, isRequire source r = true →
            ∀ e ∈ pass.edits, r.stop ≤ e.start)) := by
  obtain ⟨new, hnew⟩ := newSource_of_importAdded hadded
  obtain ⟨pass, hpass, -, hedited⟩ := wrapContent_newSource hparse hnew
  rw [hadded] at hedited
  have hroot := hplaced _ (self_mem_visitsUnder [] root)
  have horder : InOrder root.children :=
    ⟨fun c hc => (hplaced _ (child_mem_visitsUnder (self_mem_visitsUnder [] root) hc)).forward,
      hroot.ordered⟩
  have hnamed : InOrder root.namedChildren := horder.sublist List.filter_sublist
  have hempty := (importEdit_place source o.markers.functionName o.module root).1
  have hbetween := importEdit_between source o.markers.functionName o.module horder
  have hopened := importEdit_opened source o.markers.functionName o.module hnamed
  refine ⟨pass, new, _, hpass, rfl, hnew, hedited, hempty, hbetween, hopened, ?_⟩
  rw [← importEdit_headed_iff source o.markers.functionName o.module horder hheaded,
    ← importEdit_defined_iff source o.markers.functionName o.module hnamed]
  exact ⟨fun h => ⟨h.headed, h.defined⟩, fun h => ⟨hempty, hbetween, h.1, hopened, h.2⟩⟩

/-! ## An interpreter and a late declaration -/

/-- The element `<p>Hello</p>`, from a byte on. -/
def helloElement (n : Nat) : Tree :=
  .node .element none ⟨n, n + 12⟩ [
    .node .openTag (some .openTag) ⟨n, n + 3⟩ [
      .node .token none ⟨n, n + 1⟩ [],
      .node .identifier (some .name) ⟨n + 1, n + 2⟩ [],
      .node .token none ⟨n + 2, n + 3⟩ []],
    .node .markupText none ⟨n + 3, n + 8⟩ [],
    .node .closeTag (some .closeTag) ⟨n + 8, n + 12⟩ [
      .node .token none ⟨n + 8, n + 10⟩ [],
      .node .identifier (some .name) ⟨n + 10, n + 11⟩ [],
      .node .token none ⟨n + 11, n + 12⟩ []]]

/-- A file that names an interpreter and shows a text. -/
def scriptSource : Source := .ofChars "#!n\n<p>Hello</p>".toList

/-- The tree of this file. -/
def script : Tree :=
  .node .program none ⟨0, 16⟩ [
    .node .hashBang none ⟨0, 3⟩ [],
    .node .expressionStatement none ⟨4, 16⟩ [helloElement 4]]

/-- A file that shows a text before it requires a module. -/
def lateSource : Source := .ofChars "<p>Hello</p>\nlet b = require('b')".toList

/-- The declaration of this file. -/
def lateDeclaration : Tree :=
  .node .lexicalDeclaration none ⟨13, 33⟩ [
    .node .token none ⟨13, 16⟩ [],
    .node .declarator none ⟨17, 33⟩ [
      .node .identifier (some .name) ⟨17, 18⟩ [],
      .node .token none ⟨19, 20⟩ [],
      .node .call none ⟨21, 33⟩ [
        .node .identifier (some .function) ⟨21, 28⟩ [],
        .node .phrase (some .arguments) ⟨28, 33⟩ [
          .node .token none ⟨28, 29⟩ [],
          .node .string none ⟨29, 32⟩ [],
          .node .token none ⟨32, 33⟩ []]]]]

/-- The tree of this file. -/
def late : Tree :=
  .node .program none ⟨0, 33⟩ [
    .node .expressionStatement none ⟨0, 12⟩ [helloElement 0], lateDeclaration]

/-- The parser that gives a tree. -/
def parserOf (root : Tree) : Parser := fun _ _ => .ok root

/-- An import is put in if the pass recorded edits, the function is not declared, and all edits can
be applied in their order. -/
theorem importAdded_of_ordered {o : WrapOptions} {parser : Parser} {file : Text} {source : Source}
    {root : Tree} {edits inOrder : List Edit} (hparse : parser file source = .ok root)
    (hrecord : ((record o source file root).toOption.map fun pass =>
      (pass.edits, declares source o.markers.functionName root pass.edits)) = some (edits, false))
    (hne : edits.isEmpty = false)
    (hordered : Edit.ordered (edits ++ [importEdit source o.markers.functionName o.module root]) =
      inOrder)
    (hchars : ((Edit.applyAll inOrder source.bytes).toOption.bind fun bytes =>
      (Utf8.decode bytes).toOption).isSome = true) :
    (∃ pass, record o source file root = .ok pass ∧ pass.edits = edits) ∧
      (wrapContent o parser file source).importAdded = true := by
  obtain ⟨pass, hpass, hparts⟩ := Option.map_eq_some_iff.1 hrecord
  obtain ⟨rfl, hdeclares⟩ := Prod.mk.inj hparts
  refine ⟨⟨pass, eq_ok_of_toOption hpass, rfl⟩, ?_⟩
  obtain ⟨new, hnew⟩ := exists_edited_of_ordered hordered hchars
  have hedited : edited source (fileEdits o source root
      (!declares source o.markers.functionName root pass.edits) pass.edits) = .ok new := by
    rw [hdeclares]
    exact hnew
  rw [wrapContent_of_edited hparse (eq_ok_of_toOption hpass) hne hedited, hdeclares]
  rfl

/-- The import goes in front of the line that names the interpreter. -/
theorem importAdded_script :
    (∃ pass, record plainOptions scriptSource "A.tsx" script = .ok pass ∧
      pass.edits = [⟨7, 12, "\x7bt('A_hello')\x7d"⟩]) ∧
    (wrapContent plainOptions (parserOf script) "A.tsx" scriptSource).importAdded = true :=
  importAdded_of_ordered rfl (by decide +kernel) rfl
    (List.mergeSort_of_pairwise (by decide)) (by decide +kernel)

/-- The required binding goes behind the text. -/
theorem importAdded_late :
    (∃ pass, record plainOptions lateSource "A.tsx" late = .ok pass ∧
      pass.edits = [⟨3, 8, "\x7bt('A_hello')\x7d"⟩]) ∧
    (wrapContent plainOptions (parserOf late) "A.tsx" lateSource).importAdded = true :=
  importAdded_of_ordered rfl (by decide +kernel) rfl (Edit.ordered_pair (by decide +kernel))
    (by decide +kernel)

/-- A script with an element only has nothing that an import can follow. -/
theorem not_isAnchor_script (s : Tree) : ¬ IsAnchor scriptSource script s := by
  have hnone : ∀ s ∈ script.namedChildren,
      isImport s = false ∧ isRequire scriptSource s = false := by
    decide
  rintro ⟨hs, himport | hrequire | hprologue⟩
  · rw [(hnone s hs).1] at himport
    cases himport
  · rw [(hnone s hs).2] at hrequire
    cases hrequire
  · cases hprologue

/-- In the first file the import is not well placed, and neither is the required binding in the
second one. -/
theorem importEdit_wellPlaced_iff_script :
    (∃ pass, record plainOptions scriptSource "A.tsx" script = .ok pass ∧
      ¬ WellPlaced script "t" "lokal-react" pass.edits
        (importEdit scriptSource "t" "lokal-react" script)) ∧
    ∃ pass, record plainOptions lateSource "A.tsx" late = .ok pass ∧
      ¬ WellPlaced late "t" "lokal-react" pass.edits
        (importEdit lateSource "t" "lokal-react" late) := by
  constructor
  · obtain ⟨pass, -, i, hpass, rfl, -, -, -, -, -, hiff⟩ := importEdit_wellPlaced_iff rfl
      (by decide) (by decide) importAdded_script.2
    refine ⟨pass, hpass, fun hwell => ?_⟩
    obtain ⟨s, hs⟩ := (hiff.1 hwell).1 (by decide)
    exact not_isAnchor_script s hs
  · obtain ⟨⟨pass, hpass, hedits⟩, hadded⟩ := importAdded_late
    obtain ⟨pass', -, i, hpass', rfl, -, -, -, -, -, hiff⟩ := importEdit_wellPlaced_iff rfl
      (by decide) (by decide) hadded
    cases hpass.symm.trans hpass'
    refine ⟨pass, hpass, fun hwell => ?_⟩
    have hle := (hiff.1 hwell).2 (by decide) lateDeclaration (.tail _ (.head _))
      (by decide +kernel) _ (hedits ▸ List.mem_singleton_self _)
    exact absurd hle (by decide)

/-- Imports are not always well placed. -/
theorem importEdit_not_wellPlaced : ¬ ∀ (o : WrapOptions) (parser : Parser) (file : Text)
    (source : Source) (root : Tree) (pass : Pass),
      parser file source = .ok root → (∀ v ∈ root.visits, Placed source v) → Headed root →
      (wrapContent o parser file source).importAdded = true →
      record o source file root = .ok pass →
      WellPlaced root o.markers.functionName o.module pass.edits
        (importEdit source o.markers.functionName o.module root) := by
  intro hall
  obtain ⟨⟨pass, hpass, -⟩, hadded⟩ := importAdded_script
  have hwell := hall plainOptions (parserOf script) "A.tsx" scriptSource script pass rfl
    (by decide) (by decide) hadded hpass
  have hle := hwell.headed (.node .hashBang none ⟨0, 3⟩ []) (.head _) rfl
  exact absurd hle (by decide)

end Localization.Extraction
