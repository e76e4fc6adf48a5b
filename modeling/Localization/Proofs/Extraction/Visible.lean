import Mathlib.Data.List.Basic
import Mathlib.Data.List.Pairwise
import Localization.Proofs.Extraction.ImportPlace
import Localization.Proofs.Extraction.Marked

/-!
# Who can see the function

No import is put in if the file declares the function already. What a declaration binds is the
names of its pattern, less those in keys and defaults (`Bound`), and who can see a variable is
settled by its scope (`scope`). The check looks at neither of them: it takes every name in a pattern
for a bound one, and the nearest block around a declaration for its scope. So its answer is wrong in
four ways and no others (`declares_iff`): a name that a pattern only uses, at the top level or in a
block; an import of a type; and a declaration that stands in the block, but in a smaller construct,
such as the head of a loop.
-/

namespace Localization.Extraction

open Syntax Syntax.Tree

/-! ## Patterns -/

/-- Whether a tree is a given keyword or punctuation mark. -/
def isWord (source : Source) (word : Text) (t : Tree) : Bool :=
  t.kind = .token && t.text source = word

/-- Whether a tree is the name of a variable. -/
def isName (t : Tree) : Bool := t.kind = .identifier || t.kind = .shorthandBinding

/-- The parts of a pattern that values are bound to: behind the colon of a key, and in front of the
equals sign of a default. -/
def targets (source : Source) (cs : List Tree) : List Tree :=
  let front := cs.takeWhile (!isWord source "=" ·)
  if front.any (isWord source ":") then front.dropWhile (!isWord source ":" ·) else front

/-- The other parts of a pattern: keys and defaults. -/
def asides (source : Source) (cs : List Tree) : List Tree :=
  let front := cs.takeWhile (!isWord source "=" ·)
  let back := cs.dropWhile (!isWord source "=" ·)
  if front.any (isWord source ":") then front.takeWhile (!isWord source ":" ·) ++ back else back

/-- A pattern binds a name. -/
inductive Bound (source : Source) : Tree → Tree → Prop where
  | name {t : Tree} : isName t = true → Bound source t t
  | part {p c t : Tree} : c ∈ targets source p.children → Bound source c t → Bound source p t

/-- Something stands in a key or a default of a pattern. -/
inductive Aside (source : Source) : Tree → Tree → Prop where
  | here {p c t : Tree} : c ∈ asides source p.children → t ∈ c.subtrees → Aside source p t
  | part {p c t : Tree} : c ∈ targets source p.children → Aside source c t → Aside source p t

/-- A pattern binds a variable of a name. -/
def BindsName (source : Source) (name : Text) (p : Tree) : Prop :=
  ∃ t, Bound source p t ∧ t.text source = name

/-- A pattern uses a variable of a name. -/
def UsesName (source : Source) (name : Text) (p : Tree) : Prop :=
  ∃ t, isName t = true ∧ Aside source p t ∧ t.text source = name

section
variable {source : Source} {name : Text} {p t : Tree} {cs : List Tree}

/-- Every part of a pattern is a target of it or stands aside. -/
theorem mem_targets_or_asides {c : Tree} :
    c ∈ cs ↔ c ∈ targets source cs ∨ c ∈ asides source cs := by
  have hcut : ∀ (q : Tree → Bool) (l : List Tree),
      c ∈ l ↔ c ∈ l.takeWhile q ∨ c ∈ l.dropWhile q := by
    intro q l
    rw [← List.mem_append, List.takeWhile_append_dropWhile]
  simp only [targets, asides]
  split
  · rw [List.mem_append, ← or_assoc, or_comm (a := c ∈ List.dropWhile _ _), ← hcut, ← hcut]
  · exact hcut _ cs

/-- All parts of a list of members are bound. -/
theorem targets_of_plain (h : ∀ c ∈ cs, isWord source "=" c = false ∧ isWord source ":" c = false) :
    targets source cs = cs := by
  have hfront : cs.takeWhile (!isWord source "=" ·) = cs :=
    List.takeWhile_eq_self_iff.2 fun c hc => by simp [(h c hc).1]
  have hcolon : cs.any (isWord source ":") = false :=
    List.any_eq_false.2 fun c hc => by simp [(h c hc).2]
  simp only [targets, hfront, hcolon]
  rfl

/-- What stands behind an equals sign is not bound. -/
theorem mem_asides_of_default {front back : List Tree} {c e : Tree}
    (he : isWord source "=" e = true) (hc : c ∈ back) : c ∈ asides source (front ++ e :: back) := by
  have hback : c ∈ (front ++ e :: back).dropWhile (!isWord source "=" ·) := by
    induction front with
    | nil => simpa [he] using .inr hc
    | cons f front ih =>
      rw [List.cons_append, List.dropWhile_cons]
      split
      · exact ih
      · simp [hc]
  simp only [asides]
  split
  · exact List.mem_append_right _ hback
  · exact hback

/-- What a pattern binds is a name. -/
theorem Bound.isName (h : Bound source p t) : isName t = true := by
  induction h with
  | name h => exact h
  | part _ _ ih => exact ih

/-- What a pattern binds is in the pattern. -/
theorem Bound.mem (h : Bound source p t) : t ∈ p.subtrees := by
  induction h with
  | name _ => exact self_mem_subtrees _
  | part hc _ ih => exact mem_subtrees_of_mem_child (mem_targets_or_asides.2 (.inl hc)) ih

/-- What stands aside in a pattern is in the pattern. -/
theorem Aside.mem (h : Aside source p t) : t ∈ p.subtrees := by
  induction h with
  | here hc ht => exact mem_subtrees_of_mem_child (mem_targets_or_asides.2 (.inr hc)) ht
  | part hc _ ih => exact mem_subtrees_of_mem_child (mem_targets_or_asides.2 (.inl hc)) ih

/-- Every name in a pattern is bound or stands in a key or a default. -/
theorem bound_or_aside (source : Source) (hname : isName t = true) (ht : t ∈ p.subtrees) :
    Bound source p t ∨ Aside source p t := by
  induction p using induct with
  | step p ih =>
    rcases mem_subtrees.1 ht with rfl | ⟨c, hc, ht⟩
    · exact .inl (.name hname)
    · rcases mem_targets_or_asides.1 hc with htarget | haside
      · exact (ih c hc ht).imp (.part htarget) (.part htarget)
      · exact .inr (.here haside ht)

/-- The check for a bound name takes the names in keys and defaults for bound ones. -/
theorem binds_iff :
    binds source name p = true ↔ BindsName source name p ∨ UsesName source name p := by
  have hbinds : binds source name p = true ↔
      ∃ t ∈ p.subtrees, isName t = true ∧ t.text source = name := by
    simp [binds, isName]
  rw [hbinds]
  constructor
  · rintro ⟨t, ht, hname, htext⟩
    rcases bound_or_aside source hname ht with hbound | haside
    · exact .inl ⟨t, hbound, htext⟩
    · exact .inr ⟨t, hname, haside, htext⟩
  · rintro (⟨t, hbound, htext⟩ | ⟨t, hname, haside, htext⟩)
    · exact ⟨t, hbound.mem, hbound.isName, htext⟩
    · exact ⟨t, haside.mem, hname, htext⟩

end

/-! ## Statements of the top level -/

/-- Whether a part of an import statement gives a name to what is imported. -/
def importsAs (source : Source) (name : Text) (t : Tree) : Bool :=
  match t.kind with
  | .importSpecifier =>
    (t.child? .alias <|> t.child? .name).any fun bound => bound.text source = name
  | .importClause | .namespaceImport =>
    t.namedChildren.any fun c => c.kind = .identifier && c.text source = name
  | _ => false

/-- Whether an import, or a part of it, imports types only. -/
def isTypeOnly (source : Source) (t : Tree) : Bool :=
  t.children.any fun c => isWord source "type" c || isWord source "typeof" c

/-- The declaration that a statement is, or exports. -/
def declaration? (s : Tree) : Option Tree :=
  if s.kind = .exportStatement then s.child? .declaration else some s

/-- A pattern of a declaration of variables that a statement is, or exports. -/
def DeclaresPattern (s p : Tree) : Prop :=
  ∃ d, declaration? s = some d ∧ (d.kind = .lexicalDeclaration ∨ d.kind = .variableDeclaration) ∧
    ∃ v ∈ d.namedChildren, v.kind = .declarator ∧ v.child? .name = some p

/-- A statement binds a name: it imports a value of this name, a pattern of it binds the name, or it
defines a function of this name. -/
inductive BindsTop (source : Source) (name : Text) (s : Tree) : Prop where
  | imported {t : Tree} : s.kind = .importStatement → t ∈ s.subtrees →
      importsAs source name t = true → isTypeOnly source s = false →
      isTypeOnly source t = false → BindsTop source name s
  | declared {p : Tree} : DeclaresPattern s p → BindsName source name p → BindsTop source name s
  | defined {d n : Tree} : declaration? s = some d →
      d.kind = .functionDeclaration ∨ d.kind = .generatorDeclaration →
      d.child? .name = some n → n.text source = name → BindsTop source name s

/-- A statement is taken for one that binds a name: it imports a type of this name, or a pattern of
it uses the name. -/
inductive MisreadTop (source : Source) (name : Text) (s : Tree) : Prop where
  | typeOnly {t : Tree} : s.kind = .importStatement → t ∈ s.subtrees →
      importsAs source name t = true → isTypeOnly source s = true ∨ isTypeOnly source t = true →
      MisreadTop source name s
  | used {p : Tree} : DeclaresPattern s p → UsesName source name p → MisreadTop source name s

section
variable {source : Source} {name : Text} {s d : Tree}

/-- A statement imports a name when one of its parts brings it in under that name. -/
theorem importsName_iff :
    importsName source name s = true ↔ ∃ t ∈ s.subtrees, importsAs source name t = true :=
  List.any_eq_true

/-- A declaration binds a name when a declarator's pattern does, or when it defines a function of
that name. -/
theorem declarationBinds_iff : declarationBinds source name d = true ↔
    (d.kind = .lexicalDeclaration ∨ d.kind = .variableDeclaration) ∧
      (∃ v ∈ d.namedChildren, v.kind = .declarator ∧
        ∃ p, v.child? .name = some p ∧ binds source name p = true) ∨
    (d.kind = .functionDeclaration ∨ d.kind = .generatorDeclaration) ∧
      ∃ n, d.child? .name = some n ∧ n.text source = name := by
  unfold declarationBinds
  split
  next hkind => simp [hkind, Option.any_eq_true]
  next hkind => simp [hkind, Option.any_eq_true]
  next hkind => simp [hkind, Option.any_eq_true]
  next hkind => simp [hkind, Option.any_eq_true]
  next h₁ h₂ h₃ h₄ =>
    refine iff_of_false Bool.false_ne_true ?_
    rintro (⟨hkind | hkind, -⟩ | ⟨hkind | hkind, -⟩)
    · exact h₁ hkind
    · exact h₂ hkind
    · exact h₃ hkind
    · exact h₄ hkind

/-- An import statement declares no variables and no functions. -/
theorem declarationBinds_of_import (h : s.kind = .importStatement) :
    declarationBinds source name s = false := by
  simp [declarationBinds, h]

/-- A statement binds a name by importing it or by the declaration in it. -/
theorem statementBinds_eq : statementBinds source name s =
    (s.kind = .importStatement && importsName source name s ||
      (declaration? s).any (declarationBinds source name)) := by
  unfold statementBinds declaration?
  split
  next hkind => simp [hkind, declarationBinds_of_import hkind]
  next hkind => simp [hkind]
  next himport hexport =>
    have hi : ¬ s.kind = .importStatement := himport
    have he : ¬ s.kind = .exportStatement := hexport
    simp [hi, he]

/-- The check of a statement takes types and names that are used for bound names. -/
theorem statementBinds_iff : statementBinds source name s = true ↔
    BindsTop source name s ∨ MisreadTop source name s := by
  rw [statementBinds_eq, Bool.or_eq_true, Bool.and_eq_true, decide_eq_true_eq, importsName_iff,
    Option.any_eq_true]
  constructor
  · rintro (⟨hkind, t, ht, himports⟩ | ⟨d, hd, hbinds⟩)
    · cases hs : isTypeOnly source s with
      | true => exact .inr (.typeOnly hkind ht himports (.inl hs))
      | false =>
        cases ht' : isTypeOnly source t with
        | true => exact .inr (.typeOnly hkind ht himports (.inr ht'))
        | false => exact .inl (.imported hkind ht himports hs ht')
    · rcases declarationBinds_iff.1 hbinds with
        ⟨hkind, v, hv, hv', p, hp, hbinds⟩ | ⟨hkind, n, hn, hname⟩
      · have hdeclares : DeclaresPattern s p := ⟨d, hd, hkind, v, hv, hv', hp⟩
        exact (binds_iff.1 hbinds).imp (.declared hdeclares) (.used hdeclares)
      · exact .inl (.defined hd hkind hn hname)
  · have hpattern : ∀ {p}, DeclaresPattern s p → binds source name p = true →
        ∃ d, declaration? s = some d ∧ declarationBinds source name d = true := by
      rintro p ⟨d, hd, hkind, v, hv, hv', hp⟩ hbinds
      exact ⟨d, hd, declarationBinds_iff.2 (.inl ⟨hkind, v, hv, hv', p, hp, hbinds⟩)⟩
    rintro (h | h)
    · cases h with
      | imported hkind ht himports _ _ => exact .inl ⟨hkind, _, ht, himports⟩
      | declared hdeclares hbinds => exact .inr (hpattern hdeclares (binds_iff.2 (.inl hbinds)))
      | defined hd hkind hn hname =>
        exact .inr ⟨_, hd, declarationBinds_iff.2 (.inr ⟨hkind, _, hn, hname⟩)⟩
    · cases h with
      | typeOnly hkind ht himports _ => exact .inl ⟨hkind, _, ht, himports⟩
      | used hdeclares huses => exact .inr (hpattern hdeclares (binds_iff.2 (.inr huses)))

end

/-! ## Scopes -/

/-- Whether a tree is a case of a switch. -/
def isCase (source : Source) (t : Tree) : Bool :=
  t.kind = .phrase &&
    t.children.head?.any fun c => isWord source "case" c || isWord source "default" c

/-- The words that statements of control begin with. -/
def flowWords : List Text :=
  ["if", "for", "while", "do", "switch", "case", "default", "try", "with"]

/-- Whether a variable declared by `var` is hoisted through a tree: a block, the file, a statement
of control, or a statement with a label. -/
def isFlow (source : Source) (t : Tree) : Bool :=
  t.kind = .block || t.kind = .program ||
    t.kind = .phrase && (t.children.head?.any (fun c => flowWords.any (isWord source · c)) ||
      (t.children.drop 1).head?.any (isWord source ":"))

/-- The outermost of some trees around a tree that a variable is hoisted to. -/
def hoist (source : Source) (t : Tree) : List Tree → Tree
  | [] => t
  | a :: around => if isFlow source a then hoist source a around else t

/-- The scope of a variable declared by `var`, by the trees around its declarator: from the nearest
block on it is hoisted up to the function around it. -/
def hoistedScope (source : Source) (around : List Tree) : Option Span :=
  match around.dropWhile (fun a => !decide (a.kind = .block)) with
  | [] => around.getLast?.map (·.span)
  | block :: around => some (hoist source block around).span

/-- The scope of a variable declared by `let` or `const`, by the trees around its declaration: the
construct that the declaration stands in. All cases of a switch are one scope. -/
def lexicalScope (source : Source) (around : List Tree) : Option Span :=
  match around.dropWhile (·.kind = .exportStatement) with
  | [] => none
  | a :: around =>
    if isCase source a then
      around.head?.map fun switch =>
        ⟨((switch.children.find? (isCase source)).getD switch).start, switch.stop⟩
    else some a.span

/-- The scope of the variables of a declarator. -/
def scope (source : Source) (v : Visit) : Option Span :=
  match v.ancestors with
  | [] => none
  | d :: around =>
    if d.kind = .lexicalDeclaration then lexicalScope source around
    else hoistedScope source (d :: around)

/-- A span holds all edits. -/
def HoldsAll (s : Span) (edits : List Edit) : Prop := ∀ e ∈ edits, Within e.span s

instance (s : Span) (edits : List Edit) : Decidable (HoldsAll s edits) :=
  inferInstanceAs (Decidable (∀ e ∈ edits, _))

/-- The nearest block around a tree holds all edits. -/
def BlockHolds (v : Visit) (edits : List Edit) : Prop :=
  ∃ block, v.ancestors.find? (·.kind = .block) = some block ∧ HoldsAll block.span edits

/-- The scope of a declarator holds all edits. -/
def ScopeHolds (source : Source) (v : Visit) (edits : List Edit) : Prop :=
  ∃ s, scope source v = some s ∧ HoldsAll s edits

/-- The declaration of a declarator is confined to something smaller than a block: it is a lexical
one, and what it stands in is no block. -/
def Confined (v : Visit) : Prop :=
  ∃ d around, v.ancestors = d :: around ∧ d.kind = .lexicalDeclaration ∧
    ∀ a ∈ (around.dropWhile (·.kind = .exportStatement)).head?, a.kind ≠ .block

section
variable {source : Source} {edits : List Edit} {root t : Tree} {v : Visit}
  {ancestors around : List Tree}

/-- Trees around a tree that is met lie inside those further out. -/
theorem ancestors_nested (hplaced : ∀ v ∈ visitsUnder ancestors t, Placed source v)
    (haround : (t :: ancestors).Pairwise fun a b => Within a.span b.span)
    (hv : v ∈ visitsUnder ancestors t) :
    (v.tree :: v.ancestors).Pairwise fun a b => Within a.span b.span := by
  induction t using induct generalizing ancestors with
  | step t ih =>
    rcases mem_visitsUnder.1 hv with rfl | ⟨c, hc, hv⟩
    · exact haround
    · have hbelow : ∀ w ∈ visitsUnder (t :: ancestors) c, Placed source w :=
        fun w hw => hplaced w (mem_visitsUnder.2 (.inr ⟨c, hc, hw⟩))
      refine ih c hc hbelow (List.pairwise_cons.2 ⟨fun a ha => ?_, haround⟩) hv
      have hct : Within c.span t.span := (hplaced _ (self_mem_visitsUnder ..)).inside c hc
      rcases List.mem_cons.1 ha with rfl | ha
      · exact hct
      · exact hct.trans ((List.pairwise_cons.1 haround).1 a ha)

/-- A wider span holds the edits that a span in it holds. -/
theorem HoldsAll.mono {s s' : Span} (h : HoldsAll s edits) (hs : Within s s') : HoldsAll s' edits :=
  fun e he => (h e he).trans hs

/-- Hoisting does not leave the tree it starts from. -/
theorem within_hoist (h : (t :: around).Pairwise fun a b => Within a.span b.span) :
    Within t.span (hoist source t around).span := by
  induction around generalizing t with
  | nil => exact ⟨Nat.le_refl _, Nat.le_refl _⟩
  | cons a around ih =>
    rw [hoist]
    split
    · obtain ⟨hfirst, hrest⟩ := List.pairwise_cons.1 h
      exact (hfirst a List.mem_cons_self).trans (ih hrest)
    · exact ⟨Nat.le_refl _, Nat.le_refl _⟩

/-- What is found first is what is left when all before it is dropped. -/
theorem exists_dropWhile_of_find? {q : Tree → Bool} {ts : List Tree} (h : ts.find? q = some t) :
    ∃ rest, ts.dropWhile (fun a => !q a) = t :: rest := by
  rw [List.find?_eq_head?_dropWhile_not] at h
  exact List.head?_eq_some_iff.1 h

/-- A hoisted variable is seen in all of the nearest block. -/
theorem scopeHolds_of_hoisted (hnested : v.ancestors.Pairwise fun a b => Within a.span b.span)
    (hkind : ∀ d ∈ v.ancestors.head?, d.kind ≠ .lexicalDeclaration) (h : BlockHolds v edits) :
    ScopeHolds source v edits := by
  obtain ⟨block, hfind, hholds⟩ := h
  obtain ⟨around, hdrop⟩ := exists_dropWhile_of_find? hfind
  have hwithin : Within block.span (hoist source block around).span :=
    within_hoist (hdrop ▸ hnested.sublist (List.dropWhile_sublist _))
  refine ⟨_, ?_, hholds.mono hwithin⟩
  unfold scope
  split
  next hnil =>
    rw [hnil] at hfind
    cases hfind
  next d around' hcons =>
    rw [if_neg (hkind d (by rw [hcons]; rfl)), ← hcons, hoistedScope, hdrop]

/-- A lexical variable is seen in all of the block that its declaration stands in. -/
theorem scopeHolds_of_lexical {d a : Tree} {rest : List Tree} (hcons : v.ancestors = d :: around)
    (hkind : d.kind = .lexicalDeclaration)
    (haround : around.dropWhile (·.kind = .exportStatement) = a :: rest) (hblock : a.kind = .block)
    (h : BlockHolds v edits) : ScopeHolds source v edits := by
  obtain ⟨block, hfind, hholds⟩ := h
  have hexports : ∀ e ∈ around.takeWhile (·.kind = .exportStatement), e.kind ≠ .block := by
    intro e he
    have hexport : e.kind = .exportStatement := by simpa using List.mem_takeWhile_imp he
    simp [hexport]
  have hnearest : v.ancestors.find? (·.kind = .block) = some a := by
    rw [hcons, List.find?_cons_of_neg (by simp [hkind]),
      ← List.takeWhile_append_dropWhile (p := fun t => decide (t.kind = .exportStatement))
        (l := around), haround, List.find?_append, List.find?_eq_none.2 (by simpa using hexports),
      Option.none_or, List.find?_cons_of_pos (by simpa using hblock)]
  rw [hnearest, Option.some_inj] at hfind
  refine ⟨a.span, ?_, hfind ▸ hholds⟩
  have hcase : isCase source a = false := by simp [isCase, hblock]
  rw [scope, hcons]
  simp only [if_pos hkind, lexicalScope, haround, hcase]
  rfl

/-- **Blocks and scopes.** If the nearest block around a declarator holds all edits, then so does
its scope, or the declaration is confined to something smaller. -/
theorem scopeHolds_or_confined (hplaced : ∀ v ∈ root.visits, Placed source v)
    (hv : v ∈ root.visits) (h : BlockHolds v edits) : ScopeHolds source v edits ∨ Confined v := by
  have hnested := (List.pairwise_cons.1
    (ancestors_nested hplaced (List.pairwise_singleton ..) hv)).2
  by_cases hlexical : ∃ d ∈ v.ancestors.head?, d.kind = .lexicalDeclaration
  · obtain ⟨d, hd, hkind⟩ := hlexical
    obtain ⟨around, hcons⟩ := List.head?_eq_some_iff.1 hd
    by_cases hblock : ∃ a ∈ (around.dropWhile (·.kind = .exportStatement)).head?, a.kind = .block
    · obtain ⟨a, ha, hblock⟩ := hblock
      obtain ⟨rest, haround⟩ := List.head?_eq_some_iff.1 ha
      exact .inl (scopeHolds_of_lexical hcons hkind haround hblock h)
    · exact .inr ⟨d, around, hcons, hkind, fun a ha hkind => hblock ⟨a, ha, hkind⟩⟩
  · exact .inl (scopeHolds_of_hoisted hnested (fun d hd hkind => hlexical ⟨d, hd, hkind⟩) h)

end

/-! ## The check -/

/-- A visit is to a declarator with a pattern. -/
def HasPattern (v : Visit) (p : Tree) : Prop :=
  v.tree.kind = .declarator ∧ v.tree.child? .name = some p

/-- Every edit can see a variable or function of a name: a statement of the top level binds it, or
a declarator binds it and has a scope that holds all edits. -/
inductive Sees (source : Source) (name : Text) (root : Tree) (edits : List Edit) : Prop where
  | top {s : Tree} : s ∈ root.namedChildren → BindsTop source name s → Sees source name root edits
  | inside {v : Visit} {p : Tree} : v ∈ root.visits → HasPattern v p → BindsName source name p →
      ScopeHolds source v edits → Sees source name root edits

/-- A declaration is taken for one that every edit can see. -/
inductive Misread (source : Source) (name : Text) (root : Tree) (edits : List Edit) : Prop where
  | top {s : Tree} : s ∈ root.namedChildren → MisreadTop source name s →
      Misread source name root edits
  | used {v : Visit} {p : Tree} : v ∈ root.visits → HasPattern v p → UsesName source name p →
      BlockHolds v edits → Misread source name root edits
  | confined {v : Visit} {p : Tree} : v ∈ root.visits → HasPattern v p → BindsName source name p →
      BlockHolds v edits → Confined v → ¬ ScopeHolds source v edits →
      Misread source name root edits

section
variable {source : Source} {name : Text} {root : Tree} {edits : List Edit} {v : Visit}

/-- The check says yes at a node when it has a pattern that is found to bind the name and the
nearest block holds all edits. -/
theorem localBinds_iff : localBinds source name edits v = true ↔
    ∃ p, HasPattern v p ∧ binds source name p = true ∧ BlockHolds v edits := by
  have hholds : ∀ block : Tree, (edits.all fun e => decide (block.start ≤ e.start) &&
      decide (e.stop ≤ block.stop)) = true ↔ HoldsAll block.span edits := by
    intro block
    simp only [List.all_eq_true, Bool.and_eq_true, decide_eq_true_eq]
    exact Iff.rfl
  simp only [localBinds, Bool.and_eq_true, decide_eq_true_eq, Option.any_eq_true, hholds]
  constructor
  · rintro ⟨⟨hkind, p, hp, hbinds⟩, hblock⟩
    exact ⟨p, ⟨hkind, hp⟩, hbinds, hblock⟩
  · rintro ⟨p, ⟨hkind, hp⟩, hbinds, hblock⟩
    exact ⟨⟨hkind, p, hp, hbinds⟩, hblock⟩

/-- The check says yes exactly when a top statement binds the name or is taken to, or when a
declarator somewhere has a pattern that binds or uses the name and a block that holds all edits. -/
theorem declares_eq_true_iff (hne : edits ≠ []) : declares source name root edits = true ↔
    (∃ s ∈ root.namedChildren, BindsTop source name s ∨ MisreadTop source name s) ∨
    ∃ v ∈ root.visits, ∃ p, HasPattern v p ∧
      (BindsName source name p ∨ UsesName source name p) ∧ BlockHolds v edits := by
  have hnonempty : (!edits.isEmpty) = true := by simpa using hne
  simp only [declares, Bool.or_eq_true, hnonempty, Bool.true_and, List.any_eq_true,
    statementBinds_iff, localBinds_iff, binds_iff]

/-- **When the function counts as declared.** For every tree and all edits, the check says that the
edits can see the function exactly if a statement of the top level binds the name; or a declarator
binds it, and both its scope and the nearest block around it hold all edits; or a declaration is
misread: it imports a type only, or only uses the name in a key or a default of a pattern, or it is
a lexical one whose scope is smaller than the nearest block. So where nothing is misread, every
edit sees the function. -/
theorem declares_iff (hplaced : ∀ v ∈ root.visits, Placed source v) (hne : edits ≠ []) :
    (declares source name root edits = true ↔
      (∃ s ∈ root.namedChildren, BindsTop source name s) ∨
      (∃ v ∈ root.visits, ∃ p, HasPattern v p ∧ BindsName source name p ∧
        ScopeHolds source v edits ∧ BlockHolds v edits) ∨
      Misread source name root edits) ∧
    (declares source name root edits = true → ¬ Misread source name root edits →
      Sees source name root edits) := by
  have hiff : declares source name root edits = true ↔
      (∃ s ∈ root.namedChildren, BindsTop source name s) ∨
      (∃ v ∈ root.visits, ∃ p, HasPattern v p ∧ BindsName source name p ∧
        ScopeHolds source v edits ∧ BlockHolds v edits) ∨
      Misread source name root edits := by
    rw [declares_eq_true_iff hne]
    constructor
    · rintro (⟨s, hs, hbinds | hmisread⟩ | ⟨v, hv, p, hp, hbinds | huses, hblock⟩)
      · exact .inl ⟨s, hs, hbinds⟩
      · exact .inr (.inr (.top hs hmisread))
      · by_cases hscope : ScopeHolds source v edits
        · exact .inr (.inl ⟨v, hv, p, hp, hbinds, hscope, hblock⟩)
        · have hconfined := (scopeHolds_or_confined hplaced hv hblock).resolve_left hscope
          exact .inr (.inr (.confined hv hp hbinds hblock hconfined hscope))
      · exact .inr (.inr (.used hv hp huses hblock))
    · rintro (⟨s, hs, hbinds⟩ | ⟨v, hv, p, hp, hbinds, -, hblock⟩ | hmisread)
      · exact .inl ⟨s, hs, .inl hbinds⟩
      · exact .inr ⟨v, hv, p, hp, .inl hbinds, hblock⟩
      · cases hmisread with
        | top hs hmisread => exact .inl ⟨_, hs, .inr hmisread⟩
        | used hv hp huses hblock => exact .inr ⟨_, hv, _, hp, .inr huses, hblock⟩
        | confined hv hp hbinds hblock _ _ => exact .inr ⟨_, hv, _, hp, .inl hbinds, hblock⟩
  refine ⟨hiff, fun hdeclares hread => ?_⟩
  rcases hiff.1 hdeclares with ⟨s, hs, hbinds⟩ | ⟨v, hv, p, hp, hbinds, hscope, -⟩ | hmisread
  · exact .top hs hbinds
  · exact .inside hv hp hbinds hscope
  · exact absurd hmisread hread

end

/-! ## A default and a loop -/

/-- A file in which the function is the default of another variable. -/
def defaultSource : Source := .ofChars "let { a = t } = b\nc = <p>Hello</p>".toList

/-- The pattern of this file. -/
def defaultPattern : Tree :=
  .node .phrase (some .name) ⟨4, 13⟩ [
    .node .token none ⟨4, 5⟩ [],
    .node .phrase none ⟨6, 11⟩ [
      .node .shorthandBinding none ⟨6, 7⟩ [],
      .node .token none ⟨8, 9⟩ [],
      .node .identifier none ⟨10, 11⟩ []],
    .node .token none ⟨12, 13⟩ []]

/-- The declaration of this file. -/
def defaultDeclaration : Tree :=
  .node .lexicalDeclaration none ⟨0, 17⟩ [
    .node .token none ⟨0, 3⟩ [],
    .node .declarator none ⟨4, 17⟩ [
      defaultPattern,
      .node .token none ⟨14, 15⟩ [],
      .node .identifier none ⟨16, 17⟩ []]]

/-- The tree of this file. -/
def defaultTree : Tree :=
  .node .program none ⟨0, 34⟩ [
    defaultDeclaration,
    .node .expressionStatement none ⟨18, 34⟩ [
      .node .phrase none ⟨18, 34⟩ [
        .node .identifier none ⟨18, 19⟩ [],
        .node .token none ⟨20, 21⟩ [],
        helloElement 22]]]

/-- The name of the function stands in the default. -/
theorem usesName_default : UsesName defaultSource "t" defaultPattern := by
  have hplain : targets defaultSource defaultPattern.children = defaultPattern.children :=
    targets_of_plain (by decide +kernel)
  have hdefault : .node .identifier none ⟨10, 11⟩ [] ∈ asides defaultSource
      ([.node .shorthandBinding none ⟨6, 7⟩ []] ++ .node .token none ⟨8, 9⟩ [] ::
        [.node .identifier none ⟨10, 11⟩ []]) :=
    mem_asides_of_default (by decide +kernel) (List.mem_singleton_self _)
  refine ⟨.node .identifier none ⟨10, 11⟩ [], rfl, ?_, by decide +kernel⟩
  refine .part (c := .node .phrase none ⟨6, 11⟩ _) ?_ (.here hdefault (self_mem_subtrees _))
  rw [hplain]
  exact .tail _ (.head _)

/-- The check takes the default for a declaration of the function. -/
theorem declares_iff_default :
    declares defaultSource "t" defaultTree [⟨25, 30, "\x7bt('A_hello')\x7d"⟩] = true := by
  have hdeclares : DeclaresPattern defaultDeclaration defaultPattern :=
    ⟨_, rfl, .inl rfl, _, .head _, rfl, rfl⟩
  refine (declares_iff (by decide) (List.cons_ne_nil _ _)).1.2 (.inr (.inr ?_))
  exact .top (.head _) (.used hdeclares usesName_default)

/-- A file with a variable of a loop. -/
def loopSource : Source :=
  .ofChars "function f() { for (let t;;) {} return <p>Hello</p> }".toList

/-- The tree of this file. -/
def loopTree : Tree :=
  .node .program none ⟨0, 53⟩ [
    .node .functionDeclaration none ⟨0, 53⟩ [
      .node .token none ⟨0, 8⟩ [],
      .node .identifier (some .name) ⟨9, 10⟩ [],
      .node .phrase none ⟨10, 12⟩ [
        .node .token none ⟨10, 11⟩ [],
        .node .token none ⟨11, 12⟩ []],
      .node .block none ⟨13, 53⟩ [
        .node .token none ⟨13, 14⟩ [],
        .node .phrase none ⟨15, 31⟩ [
          .node .token none ⟨15, 18⟩ [],
          .node .token none ⟨19, 20⟩ [],
          .node .lexicalDeclaration none ⟨20, 26⟩ [
            .node .token none ⟨20, 23⟩ [],
            .node .declarator none ⟨24, 25⟩ [.node .identifier (some .name) ⟨24, 25⟩ []],
            .node .token none ⟨25, 26⟩ []],
          .node .token none ⟨26, 27⟩ [],
          .node .token none ⟨27, 28⟩ [],
          .node .block none ⟨29, 31⟩ [
            .node .token none ⟨29, 30⟩ [],
            .node .token none ⟨30, 31⟩ []]],
        .node .phrase none ⟨32, 51⟩ [
          .node .token none ⟨32, 38⟩ [],
          helloElement 39],
        .node .token none ⟨52, 53⟩ []]]]

/-- Where no import is put in, the edits do not always see the function: the variable of a loop is
taken for it. -/
theorem declares_not_sees : ¬ ∀ (source : Source) (name : Text) (root : Tree) (edits : List Edit),
    (∀ v ∈ root.visits, Placed source v) → edits ≠ [] →
    declares source name root edits = true → Sees source name root edits := by
  intro hall
  have htop : ∀ s ∈ loopTree.namedChildren, statementBinds loopSource "t" s = false := by
    decide +kernel
  have hscope : ∀ v ∈ loopTree.visits, v.tree.kind = .declarator →
      (scope loopSource v).all (fun s => !decide (HoldsAll s [⟨42, 47, []⟩])) = true := by
    decide +kernel
  have hsees := hall loopSource "t" loopTree [⟨42, 47, []⟩] (by decide +kernel)
    (List.cons_ne_nil _ _) (by decide +kernel)
  cases hsees with
  | top hs hbinds =>
    have hstatement := statementBinds_iff.2 (.inl hbinds)
    rw [htop _ hs] at hstatement
    cases hstatement
  | inside hv hp _ hholds =>
    obtain ⟨s, hs, hholds⟩ := hholds
    have hnone := hscope _ hv hp.1
    rw [hs] at hnone
    simp [hholds] at hnone

end Localization.Extraction
