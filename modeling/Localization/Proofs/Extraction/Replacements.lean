import Mathlib.Data.List.Basic
import Mathlib.Data.List.Nodup
import Mathlib.Data.List.Pairwise
import Localization.Proofs.Extraction.Wrap

/-!
# What a pass replaces

A visit asks for some of its spots to be replaced, whatever the pass has done so far. The pass
refuses a location that it has replaced already; as the spots of a tree lie apart and none that is
asked for is empty, this never happens. So a pass replaces exactly what the visits ask for, in their
order (`edits_of_record`).
-/

namespace Localization.Extraction

open Syntax Syntax.Tree

section
variable {o : WrapOptions} {source : Source} {p q : Pass} {v : Visit}

/-! ## What a pass makes of what is asked for -/

/-- The location that a replacement takes. -/
def Replacement.location (source : Source) (r : Replacement) : Location :=
  source.location r.span.start

/-- A pass goes on from another one by some replacements, all of them made. -/
def Pass.Takes (source : Source) (rs : List Replacement) (p q : Pass) : Prop :=
  q.edits.map Edit.span = p.edits.map Edit.span ++ rs.map (·.span) ∧
    ∀ l, l ∈ q.taken ↔ l ∈ p.taken ∨ l ∈ rs.map (·.location source)

/-- If their locations are new, replacements are made. -/
def Pass.TakesNew (source : Source) (rs : List Replacement) (p q : Pass) : Prop :=
  (rs.map (·.location source)).Nodup → (∀ l ∈ rs.map (·.location source), l ∉ p.taken) →
    p.Takes source rs q

namespace Pass.TakesNew

/-- A pass that does not go on takes nothing. -/
theorem refl (source : Source) (p : Pass) : p.TakesNew source [] p :=
  fun _ _ => ⟨(List.append_nil _).symm, fun l => by simp⟩

/-- A pass that goes on twice takes what it took both times. -/
theorem trans {p q r : Pass} {rs rs' : List Replacement} (h : p.TakesNew source rs q)
    (h' : q.TakesNew source rs' r) : p.TakesNew source (rs ++ rs') r := by
  intro hnodup hnew
  rw [List.map_append] at hnodup hnew
  obtain ⟨hnodup₁, hnodup₂, hdisjoint⟩ := List.nodup_append.1 hnodup
  obtain ⟨hedits, htaken⟩ := h hnodup₁ fun l hl => hnew l (List.mem_append_left _ hl)
  have hnew' : ∀ l ∈ rs'.map (·.location source), l ∉ q.taken := by
    intro l hl hmem
    rcases (htaken l).1 hmem with hmem | hmem
    · exact hnew l (List.mem_append_right _ hl) hmem
    · exact hdisjoint l hmem l hl rfl
  obtain ⟨hedits', htaken'⟩ := h' hnodup₂ hnew'
  refine ⟨?_, fun l => ?_⟩
  · rw [hedits', hedits, List.map_append, List.append_assoc]
  · rw [htaken', htaken, List.map_append, List.mem_append, or_assoc]

end Pass.TakesNew

/-- A replacement at a new location is made. -/
theorem take_takes {r : Replacement} (h : p.take o source r = .ok q) :
    p.TakesNew source [r] q := by
  intro _ hnew
  have hfree : p.taken.contains (source.location r.span.start) = false := by
    simpa [Replacement.location] using hnew
  simp only [Pass.take, Pass.replace, hfree, Bool.false_eq_true, if_false] at h
  obtain ⟨⟨key, registry⟩, -, h⟩ := bind_eq_ok.1 h
  cases h
  refine ⟨?_, fun l => ?_⟩
  · rw [List.map_append]
    rfl
  · simp only [List.mem_cons, List.map_cons, List.map_nil, List.not_mem_nil, or_false]
    exact Or.comm

/-- A visit takes what it asks for, each at a location that is new. -/
theorem wrapVisit_takes (h : wrapVisit o source p v = .ok q) :
    p.TakesNew source (asked o source v) q := by
  rw [wrapVisit_eq] at h
  obtain ⟨rs, hrs, h⟩ := bind_eq_ok.1 h
  rw [asked_of_ok (mapError_eq_ok.1 hrs)]
  have hall := foldlM_extends (fun r => [r]) (.refl source) .trans
    (fun _ _ _ => take_takes) h
  rwa [List.flatMap_singleton'] at hall

variable {file : Text} {root : Tree}

/-- In a pass that came to its end every visit could say what it asks for. -/
theorem replacements_of_record (h : record o source file root = .ok p) (hv : v ∈ root.visits) :
    ∃ rs, replacements o source v = .ok rs := by
  obtain ⟨registry, -, h⟩ := bind_eq_ok.1 h
  obtain ⟨a, b, hstep⟩ := exists_step_of_foldlM h hv
  rw [wrapVisit_eq] at hstep
  obtain ⟨rs, hrs, -⟩ := bind_eq_ok.1 hstep
  exact ⟨rs, mapError_eq_ok.1 hrs⟩

/-- What is asked for in a tree lies apart. -/
theorem asked_apart (hplaced : ∀ v ∈ root.visits, Placed source v)
    (hgram : ∀ v ∈ root.visits, Grammatical v) :
    (root.visits.flatMap (asked o source)).Pairwise fun r r' => r.span.Apart r'.span := by
  have hspots := List.pairwise_flatMap.1 (spots_apart_tree hplaced hgram)
  refine List.pairwise_flatMap.2 ⟨fun v hv => ?_, hspots.2.imp fun {v w} hvw r hr r' hr' => ?_⟩
  · exact List.pairwise_map.1 ((hspots.1 v hv).sublist (asked_span_sublist v))
  · exact hvw _ ((asked_span_sublist v).subset (List.mem_map_of_mem hr)) _
      ((asked_span_sublist w).subset (List.mem_map_of_mem hr'))

/-- The locations of what is asked for in a tree are different. -/
theorem nodup_locations (hplaced : ∀ v ∈ root.visits, Placed source v)
    (hgram : ∀ v ∈ root.visits, Grammatical v) :
    ((root.visits.flatMap (asked o source)).map (·.location source)).Nodup := by
  have hwhole : ∀ r ∈ root.visits.flatMap (asked o source),
      Whole source r.span ∧ r.span.start < r.span.stop := by
    intro r hr
    obtain ⟨v, hv, hr⟩ := List.mem_flatMap.1 hr
    have hspot := (asked_span_sublist v).subset (List.mem_map_of_mem hr)
    exact ⟨spots_whole hplaced hgram hv hspot, asked_span_pos hr⟩
  refine List.pairwise_map.2 ((asked_apart hplaced hgram).imp_of_mem fun {r r'} hr hr' hapart => ?_)
  obtain ⟨hw, hpos⟩ := hwhole r hr
  obtain ⟨hw', hpos'⟩ := hwhole r' hr'
  rcases hapart with hle | hle
  · exact Source.location_ne_of_lt hw.startBoundary (hpos.trans_le hle) hw'.startBoundary.le
  · exact (Source.location_ne_of_lt hw'.startBoundary (hpos'.trans_le hle) hw.startBoundary.le).symm

/-- A pass replaces exactly what the visits ask for. -/
theorem edits_of_record (hplaced : ∀ v ∈ root.visits, Placed source v)
    (hgram : ∀ v ∈ root.visits, Grammatical v) (h : record o source file root = .ok p) :
    p.edits.map Edit.span = (root.visits.flatMap (asked o source)).map (·.span) := by
  have hnodup := nodup_locations (o := o) hplaced hgram
  obtain ⟨registry, -, h⟩ := bind_eq_ok.1 h
  have htakes := foldlM_extends (asked o source) (.refl source) .trans
    (fun _ _ _ => wrapVisit_takes) h
  exact (htakes hnodup fun _ _ => List.not_mem_nil).1

/-! ## The calls that are there already -/

/-- If a node is a call with a string as its first argument, the string has a value. -/
def Legible (m : Markers) (source : Source) (t : Tree) : Prop :=
  ∀ a, literalArgument? source m.functionName t = some a →
    ∃ key, stringValue source (t.child? .arguments) a = .ok key

/-- Only calls have arguments to be read. -/
theorem legible_of_kind {m : Markers} {t : Tree} (h : t.kind ≠ .call) :
    Legible m source t := by
  intro a ha
  simp [literalArgument?, isCallOf, h] at ha

/-- The key that a node marks, if it marks one that can be read. -/
def keyOf (m : Markers) (source : Source) (t : Tree) : Option Text :=
  match t.kind with
  | .call =>
    (literalArgument? source m.functionName t).bind fun a =>
      (stringValue source (t.child? .arguments) a).toOption
  | .element => (fromElement m source [] t).map (·.key)
  | _ => none

/-- The keys of a file can be reserved if all its calls can be read, and only then. -/
theorem exists_reserveKeys_iff {registry : Key.Registry} {ts : List Tree} :
    (∃ r, reserveKeys o source registry ts = .ok r) ↔ ∀ t ∈ ts, Legible o.markers source t := by
  induction ts generalizing registry with
  | nil => exact ⟨fun _ => nofun, fun _ => ⟨registry, rfl⟩⟩
  | cons t ts ih =>
    rw [List.forall_mem_cons, Legible, reserveKeys]
    cases harg : literalArgument? source o.markers.functionName t with
    | none =>
      dsimp only
      rw [ih]
      exact ⟨fun h => ⟨nofun, h⟩, fun h => h.2⟩
    | some a =>
      dsimp only
      cases hvalue : stringValue source (t.child? .arguments) a with
      | error e =>
        constructor
        · rintro ⟨r, hr⟩
          cases hr
        · rintro ⟨h, -⟩
          obtain ⟨key, hkey⟩ := h a rfl
          rw [hvalue] at hkey
          cases hkey
      | ok key =>
        refine ih.trans ⟨fun h => ⟨?_, h⟩, fun h => h.2⟩
        rintro a' ha
        cases ha
        exact ⟨key, hvalue⟩

end

end Localization.Extraction
