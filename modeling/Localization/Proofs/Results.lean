import Mathlib.Data.List.Forall2
import Localization.Report

/-!
# Computations that may fail

How a computation that gave a result is taken apart: a sequence of two gave a result because both
did, and so did every step of a fold. A computation that also writes records, or changes a state, is
taken apart in the same way, with the state in between.
-/

namespace Localization

universe u v w

variable {ε : Type u} {α β : Type v}

/-- Two computations in sequence give a result if the first one does and the second one does. -/
theorem bind_eq_ok {x : Except ε α} {f : α → Except ε β} {b : β} :
    x >>= f = .ok b ↔ ∃ a, x = .ok a ∧ f a = .ok b := by
  cases x with
  | error e =>
    refine ⟨fun h => (nomatch h), ?_⟩
    rintro ⟨a, ha, -⟩
    cases ha
  | ok a =>
    refine ⟨fun h => ⟨a, rfl, h⟩, ?_⟩
    rintro ⟨a', ha', h⟩
    cases ha'
    exact h

/-- A sequence of two fails if the first one does, or if the second one does after it. -/
theorem bind_eq_error {x : Except ε α} {f : α → Except ε β} {e : ε} :
    x >>= f = .error e ↔ x = .error e ∨ ∃ a, x = .ok a ∧ f a = .error e := by
  cases x with
  | error e' =>
    refine ⟨fun h => .inl ?_, fun h => ?_⟩
    · cases h
      rfl
    · rcases h with h | ⟨a, ha, -⟩
      · cases h
        rfl
      · cases ha
  | ok a =>
    refine ⟨fun h => .inr ⟨a, rfl, h⟩, fun h => ?_⟩
    rcases h with h | ⟨a', ha, h⟩
    · cases h
    · cases ha
      exact h

/-- What follows a result is run with it. -/
theorem ok_bind (a : α) (f : α → Except ε β) : .ok a >>= f = f a := rfl

/-- What follows an error is not run. -/
theorem error_bind (e : ε) (f : α → Except ε β) : .error e >>= f = .error e := rfl

/-- Renaming a fault changes no result. -/
theorem mapError_eq_ok {ε' : Type w} {x : Except ε α} {f : ε → ε'} {a : α} :
    x.mapError f = .ok a ↔ x = .ok a := by
  cases x with
  | error e => simp only [Except.mapError, reduceCtorEq]
  | ok b => simp only [Except.mapError, Except.ok.injEq]

/-- A mapped computation has a result exactly when the computation has one that is mapped to it. -/
theorem map_eq_ok {x : Except ε α} {f : α → β} {b : β} :
    x.map f = .ok b ↔ ∃ a, x = .ok a ∧ f a = b := by
  cases x with
  | error e => simp only [Except.map, reduceCtorEq, false_and, exists_false]
  | ok a => simp only [Except.map, Except.ok.injEq, exists_eq_left']

/-- Mapping results keeps errors. -/
theorem map_eq_error {x : Except ε α} {f : α → β} {e : ε} :
    x.map f = .error e ↔ x = .error e := by
  cases x with
  | error e' => simp only [Except.map, Except.error.injEq]
  | ok a => simp only [Except.map, reduceCtorEq]

/-- A mapped error comes from an error of the computation. -/
theorem mapError_eq_error {ε' : Type w} {x : Except ε α} {f : ε → ε'} {e' : ε'} :
    x.mapError f = .error e' ↔ ∃ e, x = .error e ∧ f e = e' := by
  cases x with
  | error e => simp only [Except.mapError, Except.error.injEq, exists_eq_left']
  | ok a => simp only [Except.mapError, reduceCtorEq, false_and, exists_false]

/-- A computation that may fail is known by the result it gives. -/
theorem eq_ok_of_toOption {x : Except ε α} {a : α} (h : x.toOption = some a) : x = .ok a := by
  cases x with
  | error e => cases h
  | ok b => rw [Option.some.inj h]

/-- What every step of a fold adds to, and a sequence of steps adds up, the whole fold adds to. -/
theorem foldlM_extends {γ : Type w} {δ : Type*} {f : α → γ → Except ε α} (g : γ → List δ)
    {R : List δ → α → α → Prop} (hrefl : ∀ a, R [] a a)
    (htrans : ∀ {l l' a b c}, R l a b → R l' b c → R (l ++ l') a c)
    (hstep : ∀ a x b, f a x = .ok b → R (g x) a b) {xs : List γ} {a b : α}
    (h : xs.foldlM f a = .ok b) : R (xs.flatMap g) a b := by
  induction xs generalizing a with
  | nil =>
    cases h
    exact hrefl b
  | cons x xs ih =>
    rw [List.foldlM_cons, bind_eq_ok] at h
    obtain ⟨c, hc, h⟩ := h
    exact htrans (hstep a x c hc) (ih h)

/-- What every step of a fold keeps, the whole fold keeps. -/
theorem foldlM_keeps {γ : Type w} {f : α → γ → Except ε α} {P : α → Prop}
    (hstep : ∀ a x b, f a x = .ok b → P a → P b) {xs : List γ} {a b : α}
    (h : xs.foldlM f a = .ok b) (ha : P a) : P b :=
  foldlM_extends (fun _ => ([] : List Unit)) (R := fun _ a b => P a → P b) (fun _ => id)
    (fun h h' => h' ∘ h) hstep h ha

/-- Every step of a fold that gave a result gave one. -/
theorem exists_step_of_foldlM {γ : Type w} {f : α → γ → Except ε α} {xs : List γ} {a b : α}
    (h : xs.foldlM f a = .ok b) {x : γ} (hx : x ∈ xs) : ∃ c d, f c x = .ok d := by
  induction xs generalizing a with
  | nil => cases hx
  | cons y xs ih =>
    rw [List.foldlM_cons, bind_eq_ok] at h
    obtain ⟨c, hc, h⟩ := h
    rcases List.mem_cons.1 hx with rfl | hx
    · exact ⟨a, c, hc⟩
    · exact ih h hx

/-- A map gives a list of results if every item has one. -/
theorem mapM_eq_ok {γ : Type v} {f : γ → Except ε α} {xs : List γ} {ys : List α} :
    xs.mapM f = .ok ys ↔ List.Forall₂ (fun x y => f x = .ok y) xs ys := by
  induction xs generalizing ys with
  | nil =>
    rw [List.mapM_nil, List.forall₂_nil_left_iff]
    exact ⟨fun h => (Except.ok.inj h).symm, fun h => congrArg Except.ok h.symm⟩
  | cons x xs ih =>
    rw [List.mapM_cons, bind_eq_ok, List.forall₂_cons_left_iff]
    refine exists_congr fun y => ?_
    rw [bind_eq_ok]
    constructor
    · rintro ⟨hx, ys', hys', h⟩
      cases h
      exact ⟨ys', hx, ih.1 hys', rfl⟩
    · rintro ⟨ys', hx, hys', rfl⟩
      exact ⟨hx, ys', ih.2 hys', rfl⟩

/-- Every item of a map that gave a list has a result in it. -/
theorem exists_of_mem_of_mapM {γ : Type v} {f : γ → Except ε α} {xs : List γ} {ys : List α}
    (h : xs.mapM f = .ok ys) {x : γ} (hx : x ∈ xs) : ∃ y ∈ ys, f x = .ok y := by
  obtain ⟨i, hi, rfl⟩ := List.getElem_of_mem hx
  obtain ⟨hlength, hget⟩ := List.forall₂_iff_get.1 (mapM_eq_ok.1 h)
  have hi' : i < ys.length := hlength ▸ hi
  exact ⟨ys[i], List.getElem_mem hi', hget i hi hi'⟩

/-- A map that fails does so at one of its items. -/
theorem exists_of_mapM_eq_error {γ : Type v} {f : γ → Except ε α} {xs : List γ} {e : ε}
    (h : xs.mapM f = .error e) : ∃ x ∈ xs, f x = .error e := by
  induction xs with
  | nil => cases h
  | cons x xs ih =>
    rw [List.mapM_cons] at h
    cases hx : f x with
    | error e' =>
      rw [hx, error_bind] at h
      cases h
      exact ⟨x, List.mem_cons_self, hx⟩
    | ok y =>
      rw [hx, ok_bind] at h
      cases hxs : xs.mapM f with
      | error e' =>
        rw [hxs, error_bind] at h
        cases h
        obtain ⟨x', hx', hfail⟩ := ih hxs
        exact ⟨x', List.mem_cons_of_mem x hx', hfail⟩
      | ok ys =>
        rw [hxs, ok_bind] at h
        cases h

/-! ## Computations that write records -/

/-- A sequence of two computations gives what the second one gives after the first one. -/
theorem Logged.result_bind {α β : Type} (x : Logged α) (f : α → Logged β) :
    (x >>= f).result = x.result >>= fun a => (f a).result := by
  change (Logged.bind x f).result = _
  unfold Logged.bind
  cases x.result with
  | error e => rfl
  | ok a => rfl

/-! ## Computations with a state -/

section

variable {ε σ α β : Type} {x : ExceptT ε (StateM σ) α} {f : α → ExceptT ε (StateM σ) β} {s : σ}

/-- A computation that may fail leaves the state alone. -/
@[simp] theorem run_liftM (y : Except ε α) (s : σ) :
    (liftM y : ExceptT ε (StateM σ) α).run.run s = (y, s) := by
  cases y with
  | error e => rfl
  | ok a => rfl

/-- A sequence of two goes on from where the first one ended. -/
theorem run_bind_of_ok {a : α} {s' : σ} (h : x.run.run s = (.ok a, s')) :
    (x >>= f).run.run s = (f a).run.run s' := by
  have hbind : (x >>= f).run.run s = (ExceptT.bindCont f (x.run.run s).1).run (x.run.run s).2 := rfl
  rw [hbind, h]
  rfl

/-- A sequence of two ends where the first one fails. -/
theorem run_bind_of_error {e : ε} {s' : σ} (h : x.run.run s = (.error e, s')) :
    (x >>= f).run.run s = (.error e, s') := by
  have hbind : (x >>= f).run.run s = (ExceptT.bindCont f (x.run.run s).1).run (x.run.run s).2 := rfl
  rw [hbind, h]
  rfl

/-- A sequence of two gives a result if the first one does and then the second one does. -/
theorem run_bind_eq_ok {b : β} {t : σ} :
    (x >>= f).run.run s = (.ok b, t) ↔
      ∃ a s', x.run.run s = (.ok a, s') ∧ (f a).run.run s' = (.ok b, t) := by
  have hbind : (x >>= f).run.run s = (ExceptT.bindCont f (x.run.run s).1).run (x.run.run s).2 := rfl
  constructor
  · intro h
    obtain ⟨⟨r, s'⟩, hx⟩ : ∃ y, x.run.run s = y := ⟨_, rfl⟩
    rw [hbind, hx] at h
    cases r with
    | error e => cases h
    | ok a => exact ⟨a, s', hx, h⟩
  · rintro ⟨a, s', hx, hf⟩
    rw [run_bind_of_ok hx, hf]

/-- A sequence of two fails if the first one does, or if the second one does after it. -/
theorem run_bind_eq_error {e : ε} {t : σ} :
    (x >>= f).run.run s = (.error e, t) ↔ x.run.run s = (.error e, t) ∨
      ∃ a s', x.run.run s = (.ok a, s') ∧ (f a).run.run s' = (.error e, t) := by
  obtain ⟨⟨r, s'⟩, hx⟩ : ∃ y, x.run.run s = y := ⟨_, rfl⟩
  cases r with
  | error e' =>
    rw [run_bind_of_error hx, hx]
    refine ⟨fun h => .inl ?_, fun h => ?_⟩
    · cases h
      rfl
    · rcases h with h | ⟨a, s'', h, -⟩ <;> cases h
      rfl
  | ok a =>
    rw [run_bind_of_ok hx, hx]
    refine ⟨fun h => .inr ⟨a, s', rfl, h⟩, fun h => ?_⟩
    rcases h with h | ⟨a', s'', h, hf⟩ <;> cases h
    exact hf

end

end Localization
