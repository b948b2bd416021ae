import Mathlib.Tactic.Basic

/-!
# Runs of a Stepping System

A system that takes one event at a time, and what holds along its runs.

The step is a partial function: an event that is not enabled in a state has
no successor there. Everything nondeterministic about the system (the order of
the events, what the environment answers) is in the events, so a run is fixed
by its starting state and its list of events, and can be evaluated.

Two ways of speaking about the whole of a run are needed. `Always` is a
property of every state the run visits, the first and the last included.
`Along` is a condition on every step the run takes, read off the state before
the step and the event. `always_of_along` turns the second into the first, and
`always_iff_along` says when the two are the same.

## Main definitions

* `exec`: The state a list of events leads to, if every event is enabled.
* `Always`: A property of every state visited.
* `Along`: A condition on every step taken.

## Theorems

* `exec_append`: Splitting a run at an intermediate state.
* `exec_invariant`: What every step preserves holds at the end of a run.
* `always_exec`: What holds at every state holds at the last.
* `along_append`: A condition on a run is one on both its halves.
* `along_iff_forall_append`: A condition on a run is one on the step after each beginning.
* `along_and`, `along_of_forall`: Building a condition on the steps.
* `exec_invariant_along`: Preservation under a condition on the steps.
* `always_of_along`: A condition on the steps makes the property hold always.
* `always_iff_along`: An exact condition on the steps.
* `always_mono`: What a property implies holds always with it.
* `always_congr`, `along_congr`: Properties and conditions that agree under an
  invariant.
-/

namespace Lib

variable {σ ε : Type*} (step : σ → ε → Option σ)

/-- Take the events in order, or stop with `none` at one that is not enabled. -/
def exec : σ → List ε → Option σ
  | s, [] => some s
  | s, e :: es => (step s e).bind fun s' => exec s' es

/-- Every state the run visits satisfies `P`. -/
def Always (P : σ → Prop) : σ → List ε → Prop
  | s, [] => P s
  | s, e :: es => P s ∧ ∀ s', step s e = some s' → Always P s' es

/-- Every step the run takes meets `C` in the state it is taken from. -/
def Along (C : σ → ε → Prop) : σ → List ε → Prop
  | _, [] => True
  | s, e :: es => ∀ s', step s e = some s' → C s e ∧ Along C s' es

@[simp] theorem exec_nil (s : σ) : exec step s [] = some s := rfl

@[simp] theorem exec_cons (s : σ) (e : ε) (es : List ε) :
    exec step s (e :: es) = (step s e).bind fun s' => exec step s' es := rfl

theorem exec_append (s : σ) (es fs : List ε) :
    exec step s (es ++ fs) = (exec step s es).bind fun s' => exec step s' fs := by
  induction es generalizing s with
  | nil => rfl
  | cons e es ih =>
      simp only [List.cons_append, exec_cons]
      cases hs : step s e with
      | none => rfl
      | some s' => exact ih s'

variable {step}

/-- A run of at least one event takes a first step. -/
theorem exec_cons_some {s t : σ} {e : ε} {es : List ε} (h : exec step s (e :: es) = some t) :
    ∃ s', step s e = some s' ∧ exec step s' es = some t := by
  rw [exec_cons] at h
  exact Option.bind_eq_some_iff.mp h

theorem exec_invariant {P : σ → Prop} (hstep : ∀ s e t, P s → step s e = some t → P t)
    {s t : σ} {es : List ε} (hs : P s) (h : exec step s es = some t) : P t := by
  induction es generalizing s with
  | nil =>
      simp only [exec_nil, Option.some.injEq] at h
      rw [← h]
      exact hs
  | cons e es ih =>
      rcases exec_cons_some h with ⟨s', hs', ht⟩
      exact ih (hstep s e s' hs hs') ht

theorem always_head {P : σ → Prop} {s : σ} {es : List ε} (h : Always step P s es) : P s := by
  cases es with
  | nil => exact h
  | cons e es => exact h.1

theorem always_exec {P : σ → Prop} {s t : σ} {es : List ε} (h : Always step P s es)
    (ht : exec step s es = some t) : P t := by
  induction es generalizing s with
  | nil =>
      simp only [exec_nil, Option.some.injEq] at ht
      rw [← ht]
      exact h
  | cons e es ih =>
      rcases exec_cons_some ht with ⟨s', hs', ht'⟩
      exact ih (h.2 s' hs') ht'

/-- A run whose first step is known. -/
theorem along_cons {C : σ → ε → Prop} {s t : σ} {e : ε} {es : List ε} (hstep : step s e = some t)
    (hC : C s e) (h : Along step C t es) : Along step C s (e :: es) := by
  intro s' hs'
  rw [Option.some.inj (hs'.symm.trans hstep)]
  exact ⟨hC, h⟩

/-- A condition on every step of a run is one on every step of its two parts. -/
theorem along_append {C : σ → ε → Prop} {s : σ} {es fs : List ε} :
    Along step C s (es ++ fs) ↔
      Along step C s es ∧ ∀ t, exec step s es = some t → Along step C t fs := by
  induction es generalizing s with
  | nil =>
      refine ⟨fun h => ⟨trivial, fun t ht => ?_⟩, fun h => h.2 s rfl⟩
      rw [← Option.some.inj ht]
      exact h
  | cons e es ih =>
      constructor
      · intro h
        refine ⟨fun s' hs' => ⟨(h s' hs').1, (ih.mp (h s' hs').2).1⟩, fun t ht => ?_⟩
        rcases exec_cons_some ht with ⟨s', hs', ht'⟩
        exact (ih.mp (h s' hs').2).2 t ht'
      · rintro ⟨h, hfs⟩ s' hs'
        refine ⟨(h s' hs').1, ih.mpr ⟨(h s' hs').2, fun t ht => hfs t ?_⟩⟩
        rw [exec_cons, hs']
        exact ht

/-- A condition on every step of a run is one on the step after each of its beginnings. -/
theorem along_iff_forall_append {C : σ → ε → Prop} {s : σ} {es : List ε} :
    Along step C s es ↔ ∀ ds e rest s' t, es = ds ++ e :: rest → exec step s ds = some s' →
      step s' e = some t → C s' e := by
  constructor
  · rintro h ds e rest s' t rfl hds ht
    exact ((along_append.mp h).2 s' hds t ht).1
  · intro h
    induction es generalizing s with
    | nil => trivial
    | cons e es ih =>
        refine fun s' hs' => ⟨h [] e es s s' rfl rfl hs', ih fun ds e' rest s₁ t hes hds ht => ?_⟩
        refine h (e :: ds) e' rest s₁ t (congrArg (e :: ·) hes) ?_ ht
        rw [exec_cons, hs']
        exact hds

/-- Two conditions on the steps are one. -/
theorem along_and {C D : σ → ε → Prop} {s : σ} {es : List ε} (hC : Along step C s es)
    (hD : Along step D s es) : Along step (fun s e => C s e ∧ D s e) s es := by
  induction es generalizing s with
  | nil => trivial
  | cons e es ih =>
      intro s' hs'
      exact ⟨⟨(hC s' hs').1, (hD s' hs').1⟩, ih (hC s' hs').2 (hD s' hs').2⟩

/-- A condition on the events alone is one on the steps. -/
theorem along_of_forall {C : ε → Prop} {es : List ε} (h : ∀ e ∈ es, C e) (s : σ) :
    Along step (fun _ e => C e) s es := by
  induction es generalizing s with
  | nil => trivial
  | cons e es ih =>
      intro s' _
      exact ⟨h e List.mem_cons_self, ih (fun e' he' => h e' (List.mem_cons_of_mem e he')) s'⟩

/-- A condition on the steps under which `P` is preserved makes `P` hold at
    every state of the run. -/
theorem always_of_along {P : σ → Prop} {C : σ → ε → Prop}
    (hstep : ∀ s e t, P s → C s e → step s e = some t → P t)
    {s : σ} {es : List ε} (hs : P s) (h : Along step C s es) : Always step P s es := by
  induction es generalizing s with
  | nil => exact hs
  | cons e es ih =>
      refine ⟨hs, fun s' hs' => ?_⟩
      rcases h s' hs' with ⟨hc, hrest⟩
      exact ih (hstep s e s' hs hc hs') hrest

/-- Two properties that agree wherever an invariant holds hold always together. -/
theorem always_congr {I P Q : σ → Prop} (hstep : ∀ s e t, I s → step s e = some t → I t)
    (hPQ : ∀ s, I s → (P s ↔ Q s)) {s : σ} {es : List ε} (hs : I s) :
    Always step P s es ↔ Always step Q s es := by
  induction es generalizing s with
  | nil => exact hPQ s hs
  | cons e es ih =>
      exact and_congr (hPQ s hs)
        (forall_congr' fun s' => imp_congr_right fun hs' => ih (hstep s e s' hs hs'))

/-- Two conditions that agree wherever an invariant holds are met by the same runs. -/
theorem along_congr {I : σ → Prop} {C D : σ → ε → Prop}
    (hstep : ∀ s e t, I s → step s e = some t → I t) (hCD : ∀ s e, I s → (C s e ↔ D s e))
    {s : σ} {es : List ε} (hs : I s) : Along step C s es ↔ Along step D s es := by
  induction es generalizing s with
  | nil => exact Iff.rfl
  | cons e es ih =>
      refine forall_congr' fun s' => imp_congr_right fun hs' => ?_
      exact and_congr (hCD s e hs) (ih (hstep s e s' hs hs'))

/-- What a property implies holds always with it. -/
theorem always_mono {P Q : σ → Prop} (hPQ : ∀ s, P s → Q s) {s : σ} {es : List ε}
    (h : Always step P s es) : Always step Q s es := by
  induction es generalizing s with
  | nil => exact hPQ s h
  | cons e es ih => exact ⟨hPQ s h.1, fun s' hs' => ih (h.2 s' hs')⟩

/-- What a property of the states makes of a condition on the steps. -/
theorem along_mono {P : σ → Prop} {C D : σ → ε → Prop} (hCD : ∀ s e, P s → C s e → D s e)
    {s : σ} {es : List ε} (hP : Always step P s es) (hC : Along step C s es) :
    Along step D s es := by
  induction es generalizing s with
  | nil => trivial
  | cons e es ih =>
      intro s' hs'
      exact ⟨hCD s e hP.1 (hC s' hs').1, ih (hP.2 s' hs') (hC s' hs').2⟩

/-- What an invariant implies holds at every state of a run. -/
theorem always_of_invariant {P Q : σ → Prop} (hstep : ∀ s e t, P s → step s e = some t → P t)
    (hPQ : ∀ s, P s → Q s) {s : σ} (hs : P s) (es : List ε) : Always step Q s es := by
  induction es generalizing s with
  | nil => exact hPQ s hs
  | cons e es ih => exact ⟨hPQ s hs, fun s' hs' => ih (hstep s e s' hs hs')⟩

theorem exec_invariant_along {P : σ → Prop} {C : σ → ε → Prop}
    (hstep : ∀ s e t, P s → C s e → step s e = some t → P t)
    {s t : σ} {es : List ε} (hs : P s) (hC : Along step C s es)
    (h : exec step s es = some t) : P t :=
  always_exec (always_of_along hstep hs hC) h

/-- Where a step keeps `P` exactly when it meets `C`, a run stays in `P`
    exactly when all of its steps meet `C`. -/
theorem always_iff_along {P : σ → Prop} {C : σ → ε → Prop}
    (hstep : ∀ s e t, P s → step s e = some t → (P t ↔ C s e))
    {s : σ} {es : List ε} (hs : P s) : Always step P s es ↔ Along step C s es := by
  refine ⟨fun h => ?_, always_of_along (fun s e t hp hc ht => (hstep s e t hp ht).mpr hc) hs⟩
  induction es generalizing s with
  | nil => trivial
  | cons e es ih =>
      intro s' hs'
      have hP' : P s' := always_head (h.2 s' hs')
      exact ⟨(hstep s e s' hs hs').mp hP', ih hP' (h.2 s' hs')⟩

end Lib
