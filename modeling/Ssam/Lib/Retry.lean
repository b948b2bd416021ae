import Mathlib.Algebra.BigOperators.Group.Finset.Piecewise
import Mathlib.Algebra.Order.BigOperators.Group.Finset
import Mathlib.Data.Fintype.Basic

/-!
# Retries under Several Budgets

An action is tried until its outcome is final or the budget for its outcome's kind is
spent. There are finitely many kinds, each with a budget of its own, and the outcomes
are a tape: which of them come next is not for the loop to say.

Every trial that does not end the loop is paid for by one of the budgets, so there are
no more of them than the budgets allow together.

## Main definitions

* `Outcome`: What a trial ends with, or the kind of failure it is tried again for.
* `spent`: The failures of a kind among the first trials.
* `Ends`: The trial is the last.

## Theorems

* `spent_le`: No budget is overdrawn before the end.
* `not_ends_of_spent_le`: Nothing else ends the loop.
* `exists_ends`: The budgets bound the number of trials.
-/

namespace Lib

namespace Retry

/-- The outcome of a trial: it is final, or the action is to be tried again. -/
inductive Outcome (κ β : Type*) where
  | stop (b : β)
  | again (kind : κ)

variable {κ β : Type*} [DecidableEq κ]

/-- How often the outcome is a failure of the kind. -/
def Outcome.count (kind : κ) : Outcome κ β → ℕ
  | .stop _ => 0
  | .again k => if k = kind then 1 else 0

/-- The failures of a kind among the first `n` trials. -/
def spent (tape : ℕ → Outcome κ β) (kind : κ) : ℕ → ℕ
  | 0 => 0
  | n + 1 => spent tape kind n + (tape n).count kind

/-- The `n`-th trial is the last: its outcome is final, or of a kind whose budget was
    spent before it. -/
def Ends (budget : κ → ℕ) (tape : ℕ → Outcome κ β) (n : ℕ) : Prop :=
  match tape n with
  | .stop _ => True
  | .again kind => budget kind ≤ spent tape kind n

variable {budget : κ → ℕ} {tape : ℕ → Outcome κ β} {n : ℕ}

theorem Outcome.count_self (kind : κ) : (Outcome.again kind : Outcome κ β).count kind = 1 :=
  if_pos rfl

theorem Outcome.count_ne {k kind : κ} (h : k ≠ kind) :
    (Outcome.again k : Outcome κ β).count kind = 0 := if_neg h

theorem ends_stop {b : β} (h : tape n = .stop b) : Ends budget tape n := by
  unfold Ends
  rw [h]
  trivial

theorem ends_again {kind : κ} (h : tape n = .again kind) :
    Ends budget tape n ↔ budget kind ≤ spent tape kind n := by
  unfold Ends
  rw [h]

/-- The failures of the kind, the one of this trial with them. -/
theorem spent_succ {kind : κ} (h : tape n = .again kind) :
    spent tape kind (n + 1) = spent tape kind n + 1 := by
  rw [spent, h, Outcome.count_self]

theorem spent_succ_other {kind other : κ} (hne : other ≠ kind) (h : tape n = .again other) :
    spent tape kind (n + 1) = spent tape kind n := by
  rw [spent, h, Outcome.count_ne hne, Nat.add_zero]

/-- Before the end no budget is overdrawn. -/
theorem spent_le (h : ∀ i < n, ¬ Ends budget tape i) (kind : κ) :
    spent tape kind n ≤ budget kind := by
  induction n with
  | zero => exact Nat.zero_le _
  | succ n ih =>
      have hle := ih fun i hi => h i (Nat.lt_succ_of_lt hi)
      have hn := h n (Nat.lt_succ_self n)
      cases htape : tape n with
      | stop b => exact absurd (ends_stop htape) hn
      | again k =>
          by_cases hk : k = kind
          · subst hk
            rw [spent_succ htape]
            exact Nat.lt_of_not_le fun hle => hn ((ends_again htape).mpr hle)
          · rw [spent_succ_other hk htape]
            exact hle

/-- As long as every outcome is a failure, each trial is paid for by one budget. -/
theorem sum_spent [Fintype κ] (h : ∀ i < n, ∃ kind, tape i = .again kind) :
    ∑ kind, spent tape kind n = n := by
  induction n with
  | zero => exact Finset.sum_eq_zero fun _ _ => rfl
  | succ n ih =>
      rcases h n (Nat.lt_succ_self n) with ⟨k, hk⟩
      have hone : ∑ kind, (tape n).count kind = 1 := by
        rw [hk]
        exact (Finset.sum_ite_eq Finset.univ k fun _ => 1).trans (if_pos (Finset.mem_univ k))
      have hsum := ih fun i hi => h i (Nat.lt_succ_of_lt hi)
      calc ∑ kind, spent tape kind (n + 1)
          = ∑ kind, spent tape kind n + ∑ kind, (tape n).count kind := Finset.sum_add_distrib
        _ = n + 1 := by rw [hsum, hone]

theorem again_of_not_ends {i : ℕ} (h : ¬ Ends budget tape i) : ∃ kind, tape i = .again kind := by
  cases htape : tape i with
  | stop b => exact absurd (ends_stop htape) h
  | again kind => exact ⟨kind, rfl⟩

theorem spent_mono {i : ℕ} (h : i ≤ n) (kind : κ) : spent tape kind i ≤ spent tape kind n := by
  induction h with
  | refl => exact le_refl _
  | step _ ih => exact le_trans ih (Nat.le_add_right _ _)

/-- Failures that the budgets pay for do not end the loop. -/
theorem not_ends_of_spent_le (hagain : ∀ i < n, ∃ kind, tape i = .again kind)
    (hspent : ∀ kind, spent tape kind n ≤ budget kind) {i : ℕ} (hi : i < n) :
    ¬ Ends budget tape i := by
  rcases hagain i hi with ⟨kind, hkind⟩
  -- The failure of this trial is itself among those that are paid for.
  have hle := le_trans (spent_mono hi kind) (hspent kind)
  rw [Nat.succ_eq_add_one, spent_succ hkind] at hle
  rw [ends_again hkind]
  exact Nat.not_le_of_lt hle

/-- One of the first trials is the last: there is one more than the budgets pay for. -/
theorem exists_ends [Fintype κ] (budget : κ → ℕ) (tape : ℕ → Outcome κ β) :
    ∃ n ≤ ∑ kind, budget kind, Ends budget tape n := by
  by_contra hnone
  have h : ∀ i < (∑ kind, budget kind) + 1, ¬ Ends budget tape i := fun i hi hends =>
    hnone ⟨i, Nat.le_of_lt_succ hi, hends⟩
  have hsum := sum_spent fun i hi => again_of_not_ends (h i hi)
  have hle : ∑ kind, spent tape kind ((∑ kind, budget kind) + 1) ≤ ∑ kind, budget kind :=
    Finset.sum_le_sum fun kind _ => spent_le h kind
  rw [hsum] at hle
  exact Nat.not_succ_le_self _ hle

/-- The first trial that ends the loop. -/
theorem exists_first_end [Fintype κ] (budget : κ → ℕ) (tape : ℕ → Outcome κ β) :
    ∃ n ≤ ∑ kind, budget kind, Ends budget tape n ∧ ∀ i < n, ¬ Ends budget tape i := by
  classical
  have hex : ∃ n, Ends budget tape n := (exists_ends budget tape).imp fun _ h => h.2
  rcases exists_ends budget tape with ⟨m, hm, hends⟩
  exact ⟨Nat.find hex, le_trans (Nat.find_min' hex hends) hm, Nat.find_spec hex,
    fun i hi => Nat.find_min hex hi⟩

end Retry

end Lib
