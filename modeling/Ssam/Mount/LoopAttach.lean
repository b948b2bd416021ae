import Ssam.Lib.Error
import Ssam.Lib.Retry

/-!
# Attaching a Loop Device

The loop around the attaching of a loop device. Asking for a free device does not
reserve it, so another process may take it in between, and the kernel may be busy with
the file for a while. The two errors this leads to are tried again, each with a limit
and a counter of its own.

A round is a question for a device and an attempt to attach it. Which rounds come next
is not for the loop to say, so the loop runs over a sequence of them without an end.

## Main definitions

* `IoError`, `LoopError`: What the two calls fail with.
* `Round`: What the calls of one round are answered.
* `attachWithRetry`: The loop.
* `Transient`, `budget`: The errors that are tried again, and how often.

## Theorems

* `attachLoop_eq`: The loop ends with the first round that has to be the last.
* `attachWithRetry_spec`: Its attempts, its successes and its two limits.
-/

namespace Ssam

namespace Mount

open Lib

/-- The kinds of errors that are told apart. -/
inductive ErrorKind where
  | resourceBusy
  | wouldBlock
  | other
  deriving DecidableEq

/-- An error of an attempt. -/
structure IoError where
  kind : ErrorKind
  message : String
  deriving DecidableEq

/-- An error of the loop: there is no free device, or attaching it failed. -/
inductive LoopError where
  | nextFree (e : Error)
  | attach (e : IoError)
  deriving DecidableEq

/-- What the two calls of a round are answered. -/
structure Round (Dev : Type) where
  nextFree : Except Error Dev
  tryAttach : Except IoError Unit

/-- How the loop has ended, and after how many attempts to attach a device. -/
structure Attached (Dev : Type) where
  attempts : Nat
  result : Except LoopError Dev

variable {Dev : Type}

/-- The rounds from the `i`-th on. The two counters have 32 bits. Nothing if the fuel
    runs out before the loop ends. -/
def attachLoop (rounds : Nat → Round Dev) (busyMaxRetries wouldblockMaxRetries : Nat) :
    (fuel i busyCount wouldblockCount : Nat) → Option (Attached Dev)
  | 0, _, _, _ => none
  | fuel + 1, i, busyCount, wouldblockCount =>
      match (rounds i).nextFree with
      | .error e => some ⟨i, .error (.nextFree e)⟩
      | .ok dev =>
          match (rounds i).tryAttach with
          | .ok () => some ⟨i + 1, .ok dev⟩
          | .error e =>
              -- Each of the two errors has a counter and a limit of its own.
              match e.kind with
              | .wouldBlock =>
                  let wouldblockCount := (wouldblockCount + 1) % 2 ^ 32
                  if wouldblockCount > wouldblockMaxRetries then some ⟨i + 1, .error (.attach e)⟩
                  else attachLoop rounds busyMaxRetries wouldblockMaxRetries fuel (i + 1) busyCount
                    wouldblockCount
              | .resourceBusy =>
                  let busyCount := (busyCount + 1) % 2 ^ 32
                  if busyCount > busyMaxRetries then some ⟨i + 1, .error (.attach e)⟩
                  else attachLoop rounds busyMaxRetries wouldblockMaxRetries fuel (i + 1) busyCount
                    wouldblockCount
              | .other => some ⟨i + 1, .error (.attach e)⟩

def attachWithRetry (rounds : Nat → Round Dev) (busyMaxRetries wouldblockMaxRetries fuel : Nat) :
    Option (Attached Dev) :=
  attachLoop rounds busyMaxRetries wouldblockMaxRetries fuel 0 0 0

/-- The errors that are tried again. -/
inductive Transient where
  | busy
  | wouldBlock
  deriving DecidableEq

instance : Fintype Transient where
  elems := {.busy, .wouldBlock}
  complete kind := by cases kind <;> decide

/-- How often each of them is tried again. -/
def budget (busyMaxRetries wouldblockMaxRetries : Nat) : Transient → Nat
  | .busy => busyMaxRetries
  | .wouldBlock => wouldblockMaxRetries

/-- What the loop returns if the round is its last. -/
def Round.result (round : Round Dev) : Except LoopError Dev :=
  match round.nextFree, round.tryAttach with
  | .error e, _ => .error (.nextFree e)
  | .ok dev, .ok () => .ok dev
  | .ok _, .error e => .error (.attach e)

/-- The attempts of a round: one, if there is a device. -/
def Round.attempts (round : Round Dev) : Nat :=
  match round.nextFree with
  | .ok _ => 1
  | .error _ => 0

/-- The round's outcome: a transient error or a reason to end. -/
def Round.outcome (round : Round Dev) : Retry.Outcome Transient (Except LoopError Dev) :=
  match round.result with
  | .error (.attach e) =>
      match e.kind with
      | .resourceBusy => .again .busy
      | .wouldBlock => .again .wouldBlock
      | .other => .stop (.error (.attach e))
  | r => .stop r

/-- The outcomes of the rounds. -/
def outcomes (rounds : Nat → Round Dev) : Nat → Retry.Outcome Transient (Except LoopError Dev) :=
  fun i => (rounds i).outcome

/-- How often the error came among the first `n` rounds. -/
def seen (rounds : Nat → Round Dev) (kind : Transient) (n : Nat) : Nat :=
  Retry.spent (outcomes rounds) kind n

section Loop

variable {rounds : Nat → Round Dev} {busyMax wouldblockMax : Nat}

theorem sum_budget : ∑ kind, budget busyMax wouldblockMax kind = busyMax + wouldblockMax :=
  Finset.sum_pair (by decide)

/-- One round of the loop, told by its outcome. -/
theorem attachLoop_succ (fuel i busyCount wouldblockCount : Nat) :
    attachLoop rounds busyMax wouldblockMax (fuel + 1) i busyCount wouldblockCount =
      match (rounds i).outcome with
      | .stop _ => some ⟨i + (rounds i).attempts, (rounds i).result⟩
      | .again .busy =>
          if (busyCount + 1) % 2 ^ 32 > busyMax then
            some ⟨i + (rounds i).attempts, (rounds i).result⟩
          else attachLoop rounds busyMax wouldblockMax fuel (i + 1) ((busyCount + 1) % 2 ^ 32)
            wouldblockCount
      | .again .wouldBlock =>
          if (wouldblockCount + 1) % 2 ^ 32 > wouldblockMax then
            some ⟨i + (rounds i).attempts, (rounds i).result⟩
          else attachLoop rounds busyMax wouldblockMax fuel (i + 1) busyCount
            ((wouldblockCount + 1) % 2 ^ 32) := by
  rw [attachLoop]
  rcases rounds i with ⟨e | dev, ⟨kind, message⟩ | ⟨⟩⟩
  · rfl
  · rfl
  -- A device was found and the attempt failed, so the kind of its error decides.
  · cases kind <;> rfl
  · rfl

/-- A counter within its limit does not wrap around. -/
theorem succ_mod_of_le {count limit : Nat} (hle : count ≤ limit) (hlimit : limit < 2 ^ 32 - 1) :
    (count + 1) % 2 ^ 32 = count + 1 := Nat.mod_eq_of_lt (by omega)

theorem ends_again_iff (kind : Transient) {i : Nat} (h : (rounds i).outcome = .again kind) :
    Retry.Ends (budget busyMax wouldblockMax) (outcomes rounds) i ↔
      budget busyMax wouldblockMax kind ≤ seen rounds kind i :=
  Retry.ends_again h

/-- From a round that is not behind the last, the loop goes on to the last. The
    counters hold what the rounds so far have come to. -/
theorem attachLoop_eq (hbusy : busyMax < 2 ^ 32 - 1) (hwouldblock : wouldblockMax < 2 ^ 32 - 1)
    {n : Nat} (hends : Retry.Ends (budget busyMax wouldblockMax) (outcomes rounds) n)
    (hfirst : ∀ i < n, ¬ Retry.Ends (budget busyMax wouldblockMax) (outcomes rounds) i)
    {fuel i : Nat} (hi : i ≤ n) (hfuel : n < fuel + i) :
    attachLoop rounds busyMax wouldblockMax fuel i (seen rounds .busy i)
        (seen rounds .wouldBlock i) =
      some ⟨n + (rounds n).attempts, (rounds n).result⟩ := by
  induction fuel generalizing i with
  | zero => omega
  | succ fuel ih =>
      have hlast : Retry.Ends (budget busyMax wouldblockMax) (outcomes rounds) i ↔ i = n := by
        constructor
        · intro h
          by_contra hne
          exact hfirst i (Nat.lt_of_le_of_ne hi hne) h
        · rintro rfl
          exact hends
      have hpaid (kind : Transient) : seen rounds kind i ≤ budget busyMax wouldblockMax kind :=
        Retry.spent_le (fun j hj => hfirst j (Nat.lt_of_lt_of_le hj hi)) kind
      rw [attachLoop_succ]
      cases houtcome : (rounds i).outcome with
      | stop r => rw [← hlast.mp (Retry.ends_stop houtcome)]
      | again kind =>
          -- Whether this round is the last is what the comparison of its counter decides.
          cases kind with
          | busy =>
              have hlimit : busyMax ≤ seen rounds .busy i ↔ i = n :=
                (ends_again_iff .busy houtcome).symm.trans hlast
              have hnext : seen rounds .busy (i + 1) = seen rounds .busy i + 1 :=
                Retry.spent_succ houtcome
              have hother : seen rounds .wouldBlock (i + 1) = seen rounds .wouldBlock i :=
                Retry.spent_succ_other (by decide) houtcome
              simp only [succ_mod_of_le (hpaid .busy) hbusy, gt_iff_lt, Nat.lt_succ_iff]
              by_cases h : i = n
              · rw [if_pos (hlimit.mpr h), h]
              · rw [if_neg fun hle => h (hlimit.mp hle), ← hnext, ← hother]
                exact ih (by omega) (by omega)
          | wouldBlock =>
              have hlimit : wouldblockMax ≤ seen rounds .wouldBlock i ↔ i = n :=
                (ends_again_iff .wouldBlock houtcome).symm.trans hlast
              have hnext : seen rounds .wouldBlock (i + 1) = seen rounds .wouldBlock i + 1 :=
                Retry.spent_succ houtcome
              have hother : seen rounds .busy (i + 1) = seen rounds .busy i :=
                Retry.spent_succ_other (by decide) houtcome
              simp only [succ_mod_of_le (hpaid .wouldBlock) hwouldblock, gt_iff_lt,
                Nat.lt_succ_iff]
              by_cases h : i = n
              · rw [if_pos (hlimit.mpr h), h]
              · rw [if_neg fun hle => h (hlimit.mp hle), ← hnext, ← hother]
                exact ih (by omega) (by omega)

theorem outcome_of_result_ok {round : Round Dev} {dev : Dev} (h : round.result = .ok dev) :
    round.outcome = .stop (.ok dev) := by
  rw [Round.outcome, h]

/-- An attempt that failed was made, and its error is what the round comes to. -/
theorem outcome_of_result_attach {round : Round Dev} {e : IoError}
    (h : round.result = .error (.attach e)) :
    round.attempts = 1 ∧ (e.kind = .resourceBusy → round.outcome = .again .busy) ∧
      (e.kind = .wouldBlock → round.outcome = .again .wouldBlock) := by
  refine ⟨?_, fun hkind => ?_, fun hkind => ?_⟩
  · rcases round with ⟨_ | _, _ | _⟩
    · cases h
    · cases h
    · rfl
    · cases h
  · rw [Round.outcome, h]
    simp only [hkind]
  · rw [Round.outcome, h]
    simp only [hkind]

/-- The loop ends: with the first success, if nothing but transient errors within both
    limits comes before it, and otherwise with an error. It gives up over a transient
    error only when that very error has come once more often than it is tried again,
    and then the other one is still within its limit. -/
theorem attachWithRetry_spec (rounds : Nat → Round Dev) (hbusy : busyMax < 2 ^ 32 - 1)
    (hwouldblock : wouldblockMax < 2 ^ 32 - 1) :
    ∃ run : Attached Dev,
      (∀ fuel > busyMax + wouldblockMax,
        attachWithRetry rounds busyMax wouldblockMax fuel = some run) ∧
      run.attempts ≤ busyMax + wouldblockMax + 1 ∧
      (∀ dev, run.result = .ok dev ↔ ∃ n, (rounds n).result = .ok dev ∧
        (∀ i < n, ∃ kind, (rounds i).outcome = .again kind) ∧
        seen rounds .busy n ≤ busyMax ∧ seen rounds .wouldBlock n ≤ wouldblockMax) ∧
      ∀ e, run.result = .error (.attach e) →
        (e.kind = .resourceBusy → seen rounds .busy run.attempts = busyMax + 1 ∧
          seen rounds .wouldBlock run.attempts ≤ wouldblockMax) ∧
        (e.kind = .wouldBlock → seen rounds .wouldBlock run.attempts = wouldblockMax + 1 ∧
          seen rounds .busy run.attempts ≤ busyMax) := by
  rcases Retry.exists_first_end (budget busyMax wouldblockMax) (outcomes rounds) with
    ⟨n, hn, hends, hfirst⟩
  rw [sum_budget] at hn
  have hpaid := Retry.spent_le hfirst
  refine ⟨⟨n + (rounds n).attempts, (rounds n).result⟩, fun fuel hfuel => ?_, ?_, fun dev => ?_,
    fun e he => ?_⟩
  · exact attachLoop_eq hbusy hwouldblock hends hfirst (Nat.zero_le n) (by omega)
  · have hone : (rounds n).attempts ≤ 1 := by
      unfold Round.attempts
      split <;> decide
    exact Nat.add_le_add hn hone
  · constructor
    · intro hdev
      exact ⟨n, hdev, fun i hi => Retry.again_of_not_ends (hfirst i hi), hpaid .busy,
        hpaid .wouldBlock⟩
    · rintro ⟨m, hdev, hagain, hb, hw⟩
      have hspent (kind : Transient) : Retry.spent (outcomes rounds) kind m ≤
          budget busyMax wouldblockMax kind := by
        cases kind with
        | busy => exact hb
        | wouldBlock => exact hw
      -- Nothing before the success ends the loop, and the success does.
      have hlast : n = m := by
        rcases Nat.lt_trichotomy n m with hlt | heq | hgt
        · exact absurd hends (Retry.not_ends_of_spent_le hagain hspent hlt)
        · exact heq
        · exact absurd (Retry.ends_stop (outcome_of_result_ok hdev)) (hfirst m hgt)
      rw [hlast]
      exact hdev
  -- The error that ended the loop has used its limit up, the other one has not.
  · rcases outcome_of_result_attach he with ⟨hone, hbusyKind, hwouldblockKind⟩
    dsimp only
    rw [hone]
    constructor
    · intro hkind
      have houtcome := hbusyKind hkind
      have hle : busyMax ≤ seen rounds .busy n := (ends_again_iff .busy houtcome).mp hends
      have hspent : busyMax = seen rounds .busy n := Nat.le_antisymm hle (hpaid .busy)
      refine ⟨(Retry.spent_succ houtcome).trans (congrArg (· + 1) hspent.symm), ?_⟩
      exact (Retry.spent_succ_other (by decide) houtcome).trans_le (hpaid .wouldBlock)
    · intro hkind
      have houtcome := hwouldblockKind hkind
      have hle : wouldblockMax ≤ seen rounds .wouldBlock n :=
        (ends_again_iff .wouldBlock houtcome).mp hends
      have hspent : wouldblockMax = seen rounds .wouldBlock n :=
        Nat.le_antisymm hle (hpaid .wouldBlock)
      refine ⟨(Retry.spent_succ houtcome).trans (congrArg (· + 1) hspent.symm), ?_⟩
      exact (Retry.spent_succ_other (by decide) houtcome).trans_le (hpaid .busy)

/-- With the limits the daemon has, a device is found after two busy attempts and a
    blocked one between them. -/
theorem attachWithRetry_spec_mixed :
    2 < 2 ^ 32 - 1 ∧ 50 < 2 ^ 32 - 1 ∧
      ∃ run : Attached String,
        (∀ fuel > 2 + 50, attachWithRetry
          (fun i => ⟨.ok "/dev/loop0",
            if i = 1 then .error ⟨.wouldBlock, "EAGAIN"⟩
            else if i < 3 then .error ⟨.resourceBusy, "EBUSY"⟩ else .ok ()⟩) 2 50 fuel =
          some run) ∧
        run.attempts ≤ 2 + 50 + 1 ∧ run.result = .ok "/dev/loop0" := by
  rcases attachWithRetry_spec
    (fun i => ⟨.ok "/dev/loop0",
      if i = 1 then .error ⟨.wouldBlock, "EAGAIN"⟩
      else if i < 3 then .error ⟨.resourceBusy, "EBUSY"⟩ else .ok ()⟩)
    (by decide : 2 < 2 ^ 32 - 1) (by decide : 50 < 2 ^ 32 - 1) with
    ⟨run, hrun, hattempts, hok, -⟩
  refine ⟨by decide, by decide, run, hrun, hattempts, (hok _).mpr ⟨3, rfl, ?_, ?_, ?_⟩⟩
  · intro i hi
    rcases (by omega : i = 0 ∨ i = 1 ∨ i = 2) with rfl | rfl | rfl
    · exact ⟨.busy, rfl⟩
    · exact ⟨.wouldBlock, rfl⟩
    · exact ⟨.busy, rfl⟩
  · decide
  · decide

end Loop

end Mount

end Ssam
