import Ssam.Lib.Run
import Ssam.Lifecycle.Transition

/-!
# Safety of the State Machine

What holds of the state machine over every run of transition requests, whatever the
targets and whatever the operations answer.

A request passes through the target's status while its operation runs and settles
before the next message is handled. `Upgrading`, `Error` and `Broken` are past the
package's life: the transitions that apply there lead to `Error` and `Broken`, and run
nothing. A request that is refused or ignored changes nothing and runs nothing.

## Main definitions

* `TransitionRequest`, `requestStep`: A request with the answers of the operations.
* `PackageStatus.isPast`: The statuses a package does not come back from.
* `Refused`, `Ignored`: The requests that change nothing.
* `SafeStep`: What holds of every request.

## Theorems

* `transitionTo_of_refused`, `transitionTo_of_ignored`: A request that changes nothing.
* `transitionTo_of_isPast`: Past its life a package stays there, and nothing is run.
* `state_machine_safe`: Every run of requests is safe.
-/

namespace Ssam

namespace Lifecycle

open Lib

/-- A transition request, and what the operations answer while it is handled. -/
structure TransitionRequest where
  target : PackageStatus
  outcomes : Outcomes

/-- The package does not come back from the status. -/
def PackageStatus.isPast : PackageStatus → Bool
  | upgrading => true
  | error _ => true
  | broken _ => true
  | _ => false

/-- The request is for another status, and no transition leads there. -/
def Refused (current next : PackageStatus) : Prop :=
  next ≠ current ∧ findTransition current next = none

/-- The request is for the status there is, or its transition keeps it. -/
def Ignored (current next : PackageStatus) : Prop :=
  next = current ∨ ∃ t, findTransition current next = some t ∧ t.ignoreWithoutError current = true

section Requests

variable (name : String)

/-- The status a request leaves. -/
def requestStep (s : PackageStatus) (r : TransitionRequest) : Option PackageStatus :=
  some (transitionTo name s r.target r.outcomes).status

/-- The request leaves the status and runs nothing. -/
def ChangesNothing (s : PackageStatus) (r : TransitionRequest) : Prop :=
  (transitionTo name s r.target r.outcomes).status = s ∧
    (transitionTo name s r.target r.outcomes).invoked = []

/-- What holds of a request in any status. -/
structure SafeStep (s : PackageStatus) (r : TransitionRequest) : Prop where
  refused : Refused s r.target → ChangesNothing name s r ∧
    (transitionTo name s r.target r.outcomes).answer =
      .error [s!"Invalid transition from {s.text} to {r.target.text}"]
  ignored : Ignored s r.target → ChangesNothing name s r
  past : s.isPast = true → (transitionTo name s r.target r.outcomes).status.isPast = true ∧
    (transitionTo name s r.target r.outcomes).invoked = []

variable {name}

theorem transitionTo_of_refused {current next : PackageStatus} (o : Outcomes)
    (h : Refused current next) : transitionTo name current next o =
      ⟨.error [s!"Invalid transition from {current.text} to {next.text}"], current, []⟩ := by
  unfold transitionTo
  rw [if_neg h.1, h.2]

theorem transitionTo_of_ignored {current next : PackageStatus} (o : Outcomes)
    (h : Ignored current next) : (transitionTo name current next o).status = current ∧
      (transitionTo name current next o).invoked = [] := by
  unfold transitionTo
  by_cases heq : next = current
  · rw [if_pos heq]
    exact ⟨rfl, rfl⟩
  · rcases h with hsame | ⟨t, hfind, hign⟩
    · exact absurd hsame heq
    · rw [if_neg heq, hfind]
      dsimp only
      rw [if_pos hign]
      exact ⟨rfl, rfl⟩

/-- Only the transitions to `Error` and `Broken` apply past a package's life. -/
theorem target_of_isPast {current next : PackageStatus} {t : TransitionHandler}
    (h : current.isPast = true) (hof : transitionOf next = some t)
    (happ : t.isApplicable current = true) :
    (t = .toError ∨ t = .toBroken) ∧ next.isPast = true := by
  cases next with
  | verified => exact absurd hof.symm (Option.some_ne_none t)
  | error reason => exact ⟨Or.inl (Option.some.inj hof).symm, rfl⟩
  | broken reason => exact ⟨Or.inr (Option.some.inj hof).symm, rfl⟩
  -- The other transitions ask for a status of the package's life.
  | _ =>
      rw [← Option.some.inj hof] at happ
      cases current with
      | upgrading => exact absurd happ Bool.false_ne_true
      | error reason => exact absurd happ Bool.false_ne_true
      | broken reason => exact absurd happ Bool.false_ne_true
      | _ => exact absurd h Bool.false_ne_true

theorem transitionTo_of_isPast {current : PackageStatus} (h : current.isPast = true)
    (next : PackageStatus) (o : Outcomes) :
    (transitionTo name current next o).status.isPast = true ∧
      (transitionTo name current next o).invoked = [] := by
  rcases transitionTo_cases name current next o with
    ⟨hsame, hnone⟩ | ⟨t, hof, happ, -, hstatus, hinvoked⟩
  · rw [hsame]
    exact ⟨h, hnone⟩
  · rcases target_of_isPast h hof happ with ⟨hto, hpast⟩
    rw [hstatus, hinvoked]
    rcases hto with rfl | rfl
    · exact ⟨hpast, rfl⟩
    · exact ⟨hpast, rfl⟩

theorem safeStep (s : PackageStatus) (r : TransitionRequest) : SafeStep name s r where
  refused h := by
    rw [ChangesNothing, transitionTo_of_refused r.outcomes h]
    exact ⟨⟨rfl, rfl⟩, rfl⟩
  ignored h := transitionTo_of_ignored r.outcomes h
  past h := transitionTo_of_isPast h r.target r.outcomes

variable (name)

/-- Past its life a package stays there throughout, and nothing is run. -/
theorem past_forever {s : PackageStatus} (h : s.isPast = true) (rs : List TransitionRequest) :
    Always (requestStep name) (fun t => t.isPast = true) s rs ∧
      Along (requestStep name)
        (fun t r => (transitionTo name t r.target r.outcomes).invoked = []) s rs := by
  have hstep : ∀ t r u, t.isPast = true → requestStep name t r = some u → u.isPast = true := by
    intro t r u ht hu
    rw [← Option.some.inj hu]
    exact (transitionTo_of_isPast ht r.target r.outcomes).1
  have halways : Always (requestStep name) (fun t => t.isPast = true) s rs :=
    always_of_invariant hstep (fun _ ht => ht) h rs
  -- No request runs anything in such a status, and the run stays in them.
  refine ⟨halways, along_mono (C := fun _ _ => True) (fun t r ht _ => ?_) halways
    (along_of_forall (C := fun _ => True) (fun _ _ => trivial) s)⟩
  exact (transitionTo_of_isPast ht r.target r.outcomes).2

/-- From the creation of a package on, over every run of transition requests: the status
    between two of them is a settled one, a request that is refused or ignored changes
    nothing, and once the package is past its life it stays there, and no operation is
    run again. -/
theorem state_machine_safe (rs : List TransitionRequest) :
    Always (requestStep name) (fun s => s.isSettled = true) .verified rs ∧
      (∀ s r, SafeStep name s r) ∧
      ∀ before after s, rs = before ++ after →
        exec (requestStep name) .verified before = some s → s.isPast = true →
          Always (requestStep name) (fun t => t.isPast = true) s after ∧
            Along (requestStep name)
              (fun t r => (transitionTo name t r.target r.outcomes).invoked = []) s after := by
  have hsettled : ∀ s r t, s.isSettled = true → requestStep name s r = some t →
      t.isSettled = true := by
    intro s r t hs ht
    rw [← Option.some.inj ht]
    exact transitionTo_isSettled hs
  exact ⟨always_of_invariant hsettled (fun _ hs => hs) rfl rs, safeStep,
    fun before after s _ _ hpast => past_forever name hpast after⟩

end Requests

end Lifecycle

end Ssam
