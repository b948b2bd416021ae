import Ssam.Lib.Run
import Ssam.Lifecycle.Transition

/-!
# Users and Unit Events

Two sources ask the state machine for transitions: users, and the receiver of
the unit's state changes. The changes reach the receiver in order and late, so
what it asks for is what the unit was, not what it is.

A user's request that the table refuses is the user's error and changes
nothing. A unit event that the table refuses ends the receiver, which sets the
package to `Error` on its way out. The table takes the targets of unit events,
`Ready` and `Running`, from live statuses only, so an event that comes in after
a cleanup or an upgrade, or before the first setup, is such an event.
`always_noError_iff` is the exact condition: every event is taken while the
package is ready or running.

The operations succeed here: a start is answered by a unit that is active or
activating, a stop by one that is inactive, the others without an error.

## Main definitions

* `Request`: What users ask of a package.
* `PackageSystem`: The status, the unit, and the changes not yet received.
* `packageStep`: A request, a change of the unit, or a step of the receiver.
* `NoError`: The package is not in error, nor about to be.
* `TakenLive`: A change is received while the package is live.

## Theorems

* `step_calm_iff`: A step keeps the package calm exactly when `TakenLive`.
* `always_noError_iff`: The exact condition on a run.
* `late_event_after_cleanup`: A start event received after a cleanup.
-/

namespace Ssam

namespace Lifecycle

open Lib

/-- What users ask of a package. -/
inductive Request where
  | setup
  | start
  | stop
  | cleanup
  | upgrade
  deriving DecidableEq

/-- The status a request asks for. -/
def Request.target : Request → PackageStatus
  | .setup => .settingUp
  | .start => .startRequested
  | .stop => .stopRequested
  | .cleanup => .cleaningUp
  | .upgrade => .upgrading

/-- Where the receiver of unit events is. -/
inductive Receiver where
  /-- Waiting for the next event. -/
  | receiving
  /-- Out of its loop, about to set the package to `Error`. -/
  | failing (reason : String)
  | ended
  deriving DecidableEq

/-- A package, its unit, and the unit's changes on their way to the receiver. -/
structure PackageSystem where
  status : PackageStatus
  unit : UnitActiveState
  pending : List UnitActiveState
  receiver : Receiver

/-- A package just created, with no unit. -/
def PackageSystem.created : PackageSystem where
  status := .verified
  unit := .inactive
  pending := []
  receiver := .receiving

/-- What the operations answer when all goes well: start and stop answer with
    the state the unit is in. -/
def succeeding (unit : UnitActiveState) : Outcomes where
  setup := .ok ()
  cleanup := .ok ()
  start := .ok (.success (ExecutionStatus.ofUnit unit))
  stop := .ok (.success (ExecutionStatus.ofUnit unit))
  teardown := .ok ()

/-- A start leaves the unit active or activating, a stop leaves it inactive. -/
def unitFollows (unit : UnitActiveState) (invoked : List Op) : Bool :=
  (!invoked.contains .start || unit == .active || unit == .activating) &&
    (!invoked.contains .stop || unit == .inactive)

/-- What happens next to a package. -/
inductive PackageEvent where
  /-- The state machine handles a user's request. -/
  | request (r : Request)
  /-- The unit changes its state. -/
  | unitChanges (state : UnitActiveState)
  /-- The receiver takes the oldest change and requests the transition. -/
  | receive
  /-- The receiver sets the package to `Error`. -/
  | reportError

/-- One step of a package named `name`. -/
def packageStep (name : String) (s : PackageSystem) : PackageEvent → Option PackageSystem
  | .request r =>
      let result := transitionTo name s.status r.target (succeeding s.unit)
      -- A start or a stop that was carried out leaves the unit accordingly.
      if unitFollows s.unit result.invoked then some { s with status := result.status } else none
  | .unitChanges state =>
      -- The bus reports changes only.
      if state = s.unit then none
      else some { s with unit := state, pending := s.pending ++ [state] }
  | .receive =>
      match s.receiver, s.pending with
      | .receiving, state :: rest =>
          let result := transitionTo name s.status (statusOfUnit state) (succeeding s.unit)
          -- The receiver stops at the first state that is refused.
          match result.answer with
          | .ok () => some { s with status := result.status, pending := rest }
          | .error e =>
              some { s with
                status := result.status
                pending := rest
                receiver := .failing e.text }
      | _, _ => none
  | .reportError =>
      match s.receiver with
      | .failing reason =>
          -- What the receiver failed with becomes the error of the package.
          some { s with
            status := (transitionTo name s.status (.error reason) (succeeding s.unit)).status
            receiver := .ended }
      | _ => none

/-- The package is not in error, nor is the receiver about to set it. -/
def NoError (s : PackageSystem) : Prop :=
  s.status.isError = false ∧ ∀ reason, s.receiver ≠ .failing reason

/-- A change is received while the package is ready or running. -/
def TakenLive (s : PackageSystem) : PackageEvent → Prop
  | .receive => s.status.isLive = true
  | _ => True

/-- The package is settled, not in error, and the receiver is in its loop. -/
structure Calm (s : PackageSystem) : Prop where
  settled : s.status.isSettled = true
  noError : s.status.isError = false
  receiving : s.receiver = .receiving

/-- A package is settled, and in error once the receiver has ended. -/
structure Steady (s : PackageSystem) : Prop where
  settled : s.status.isSettled = true
  ended : s.receiver = .ended → s.status.isError = true

variable (name : String)

/-- A request whose operation succeeds does not end in an error. -/
theorem request_noError {current : PackageStatus} (h : current.isError = false) (r : Request)
    (unit : UnitActiveState) :
    (transitionTo name current r.target (succeeding unit)).status.isError = false := by
  rcases transitionTo_cases name current r.target (succeeding unit) with
    ⟨hsame, -⟩ | ⟨t, hof, -, -, hstatus, -⟩
  · rw [hsame]
    exact h
  · rw [hstatus]
    cases r with
    | setup => obtain rfl := Option.some.inj hof; rfl
    | start =>
        obtain rfl := Option.some.inj hof
        -- What the start returns is the state of the unit.
        cases unit <;> rfl
    | stop =>
        obtain rfl := Option.some.inj hof
        cases unit <;> rfl
    | cleanup => obtain rfl := Option.some.inj hof; rfl
    | upgrade =>
        obtain rfl := Option.some.inj hof
        simp only [TransitionHandler.handle, succeeding]
        by_cases hv : current = .verified
        · rw [if_pos hv]
          rfl
        · rw [if_neg hv]
          rfl

/-- No request leads out of an error. -/
theorem request_of_isError {current : PackageStatus} (h : current.isError = true) (r : Request)
    (o : Outcomes) : (transitionTo name current r.target o).status = current := by
  cases current with
  | error reason => cases r <;> rfl
  | _ => exact absurd h Bool.false_ne_true

theorem step_steady {s t : PackageSystem} {e : PackageEvent} (h : Steady s)
    (hstep : packageStep name s e = some t) : Steady t := by
  cases e with
  | request r =>
      simp only [packageStep] at hstep
      split at hstep
      · rw [← Option.some.inj hstep]
        refine ⟨transitionTo_isSettled h.settled, fun hended => ?_⟩
        -- A package in error answers a request without leaving it.
        have herr := h.ended hended
        simp only [request_of_isError name herr, herr]
      · exact absurd hstep (by simp only [reduceCtorEq, not_false_eq_true])
  | unitChanges state =>
      simp only [packageStep] at hstep
      split at hstep
      · exact absurd hstep (by simp only [reduceCtorEq, not_false_eq_true])
      · rw [← Option.some.inj hstep]
        exact ⟨h.settled, h.ended⟩
  | receive =>
      simp only [packageStep] at hstep
      split at hstep
      · rename_i state rest hrec hpend
        split at hstep
        · rw [← Option.some.inj hstep]
          refine ⟨transitionTo_isSettled h.settled, fun hended => ?_⟩
          exact absurd (hrec.symm.trans hended) (by simp only [reduceCtorEq, not_false_eq_true])
        · rw [← Option.some.inj hstep]
          refine ⟨transitionTo_isSettled h.settled, fun hended => ?_⟩
          exact absurd hended (by simp only [reduceCtorEq, not_false_eq_true])
      · exact absurd hstep (by simp only [reduceCtorEq, not_false_eq_true])
  | reportError =>
      simp only [packageStep] at hstep
      split at hstep
      · rw [← Option.some.inj hstep]
        simp only [transitionTo_error]
        exact ⟨rfl, fun _ => rfl⟩
      · exact absurd hstep (by simp only [reduceCtorEq, not_false_eq_true])

/-- A calm package stays calm exactly when no change is received while it is
    neither ready nor running. -/
theorem step_calm_iff {s t : PackageSystem} {e : PackageEvent} (h : Calm s)
    (hstep : packageStep name s e = some t) : Calm t ↔ TakenLive s e := by
  cases e with
  | request r =>
      simp only [packageStep] at hstep
      split at hstep
      · rw [← Option.some.inj hstep]
        exact iff_of_true ⟨transitionTo_isSettled h.settled,
          request_noError name h.noError r s.unit, h.receiving⟩ trivial
      · exact absurd hstep (by simp only [reduceCtorEq, not_false_eq_true])
  | unitChanges state =>
      simp only [packageStep] at hstep
      split at hstep
      · exact absurd hstep (by simp only [reduceCtorEq, not_false_eq_true])
      · rw [← Option.some.inj hstep]
        exact iff_of_true ⟨h.settled, h.noError, h.receiving⟩ trivial
  | receive =>
      simp only [packageStep, h.receiving] at hstep
      cases hpend : s.pending with
      | nil =>
          rw [hpend] at hstep
          exact absurd hstep (by simp only [reduceCtorEq, not_false_eq_true])
      | cons state rest =>
          rw [hpend] at hstep
          simp only [TakenLive]
          -- A live package takes on the state of its unit, and no other accepts it.
          cases hlive : s.status.isLive with
          | true =>
              rcases transitionTo_unit_of_isLive name hlive state (succeeding s.unit) with
                ⟨hok, hstatus⟩
              simp only [hok] at hstep
              rw [← Option.some.inj hstep]
              refine iff_of_true ⟨transitionTo_isSettled h.settled, ?_, rfl⟩ rfl
              simp only []
              rw [hstatus]
              exact PackageStatus.not_isError_of_isLive (statusOfUnit_isLive state)
          | false =>
              rcases transitionTo_unit_refused name h.settled hlive state (succeeding s.unit) with
                ⟨herr, hstatus⟩
              simp only [herr] at hstep
              rw [← Option.some.inj hstep]
              refine iff_of_false (fun hcalm => ?_) Bool.false_ne_true
              exact absurd hcalm.receiving (by simp only [reduceCtorEq, not_false_eq_true])
  | reportError =>
      simp only [packageStep, h.receiving] at hstep
      exact absurd hstep (by simp only [reduceCtorEq, not_false_eq_true])

theorem noError_iff_calm {s : PackageSystem} (h : Steady s) : NoError s ↔ Calm s := by
  constructor
  · rintro ⟨hno, hfail⟩
    refine ⟨h.settled, hno, ?_⟩
    cases hrec : s.receiver with
    | receiving => rfl
    | failing reason => exact absurd hrec (hfail reason)
    | ended =>
        have herr := h.ended hrec
        rw [hno] at herr
        exact absurd herr Bool.false_ne_true
  · rintro ⟨-, hno, hrec⟩
    refine ⟨hno, fun reason hfail => ?_⟩
    rw [hrec] at hfail
    exact absurd hfail (by simp only [reduceCtorEq, not_false_eq_true])

/-- Once the receiver is failing, its next step is an error. -/
theorem reportError_isError {s : PackageSystem} {reason : String}
    (h : s.receiver = .failing reason) :
    ∃ t, packageStep name s .reportError = some t ∧ t.status = .error reason := by
  refine ⟨_, by simp only [packageStep, h]; rfl, ?_⟩
  exact transitionTo_error name s.status reason (succeeding s.unit)

/-- A package never gets into error, nor is about to, exactly when every change
    of its unit is received while it is ready or running. -/
theorem always_noError_iff (es : List PackageEvent) :
    Always (packageStep name) NoError PackageSystem.created es ↔
      Along (packageStep name) TakenLive PackageSystem.created es := by
  have hsteady : Steady PackageSystem.created :=
    ⟨rfl, fun h => absurd h (by decide)⟩
  rw [always_congr (fun s e t => step_steady name) (fun s => noError_iff_calm) hsteady]
  exact always_iff_along (fun s e t => step_calm_iff name) ⟨rfl, rfl, rfl⟩

/-- A start whose events are received only after the package was stopped and
    cleaned up. -/
def lateRun : List PackageEvent :=
  [.request .setup, .unitChanges .activating, .unitChanges .active, .request .start,
    .unitChanges .deactivating, .unitChanges .inactive, .request .stop, .request .cleanup,
    .receive, .reportError]

theorem late_event_after_cleanup :
    (exec (packageStep "a") PackageSystem.created lateRun).map (fun t => t.status) =
      some (.error "Invalid transition from Cleaned to Running(activating)") := by
  decide

end Lifecycle

end Ssam
