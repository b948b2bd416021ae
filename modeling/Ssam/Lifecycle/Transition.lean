import Ssam.Lifecycle.Status

/-!
# The Package State Machine

The transition table and the actor's one way of using it. A transition is found
by its target and is applicable from some statuses only. One that is found runs
an operation of the package, or none, and leaves the status that operation's
outcome asks for; one that is not found is refused and changes nothing.

The handlers differ in what they run and in when they apply, so each keeps its
own equation in the three functions of the table. What an operation answers is
an input (`Outcomes`); which operations a transition invoked is part of its
result, since what must not be invoked is a property of its own.

`transitionTo` has no fourth way to end than the three `transitionTo_cases`
lists, and the lemmas after it say what that means for the status: it settles,
it errs only where an operation failed or an error was asked for, and the start
operation is invoked only for `StartRequested`.

## Main definitions

* `Op`: The operations of a package.
* `Outcomes`: What each operation answers if it is invoked.
* `TransitionHandler`: The transitions, by target.
* `findTransition`: The transition to a target, if it applies.
* `transitionTo`: What a transition request does.

## Theorems

* `transitionTo_cases`: The three ways a request can end.
* `transitionTo_isSettled`: A request leaves a settled status.
* `transitionTo_unit_of_isLive`, `transitionTo_unit_refused`: Unit events.
* `invoked_settingUp`, `invoked_startRequested`: When setup and start run.
-/

namespace Ssam

namespace Lifecycle

open Lib

/-- The operations of a package. -/
inductive Op where
  | setup
  | cleanup
  | start
  | stop
  | teardown
  deriving DecidableEq

/-- What each operation answers, if the transition invokes it. -/
structure Outcomes where
  setup : Except Error Unit
  cleanup : Except Error Unit
  start : Except Error ExecutionResult
  stop : Except Error ExecutionResult
  teardown : Except Error Unit

/-- The transitions, by the status they lead to. -/
inductive TransitionHandler where
  | toSettingUp
  | toStartRequested
  | toCleaningUp
  | toStopRequested
  | toReady
  | toRunning
  | toCleaned
  | toError
  | toBroken
  | toUpgrading
  deriving DecidableEq

namespace TransitionHandler

/-- The transition is applicable from the current status. -/
def isApplicable : TransitionHandler → PackageStatus → Bool
  | toSettingUp, current =>
      match current with
      | .verified | .cleaned => true
      | _ => false
  | toStartRequested, current =>
      match current with
      | .ready | .running _ => true
      | _ => false
  | toCleaningUp, current =>
      match current with
      | .ready => true
      | _ => false
  | toStopRequested, current =>
      match current with
      | .startRequested | .running _ | .ready => true
      | _ => false
  | toReady, current =>
      match current with
      | .settingUp | .stopRequested | .running _ => true
      | _ => false
  | toRunning, current =>
      match current with
      | .ready | .startRequested | .running _ | .stopRequested => true
      | _ => false
  | toCleaned, current =>
      match current with
      | .cleaningUp => true
      | _ => false
  | toError, _ => true
  | toBroken, _ => true
  | toUpgrading, current =>
      match current with
      | .verified | .ready | .running _ | .startRequested => true
      | _ => false

/-- The current status is kept, without an error. -/
def ignoreWithoutError : TransitionHandler → PackageStatus → Bool
  | toStartRequested, .running state => state != "failed"
  | toStopRequested, .ready => true
  | _, _ => false

/-- Run the transition's operation: the status it ends in, `none` if it stays
    the target, and the operations invoked. -/
def handle (t : TransitionHandler) (current : PackageStatus) (o : Outcomes) :
    Option PackageStatus × List Op :=
  match t with
  | toSettingUp =>
      match o.setup with
      | .ok () => (some .ready, [.setup])
      -- The compensation. Its own failure is only logged.
      | .error e => (some (.error e.text), [.setup, .cleanup])
  | toStartRequested =>
      match o.start with
      | .ok result => (some (statusOfResult result), [.start])
      | .error e => (some (.error e.text), [.start])
  | toCleaningUp =>
      match o.cleanup with
      | .ok () => (some .cleaned, [.cleanup])
      | .error e => (some (.error e.text), [.cleanup])
  | toStopRequested =>
      match o.stop with
      | .ok result => (some (statusOfResult result), [.stop])
      | .error e => (some (.error e.text), [.stop])
  | toUpgrading =>
      -- A package that was never set up has nothing to take down.
      if current = .verified then (none, [])
      else
        match o.teardown with
        | .ok () => (none, [.teardown])
        | .error e => (some (.error e.text), [.teardown])
  | toReady => (none, [])
  | toRunning => (none, [])
  | toCleaned => (none, [])
  | toError => (none, [])
  | toBroken => (none, [])

end TransitionHandler

/-- The transition registered for a target. There is none to `Verified`. -/
def transitionOf : PackageStatus → Option TransitionHandler
  | .verified => none
  | .settingUp => some .toSettingUp
  | .ready => some .toReady
  | .startRequested => some .toStartRequested
  | .running _ => some .toRunning
  | .stopRequested => some .toStopRequested
  | .cleaningUp => some .toCleaningUp
  | .cleaned => some .toCleaned
  | .upgrading => some .toUpgrading
  | .error _ => some .toError
  | .broken _ => some .toBroken

/-- The transition to `target`, if it is applicable from `current`. -/
def findTransition (current target : PackageStatus) : Option TransitionHandler :=
  (transitionOf target).filter fun t => t.isApplicable current

/-- What a transition request leaves: its answer, the status, and the operations
    it invoked. -/
structure TransitionResult where
  answer : Except Error Unit
  status : PackageStatus
  invoked : List Op

/-- The text of a status, as the daemon prints it. -/
def PackageStatus.text : PackageStatus → String
  | .verified => "Verified"
  | .settingUp => "SettingUp"
  | .ready => "Ready"
  | .startRequested => "StartRequested"
  | .running state => s!"Running({state})"
  | .stopRequested => "StopRequested"
  | .cleaningUp => "CleaningUp"
  | .cleaned => "Cleaned"
  | .upgrading => "Upgrading"
  | .error reason => s!"Error({reason})"
  | .broken reason => s!"Broken({reason.summary})"

/-- Settle on a status, and report it to the requester if it is an error. -/
def finish (name : String) (status : PackageStatus) (invoked : List Op) : TransitionResult where
  answer :=
    if status.isError then .error [s!"Package {name} got into error state: {status.text}"]
    else .ok ()
  status := status
  invoked := invoked

/-- Request a transition of package `name` from `current` to `next`. -/
def transitionTo (name : String) (current next : PackageStatus) (o : Outcomes) :
    TransitionResult :=
  if next = current then ⟨.ok (), current, []⟩
  else
    match findTransition current next with
    | some t =>
        if t.ignoreWithoutError current then finish name current []
        else finish name ((t.handle current o).1.getD next) (t.handle current o).2
    | none => ⟨.error [s!"Invalid transition from {current.text} to {next.text}"], current, []⟩

/-- A request is refused or ignored and changes nothing, or its transition runs. -/
theorem transitionTo_cases (name : String) (current next : PackageStatus) (o : Outcomes) :
    let r := transitionTo name current next o
    (r.status = current ∧ r.invoked = []) ∨
      ∃ t, transitionOf next = some t ∧ t.isApplicable current = true ∧
        t.ignoreWithoutError current = false ∧
        r.status = (t.handle current o).1.getD next ∧ r.invoked = (t.handle current o).2 := by
  simp only []
  unfold transitionTo
  -- A state that is the current one is no transition at all.
  by_cases heq : next = current
  · rw [if_pos heq]
    exact Or.inl ⟨rfl, rfl⟩
  · rw [if_neg heq]
    cases hfind : findTransition current next with
    | none => exact Or.inl ⟨rfl, rfl⟩
    | some t =>
        simp only []
        rcases Option.filter_eq_some_iff.mp hfind with ⟨hof, happ⟩
        -- An ignored one is answered without an error and changes nothing.
        by_cases hign : t.ignoreWithoutError current = true
        · rw [if_pos hign]
          exact Or.inl ⟨rfl, rfl⟩
        · rw [if_neg hign]
          exact Or.inr ⟨t, hof, happ, Bool.eq_false_iff.mpr hign, rfl, rfl⟩

/-- A transition settles: it ends where its operation's outcome says, or stays
    at a target that is no status in passing. -/
theorem handle_isSettled {t : TransitionHandler} {current next : PackageStatus}
    (hof : transitionOf next = some t) (o : Outcomes) :
    ((t.handle current o).1.getD next).isSettled = true := by
  cases next with
  -- The transitions that do something leave the state they come to or an error.
  | verified => exact absurd hof (by simp only [transitionOf, reduceCtorEq, not_false_eq_true])
  | settingUp =>
      obtain rfl := Option.some.inj hof
      simp only [TransitionHandler.handle]
      cases o.setup <;> rfl
  | startRequested =>
      obtain rfl := Option.some.inj hof
      simp only [TransitionHandler.handle]
      cases o.start with
      | ok result => exact statusOfResult_isSettled result
      | error e => rfl
  | stopRequested =>
      obtain rfl := Option.some.inj hof
      simp only [TransitionHandler.handle]
      cases o.stop with
      | ok result => exact statusOfResult_isSettled result
      | error e => rfl
  | cleaningUp =>
      obtain rfl := Option.some.inj hof
      simp only [TransitionHandler.handle]
      cases o.cleanup <;> rfl
  | upgrading =>
      obtain rfl := Option.some.inj hof
      simp only [TransitionHandler.handle]
      by_cases hv : current = .verified
      · rw [if_pos hv]
        rfl
      · rw [if_neg hv]
        cases o.teardown <;> rfl
  | ready => obtain rfl := Option.some.inj hof; rfl
  | running state => obtain rfl := Option.some.inj hof; rfl
  | cleaned => obtain rfl := Option.some.inj hof; rfl
  | error reason => obtain rfl := Option.some.inj hof; rfl
  | broken reason => obtain rfl := Option.some.inj hof; rfl

theorem transitionTo_isSettled {name : String} {current next : PackageStatus} {o : Outcomes}
    (h : current.isSettled = true) :
    (transitionTo name current next o).status.isSettled = true := by
  rcases transitionTo_cases name current next o with ⟨hsame, -⟩ | ⟨t, hof, -, -, hstatus, -⟩
  · rw [hsame]
    exact h
  · rw [hstatus]
    exact handle_isSettled hof o

/-- Whatever the status, a requested error is what it becomes. -/
theorem transitionTo_error (name : String) (current : PackageStatus) (reason : String)
    (o : Outcomes) : (transitionTo name current (.error reason) o).status = .error reason := by
  unfold transitionTo
  by_cases heq : PackageStatus.error reason = current
  · rw [if_pos heq]
    exact heq.symm
  · rw [if_neg heq]
    rfl

/-- A live package takes the status a unit event asks for. -/
theorem transitionTo_unit_of_isLive (name : String) {current : PackageStatus}
    (h : current.isLive = true) (state : UnitActiveState) (o : Outcomes) :
    (transitionTo name current (statusOfUnit state) o).answer = .ok () ∧
      (transitionTo name current (statusOfUnit state) o).status = statusOfUnit state := by
  unfold transitionTo
  by_cases heq : statusOfUnit state = current
  · rw [if_pos heq]
    exact ⟨rfl, heq.symm⟩
  · rw [if_neg heq]
    cases current with
    | ready => cases state <;> first | exact ⟨rfl, rfl⟩ | exact absurd rfl heq
    | running s => cases state <;> exact ⟨rfl, rfl⟩
    | _ => exact absurd h Bool.false_ne_true

/-- A settled package that is not live refuses what a unit event asks for. -/
theorem transitionTo_unit_refused (name : String) {current : PackageStatus}
    (hsettled : current.isSettled = true) (h : current.isLive = false) (state : UnitActiveState)
    (o : Outcomes) :
    (transitionTo name current (statusOfUnit state) o).answer =
        .error [s!"Invalid transition from {current.text} to {(statusOfUnit state).text}"] ∧
      (transitionTo name current (statusOfUnit state) o).status = current := by
  unfold transitionTo
  have hne : statusOfUnit state ≠ current := by
    intro heq
    have hlive := statusOfUnit_isLive state
    rw [heq, h] at hlive
    exact absurd hlive Bool.false_ne_true
  rw [if_neg hne]
  -- The two transitions a unit event can ask for apply from live statuses and
  -- from statuses in passing only.
  have hnone : findTransition current (statusOfUnit state) = none := by
    cases current with
    | ready => exact absurd h Bool.true_eq_false.mp
    | running s => exact absurd h Bool.true_eq_false.mp
    | settingUp => exact absurd hsettled Bool.false_ne_true
    | startRequested => exact absurd hsettled Bool.false_ne_true
    | stopRequested => exact absurd hsettled Bool.false_ne_true
    | cleaningUp => exact absurd hsettled Bool.false_ne_true
    | _ => cases state <;> rfl
  rw [hnone]
  exact ⟨rfl, rfl⟩

/-! ### Operations invoked -/

/-- Setup runs for a package that is verified or cleaned, and cleanup after it
    if it fails. -/
theorem invoked_settingUp (name : String) (current : PackageStatus) (o : Outcomes) :
    (transitionTo name current .settingUp o).invoked =
      if current = .verified ∨ current = .cleaned then
        (TransitionHandler.toSettingUp.handle current o).2
      else [] := by
  cases current <;> rfl

/-- Start runs for a package that is ready or whose unit has failed. -/
theorem invoked_startRequested (name : String) (current : PackageStatus) (o : Outcomes) :
    (transitionTo name current .startRequested o).invoked =
      if current = .ready ∨ current = .running "failed" then
        (TransitionHandler.toStartRequested.handle current o).2
      else [] := by
  cases current with
  | running state =>
      by_cases hs : state = "failed"
      · rw [hs]
        rfl
      · -- A running unit is started again only if it has failed.
        have hne : ¬ (PackageStatus.running state = .ready ∨
            PackageStatus.running state = .running "failed") := by
          simp only [reduceCtorEq, PackageStatus.running.injEq, false_or]
          exact hs
        have hign : (state != "failed") = true := bne_iff_ne.mpr hs
        rw [if_neg hne]
        have hfind : findTransition (.running state) .startRequested = some .toStartRequested :=
          rfl
        unfold transitionTo
        rw [if_neg (by simp only [reduceCtorEq, not_false_eq_true]), hfind]
        exact congrArg TransitionResult.invoked (if_pos hign)
  | _ => rfl

end Lifecycle

end Ssam
