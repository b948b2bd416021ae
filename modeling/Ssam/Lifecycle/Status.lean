import Ssam.Lib.Error

/-!
# Package and Unit Status

The status of a package, the states of the unit its container runs in, and the
conversions between the two: what systemd reports about the unit becomes a
target status, and what a start or stop job ended with becomes the status after
the operation.

The texts are the ones the daemon prints, since the status of a running package
carries the text of the unit's state and the state machine compares it.

## Main definitions

* `UnitActiveState`: The states of a systemd unit.
* `ExecutionStatus`: A unit state as active or inactive.
* `ExecutionResult`: How a start or stop ended.
* `PackageStatus`: The status of a package.
* `statusOfResult`: The status after an operation.
* `statusOfUnit`: The status a unit event asks for.
* `PackageStatus.isLive`: The package is ready or its unit is loaded.
* `PackageStatus.isSettled`: A status between two messages.

## Theorems

* `statusOfUnit_isLive`: A unit event asks for `Ready` or `Running`.
* `statusOfResult_isSettled`: An operation ends in a settled status.
-/

namespace Ssam

namespace Lifecycle

open Lib

/-- Why a unit has failed. -/
structure FailureInfo where
  result : String
  exitcode : Int
  deriving DecidableEq

/-- The `ActiveState` of a systemd unit. -/
inductive UnitActiveState where
  | activating
  | active
  | reloading
  | deactivating
  | inactive
  | failed (info : FailureInfo)
  deriving DecidableEq

namespace UnitActiveState

/-- The kebab-case name of the state. -/
def text : UnitActiveState → String
  | activating => "activating"
  | active => "active"
  | reloading => "reloading"
  | deactivating => "deactivating"
  | inactive => "inactive"
  | failed _ => "failed"

end UnitActiveState

/-- A unit state, as one that is active in some way or not at all. -/
inductive ExecutionStatus where
  | active (state : UnitActiveState)
  | inactive (state : UnitActiveState)
  deriving DecidableEq

/-- `From<UnitActiveState>`: only `Inactive` is inactive. -/
def ExecutionStatus.ofUnit : UnitActiveState → ExecutionStatus
  | .inactive => .inactive .inactive
  | state => .active state

/-- How a start or stop of the unit ended. -/
inductive ExecutionResult where
  | success (status : ExecutionStatus)
  | canceled (status : ExecutionStatus)
  | failure (reason : String)
  | timeout
  deriving DecidableEq

/-- Why a package cannot be used. -/
structure BrokenReason where
  summary : String
  details : String
  deriving DecidableEq

/-- The status of a package. -/
inductive PackageStatus where
  | verified
  | settingUp
  | ready
  | startRequested
  | running (state : String)
  | stopRequested
  | cleaningUp
  | cleaned
  | upgrading
  | error (reason : String)
  | broken (reason : BrokenReason)
  deriving DecidableEq

/-- `From<ExecutionResult>`: the status an operation on the unit leaves. -/
def statusOfResult : ExecutionResult → PackageStatus
  | .success (.active state) => .running state.text
  | .canceled (.active state) => .running state.text
  | .success (.inactive _) => .ready
  | .canceled (.inactive _) => .ready
  | .failure reason => .error reason
  | .timeout => .error "timeout"

/-- The status the receiver asks for when the unit's state changes. -/
def statusOfUnit (state : UnitActiveState) : PackageStatus :=
  match ExecutionStatus.ofUnit state with
  | .active state => .running state.text
  | .inactive _ => .ready

namespace PackageStatus

/-- The package is ready to start, or its unit is loaded. -/
def isLive : PackageStatus → Bool
  | ready => true
  | running _ => true
  | _ => false

/-- A status the state machine rests in between two messages: none of the four
    it passes through while an operation runs. -/
def isSettled : PackageStatus → Bool
  | settingUp => false
  | startRequested => false
  | stopRequested => false
  | cleaningUp => false
  | _ => true

/-- The status is an error. -/
def isError : PackageStatus → Bool
  | error _ => true
  | _ => false

theorem not_isError_of_isLive {status : PackageStatus} (h : status.isLive = true) :
    status.isError = false := by
  cases status with
  | error reason => exact absurd h Bool.false_ne_true
  | _ => rfl

end PackageStatus

/-- What the unit reports asks for one of the two live statuses. -/
theorem statusOfUnit_isLive (state : UnitActiveState) : (statusOfUnit state).isLive = true := by
  cases state <;> rfl

theorem statusOfResult_isSettled (result : ExecutionResult) :
    (statusOfResult result).isSettled = true := by
  rcases result with (_ | _) | (_ | _) | _ | _ <;> rfl

end Lifecycle

end Ssam
