import Ssam.Lifecycle.Setup
import Ssam.Lifecycle.Transition

/-!
# Removal and a Package's Own Tasks

The removal of a package, next to the two tasks of the package itself: the one
that initializes it (a setup request, then a start request if the package starts
by itself) and the receiver of its unit's state changes. All three ask the state
machine, whose mailbox handles one message at a time, and each waits for its
answer before it goes on. What a setup mounts and what a cleanup or a teardown
unmounts is what the mount and unmount programs come to, however their calls are
answered, and the mount task of a setup that a panic has ended may make its calls
at any time after that.

The removal asks for the status first and tears the package down only if the
status says there is something to tear down. Neither the answer nor the teardown
stops the package's own tasks, the teardown leaves the status as it is, and it
succeeds as well where the lookup of a mounted layer fails. `Harmless` is what has
to hold of a step for none of this to matter.

## Main definitions

* `Msg`: The messages the tasks send to the state machine.
* `Mounts`: What is mounted, and a mount task left running.
* `Mounts.settingUp`, `Mounts.unmount`: A setup with its cleanup, and an unmount.
* `RemovalSystem`: The state machine, its mailbox and the three tasks.
* `removalStep`: A step of one of the tasks, or a message handled.
* `skipsTeardown`: The statuses a removal tears nothing down in.
* `TornDown`: Past the teardown nothing is mounted and nothing was started.
* `RemovedClean`: What a removal that has returned promises.
* `Mounts.Clears`: The unmount that finds every layer.
* `Harmless`: The step that keeps a removal torn down.

## Theorems

* `clears_iff`: An unmount leaves nothing exactly if it clears.
* `layers_of_setup`: A setup that succeeds has mounted something.
* `step_tornDown_iff`: A step keeps `TornDown` exactly when it is harmless.
* `removal_clean`: The condition on a run, and the promise it keeps.
* `removed_before_setup`: A setup request handled after the removal.
-/

namespace Ssam

namespace Lifecycle

open Lib Mount

variable {cfg : MountConfig}

/-- A message to the state machine. -/
inductive Msg where
  /-- The initialize task requests `SettingUp`. -/
  | requestSetup
  /-- The initialize task requests `StartRequested`. -/
  | requestStart
  /-- The receiver requests what a change of the unit asks for. -/
  | unitChanged (state : UnitActiveState)
  /-- The receiver sets the package to `Error` before it ends. -/
  | receiverFailed (reason : String)
  | teardown
  | getStatus
  deriving DecidableEq

/-- Where the initialize task is. -/
inductive InitTask where
  | beforeSetup
  | awaitSetup
  | afterSetup
  | awaitStart
  | ended
  deriving DecidableEq

/-- Where the receiver of unit changes is. -/
inductive ReceiverTask where
  | receiving
  | awaitUnit
  | failing (reason : String)
  | awaitError
  | ended
  deriving DecidableEq

/-- Where the removal is. -/
inductive Remover where
  | idle
  | awaitStatus
  | gotStatus (status : PackageStatus)
  | awaitTeardown
  | tornDown (ok : Bool)
  | returned (ok : Bool)
  deriving DecidableEq

/-- Nothing to tear down: these states have no mounted filesystem. -/
def skipsTeardown : PackageStatus → Bool
  | .verified => true
  | .cleaned => true
  | .upgrading => true
  | _ => false

/-- The removal has had its teardown, or has decided to skip it. -/
def Remover.pastTeardown : Remover → Bool
  | .idle => false
  | .awaitStatus => false
  | .gotStatus status => skipsTeardown status
  | .awaitTeardown => false
  | .tornDown ok => ok
  | .returned _ => true

/-- What is mounted of a package, topmost layer first, and what is still to do for the
    mount task of a setup that a panic has ended. There is at most one: such a package is
    in an error, and not set up again. -/
structure Mounts where
  layers : List Layer
  mountTask : Option (Mounting Unit)

/-- How a setup goes. -/
inductive SetupRun where
  /-- All four tasks return: the mount task with what its calls come to, the others with
      `others`. Each call of the mount task is answered by a kernel of its own. -/
  | joined (kernel : Nat → Kernel) (others : Except Error Unit)
  /-- A task panics when the mount task has made some calls. The mount task goes on,
      unless it is the one that has. -/
  | panicked (join : Error) (calls : List Kernel) (goesOn : Bool)

/-- How an unmount goes. -/
structure UnmountRun where
  kernel : Kernel
  /-- The calls of a mount task left running, before each call of the unmount. -/
  beside : Nat → List Kernel

/-- How the operations go that the handling of a message invokes. -/
structure Operations where
  setup : SetupRun
  /-- Of the cleanup after a setup, or of a teardown. -/
  unmount : UnmountRun
  start : Except Error ExecutionResult
  stop : Except Error ExecutionResult

/-- Answer the calls of an operation one after another. -/
def servedInTurn (kernel : Nat → Kernel) {α : Type} (s : Nat × List Layer) (c : Syscall α) :
    (Nat × List Layer) × α :=
  let served := (kernel s.1).serve s.2 c
  ((s.1 + 1, served.1), served.2)

namespace Mounts

/-- The mount task makes its next call. -/
def taskGoesOn (m : Mounts) (kernel : Kernel) : Mounts :=
  match m.mountTask with
  | some (.call c next) =>
      let served := kernel.serve m.layers c
      ⟨served.1, some (next served.2)⟩
  | _ => m

/-- A mount task has calls to make. -/
def taskRuns (m : Mounts) : Bool :=
  match m.mountTask with
  | some (.call _ _) => true
  | _ => false

/-- Run the four tasks of a setup and join them. -/
def setup (p : Transitioner cfg) (m : Mounts) : SetupRun → Mounts × Except Error Unit
  | .joined kernel others =>
      let run := Prog.eval (servedInTurn kernel) p.mountTask (0, m.layers)
      ({ m with layers := run.1.2 }, do
        others
        context s!"{p.packageName}: Error on mount" run.2)
  | .panicked join calls goesOn =>
      -- `try_join!` gives up at once, and a task it drops is not stopped.
      let run := calls.foldl taskGoesOn ⟨m.layers, some p.mountTask⟩
      (⟨run.layers, if goesOn then run.mountTask else none⟩,
        .error (s!"{p.packageName}: Cannot join the task on setup" :: join))

/-- Make the calls of `rest`, the `n`th of an unmount and those after it. -/
def unmountFrom (run : UnmountRun) : Mounting Unit → Nat → Mounts → Mounts × Except Error Unit
  | .done r, _, m => (m, r)
  | .call c next, n, m =>
      let m' := (run.beside n).foldl taskGoesOn m
      let served := run.kernel.serve m'.layers c
      unmountFrom run (next served.2) (n + 1) { m' with layers := served.1 }

/-- The end of a cleanup, and of a teardown. What they do before that (stop the unit,
    detach the package) is only logged if it fails. -/
def unmount (p : Transitioner cfg) (m : Mounts) (run : UnmountRun) :
    Mounts × Except Error Unit :=
  unmountFrom run p.unmountTask 0 m

/-- What a setup and the cleanup after it have left and returned. -/
structure SettingUp where
  mounts : Mounts
  setup : Except Error Unit
  cleanup : Except Error Unit

/-- Set up, and clean up if that fails. -/
def settingUp (p : Transitioner cfg) (m : Mounts) (run : SetupRun) (cleanup : UnmountRun) :
    SettingUp :=
  let after := m.setup p run
  match after.2 with
  | .ok () => ⟨after.1, .ok (), .ok ()⟩
  | .error e =>
      let unmounted := after.1.unmount p cleanup
      ⟨unmounted.1, .error e, unmounted.2⟩

end Mounts

/-- What the operations answer a transition that invokes them. -/
def Operations.outcomes (o : Operations) (setup unmount : Except Error Unit) : Outcomes where
  setup := setup
  cleanup := unmount
  start := o.start
  stop := o.stop
  teardown := unmount

/-- The state machine of a package, its mailbox and the tasks around it. -/
structure RemovalSystem where
  status : PackageStatus
  mailbox : List Msg
  init : InitTask
  autostart : Bool
  receiver : ReceiverTask
  /-- Changes of the unit the receiver has not taken. -/
  pending : List UnitActiveState
  remover : Remover
  mounts : Mounts
  /-- The start operation was invoked past the teardown. -/
  startedAfter : Bool
  /-- How many of the messages queued when the removal returned are left. -/
  queued : Nat

/-- A package just created. A former daemon may have left layers of it mounted. -/
def RemovalSystem.created (autostart : Bool) (layers : List Layer) : RemovalSystem where
  status := .verified
  mailbox := []
  init := .beforeSetup
  autostart := autostart
  receiver := .receiving
  pending := []
  remover := .idle
  mounts := ⟨layers, none⟩
  startedAfter := false
  queued := 0

/-- What happens next. -/
inductive RemovalEvent where
  /-- The state machine handles the message at the head of its mailbox. -/
  | process (o : Operations)
  /-- A mount task left running makes its next call. -/
  | mountTaskGoesOn (kernel : Kernel)
  /-- The initialize task goes on. -/
  | initGoesOn
  /-- The unit changes its state. -/
  | unitReports (state : UnitActiveState)
  /-- The receiver goes on. -/
  | receiverGoesOn
  /-- The channel of unit changes is closed. -/
  | channelCloses
  /-- The package is to be removed. -/
  | removeCalled
  /-- The removal goes on. What follows a teardown succeeds or not. -/
  | removerGoesOn (rest : Bool)

/-- Send a message. -/
def RemovalSystem.send (s : RemovalSystem) (m : Msg) : RemovalSystem :=
  { s with mailbox := s.mailbox ++ [m] }

/-- The state machine handles a message, and its sender goes on. -/
def RemovalSystem.handle (p : Transitioner cfg) (s : RemovalSystem) (m : Msg) (o : Operations) :
    RemovalSystem :=
  -- Of the transitions requested here only the setup's mounts or unmounts anything.
  let outcomes := o.outcomes (.ok ()) (.ok ())
  match m with
  | .requestSetup =>
      let run := s.mounts.settingUp p o.setup o.unmount
      let result :=
        transitionTo p.packageName s.status .settingUp (o.outcomes run.setup run.cleanup)
      { s with
        status := result.status
        mounts := if .setup ∈ result.invoked then run.mounts else s.mounts
        init := .afterSetup }
  | .requestStart =>
      let result := transitionTo p.packageName s.status .startRequested outcomes
      { s with
        status := result.status
        startedAfter := s.startedAfter || (s.remover.pastTeardown && .start ∈ result.invoked)
        init := .ended }
  | .unitChanged state =>
      let result := transitionTo p.packageName s.status (statusOfUnit state) outcomes
      { s with
        status := result.status
        receiver :=
          -- The receiver ends at the first state that is refused.
          match result.answer with
          | .ok () => .receiving
          | .error e => .failing e.text }
  | .receiverFailed reason =>
      { s with
        status := (transitionTo p.packageName s.status (.error reason) outcomes).status
        receiver := .ended }
  | .teardown =>
      -- The status stays as it is.
      let run := s.mounts.unmount p o.unmount
      match run.2 with
      | .ok () => { s with mounts := run.1, remover := .tornDown true }
      | .error _ => { s with mounts := run.1, remover := .tornDown false }
  | .getStatus => { s with remover := .gotStatus s.status }

/-- One step of the package `p` and its removal. -/
def removalStep (p : Transitioner cfg) (s : RemovalSystem) : RemovalEvent → Option RemovalSystem
  | .process o =>
      match s.mailbox with
      | m :: rest =>
          some ({ s with mailbox := rest, queued := s.queued - 1 }.handle p m o)
      | [] => none
  | .mountTaskGoesOn kernel =>
      if s.mounts.taskRuns then some { s with mounts := s.mounts.taskGoesOn kernel } else none
  | .initGoesOn =>
      match s.init with
      | .beforeSetup => some ({ s with init := .awaitSetup }.send .requestSetup)
      | .afterSetup =>
          if s.autostart then some ({ s with init := .awaitStart }.send .requestStart)
          -- A package that is not started on its own is only set up.
          else some { s with init := .ended }
      | _ => none
  | .unitReports state => some { s with pending := s.pending ++ [state] }
  | .receiverGoesOn =>
      match s.receiver, s.pending with
      | .receiving, state :: rest =>
          some ({ s with receiver := .awaitUnit, pending := rest }.send (.unitChanged state))
      | .failing reason, _ =>
          some ({ s with receiver := .awaitError }.send (.receiverFailed reason))
      | _, _ => none
  | .channelCloses =>
      match s.receiver, s.pending with
      | .receiving, [] => some { s with receiver := .failing "Channel closed" }
      | _, _ => none
  | .removeCalled =>
      match s.remover with
      | .idle => some ({ s with remover := .awaitStatus }.send .getStatus)
      | _ => none
  | .removerGoesOn rest =>
      match s.remover with
      | .gotStatus status =>
          -- What is not set up, or is torn down already, needs no teardown.
          if skipsTeardown status then some { s with remover := .tornDown true }
          else some ({ s with remover := .awaitTeardown }.send .teardown)
      | .tornDown true =>
          -- Whatever is in the mailbox now is handled after the removal.
          some { s with remover := .returned rest, queued := s.mailbox.length }
      | .tornDown false => some { s with remover := .idle }
      | _ => none

/-- Past the teardown nothing is mounted and no start was invoked. -/
structure TornDown (s : RemovalSystem) : Prop where
  unmounted : s.remover.pastTeardown = true → s.mounts.layers = []
  unstarted : s.startedAfter = false

/-- Once the removal has returned and the messages queued then are handled,
    nothing is mounted and no start was invoked past the teardown. -/
def RemovedClean (s : RemovalSystem) : Prop :=
  s.remover = .returned true → s.queued = 0 → s.mounts.layers = [] ∧ s.startedAfter = false

/-- The unmount succeeds, and as many of its lookups do as layers are mounted. Beside a
    mount task that goes on meanwhile it is what is left that counts. -/
def Mounts.Clears (p : Transitioner cfg) (m : Mounts) (run : UnmountRun) : Prop :=
  if m.taskRuns then (m.unmount p run).1.layers = []
  else (m.unmount p run).2 = .ok () ∧ m.layers.length ≤ run.kernel.lookups cfg

/-- The next call of the mount task is none that mounts a layer. -/
def Mounts.AddsNone (m : Mounts) (kernel : Kernel) : Prop :=
  match m.mountTask with
  | some (.call (.mount layer _ _ _) _) => kernel.mount layer ≠ .ok ()
  | _ => True

/-- The step does no harm to a removal past its teardown: a setup that is carried out
    then fails and is cleared away, no start is carried out, and no mount task left running
    mounts a layer. A teardown that succeeds has cleared everything away, and one that is
    skipped had nothing to do. -/
def Harmless (p : Transitioner cfg) (s : RemovalSystem) : RemovalEvent → Prop
  | .process o =>
      match s.mailbox with
      | .requestSetup :: _ =>
          s.remover.pastTeardown = true → s.status = .verified ∨ s.status = .cleaned →
            (s.mounts.setup p o.setup).2 ≠ .ok () ∧ (s.mounts.setup p o.setup).1.Clears p o.unmount
      | .requestStart :: _ =>
          s.remover.pastTeardown = true → ¬ (s.status = .ready ∨ s.status = .running "failed")
      | .teardown :: _ => (s.mounts.unmount p o.unmount).2 = .ok () → s.mounts.Clears p o.unmount
      | .getStatus :: _ => skipsTeardown s.status = true → s.mounts.layers = []
      | _ => True
  | .mountTaskGoesOn kernel => s.remover.pastTeardown = true → s.mounts.AddsNone kernel
  | _ => True

section Clearing

variable (p : Transitioner cfg) (m : Mounts)

namespace Mounts

theorem taskGoesOn_of_ended {m : Mounts} (h : m.taskRuns = false) (kernel : Kernel) :
    m.taskGoesOn kernel = m := by
  unfold taskRuns at h
  unfold taskGoesOn
  split
  · rename_i hcall
    rw [hcall] at h
    exact absurd h Bool.true_eq_false.mp
  · rfl

theorem foldl_taskGoesOn_of_ended {m : Mounts} (h : m.taskRuns = false) (calls : List Kernel) :
    calls.foldl taskGoesOn m = m := by
  induction calls with
  | nil => rfl
  | cons kernel calls ih => rw [List.foldl_cons, taskGoesOn_of_ended h, ih]

/-- Beside no mount task an unmount is what its program comes to. -/
theorem unmountFrom_of_ended (run : UnmountRun) {m : Mounts} (h : m.taskRuns = false)
    (rest : Mounting Unit) (n : Nat) :
    unmountFrom run rest n m =
      ({ m with layers := (Prog.eval run.kernel.serve rest m.layers).1 },
        (Prog.eval run.kernel.serve rest m.layers).2) := by
  induction rest generalizing n m with
  | done r => rfl
  | call c next ih =>
      rw [unmountFrom, foldl_taskGoesOn_of_ended h]
      exact ih (run.kernel.serve m.layers c).2
        (m := ⟨(run.kernel.serve m.layers c).1, m.mountTask⟩) h (n + 1)

/-- An unmount leaves nothing exactly if it clears. -/
theorem clears_iff (run : UnmountRun) :
    m.Clears p run ↔ (m.unmount p run).1.layers = [] := by
  unfold Clears
  by_cases h : m.taskRuns = true
  · rw [if_pos h]
  · rw [if_neg h, unmount, unmountFrom_of_ended run (Bool.eq_false_iff.mpr h)]
    simp only [Transitioner.unmountTask, Prog.context, Prog.eval_mapError]
    refine Iff.trans (and_congr_left' ?_) (unmountPkgfs_clears_iff run.kernel p.pkgfs m.layers).symm
    -- The message in front of an error does not make a success of it.
    cases (Prog.eval run.kernel.serve (unmountPkgfs p.pkgfs) m.layers).2 with
    | ok u => exact Iff.rfl
    | error e => simp only [Except.mapError, reduceCtorEq]

/-- The retry of a mount that succeeds has mounted something as well. -/
theorem mountTask_leavesMounted (layers : List Layer) :
    Prog.wpUnder (Kernel.Answers fun _ _ _ => True) (fun _ _ => True) LeavesMounted
      p.mountTask layers := by
  have hmount := mountPkgfs_leavesMounted p.packageName p.pkgfs
  have hbranch : ∀ r t, LeavesMounted r t → Prog.branch (fun u => LeavesMounted (.ok u))
      (fun e => LeavesMounted
        (.error (s!"{p.packageName}: Failed to mount package fs" :: e))) r t := by
    intro r t h
    cases r with
    | ok u => exact h
    | error e => exact leavesMounted_error _ _
  simp only [Transitioner.mountTask, Prog.wpUnder_context, Prog.bind_eq, Prog.wpUnder_bind,
    Prog.wpUnder_attempt]
  refine Prog.wpUnder_mono (fun _ _ h => h) (fun r t h => ?_) (hmount layers)
  cases r with
  | ok u => exact h
  | error e =>
      rw [Prog.branch_ok, Prog.wpUnder_bind, Prog.wpUnder_context]
      refine Prog.wpUnder_of_forall (fun r t => ?_) _ _
      cases r with
      | ok u => exact Prog.wpUnder_mono (fun _ _ h => h) hbranch (hmount t)
      | error e => exact leavesMounted_error _ _

/-- A setup that succeeds has mounted something. -/
theorem layers_of_setup (run : SetupRun) (hok : (m.setup p run).2 = .ok ()) :
    (m.setup p run).1.layers ≠ [] := by
  cases run with
  | joined kernel others =>
      have hleaves : LeavesMounted
          (Prog.eval (servedInTurn kernel) p.mountTask (0, m.layers)).2
          (Prog.eval (servedInTurn kernel) p.mountTask (0, m.layers)).1.2 :=
        Prog.eval_of_wpUnder Prod.snd (fun s c => ⟨kernel s.1, trivial, rfl⟩)
          (mountTask_leavesMounted p m.layers)
      refine hleaves ?_
      -- The mount task's result is the last the join looks at.
      simp only [setup] at hok
      cases others with
      | error e =>
          exact absurd hok (by simp only [bind, Except.bind, reduceCtorEq, not_false_eq_true])
      | ok u =>
          revert hok
          cases (Prog.eval (servedInTurn kernel) p.mountTask (0, m.layers)).2 with
          | ok u => exact fun _ => rfl
          | error e => exact fun hok => absurd hok (by simp only [context, bind, Except.bind,
              reduceCtorEq, not_false_eq_true])
  | panicked join calls goesOn =>
      exact absurd hok (by simp only [setup, reduceCtorEq, not_false_eq_true])

/-- A setup and its cleanup leave nothing exactly if the setup fails and is cleared away. -/
theorem settingUp_clears_iff (run : SetupRun) (cleanup : UnmountRun) :
    (m.settingUp p run cleanup).mounts.layers = [] ↔
      (m.setup p run).2 ≠ .ok () ∧ (m.setup p run).1.Clears p cleanup := by
  rw [clears_iff, settingUp]
  cases hsetup : (m.setup p run).2 with
  | ok u => exact iff_of_false (layers_of_setup p m run hsetup) fun h => h.1 rfl
  | error e =>
      have hne : (.error e : Except Error Unit) ≠ .ok () := by
        simp only [ne_eq, reduceCtorEq, not_false_eq_true]
      exact ⟨fun h => ⟨hne, h⟩, fun h => h.2⟩

/-- Where nothing is mounted a mount task leaves it so exactly if it adds none. -/
theorem addsNone_iff {m : Mounts} (hnil : m.layers = []) (kernel : Kernel) :
    (m.taskGoesOn kernel).layers = [] ↔ m.AddsNone kernel := by
  unfold taskGoesOn AddsNone
  cases m.mountTask with
  | none => exact iff_of_true hnil trivial
  | some task =>
      cases task with
      | done r => exact iff_of_true hnil trivial
      | call c next =>
          simp only [hnil]
          cases c with
          | mount layer source fstype data =>
              simp only [Kernel.serve]
              cases kernel.mount layer with
              | ok u => exact iff_of_false (List.cons_ne_nil _ _) fun h => h rfl
              | error e => simp only [ne_eq, reduceCtorEq, not_false_eq_true]
          | unmount site =>
              simp only [Kernel.serve]
              cases kernel.unmount site <;> exact iff_of_true rfl trivial
          | _ => exact iff_of_true rfl trivial

end Mounts

end Clearing

theorem TornDown.removedClean {s : RemovalSystem} (h : TornDown s) : RemovedClean s := by
  intro hret _
  refine ⟨h.unmounted ?_, h.unstarted⟩
  rw [hret]
  rfl

/-- The step leaves the removal, the mount and the ghost of the start alone. -/
theorem TornDown.of_same {s t : RemovalSystem} (h : TornDown s) (hrem : t.remover = s.remover)
    (hmounts : t.mounts = s.mounts) (hstart : t.startedAfter = s.startedAfter) :
    TornDown t := by
  refine ⟨fun hpast => ?_, hstart.trans h.unstarted⟩
  rw [hrem] at hpast
  rw [hmounts]
  exact h.unmounted hpast

/-- A step that is past no teardown keeps what it has not touched. -/
theorem tornDown_of_not_past {t : RemovalSystem} (hrem : t.remover.pastTeardown = false)
    (hstart : t.startedAfter = false) : TornDown t := by
  refine ⟨fun hpast => ?_, hstart⟩
  rw [hrem] at hpast
  exact absurd hpast Bool.false_ne_true

variable (p : Transitioner cfg)

theorem setup_mem_invoked (name : String) (current : PackageStatus) (o : Outcomes) :
    Op.setup ∈ (transitionTo name current .settingUp o).invoked ↔
      current = .verified ∨ current = .cleaned := by
  rw [invoked_settingUp]
  by_cases h : current = .verified ∨ current = .cleaned
  · rw [if_pos h]
    refine iff_of_true ?_ h
    simp only [TransitionHandler.handle]
    cases o.setup <;> exact List.mem_cons_self
  · rw [if_neg h]
    exact iff_of_false List.not_mem_nil h

theorem start_mem_invoked (name : String) (current : PackageStatus) (o : Outcomes) :
    Op.start ∈ (transitionTo name current .startRequested o).invoked ↔
      current = .ready ∨ current = .running "failed" := by
  rw [invoked_startRequested]
  by_cases h : current = .ready ∨ current = .running "failed"
  · rw [if_pos h]
    refine iff_of_true ?_ h
    simp only [TransitionHandler.handle]
    cases o.start <;> exact List.mem_cons_self
  · rw [if_neg h]
    exact iff_of_false List.not_mem_nil h

/-- Handling a message keeps `TornDown` exactly when it is harmless. -/
theorem handle_tornDown_iff {s : RemovalSystem} (h : TornDown s) {m : Msg} {rest : List Msg}
    (hmail : s.mailbox = m :: rest) (o : Operations) :
    TornDown ({ s with mailbox := rest, queued := s.queued - 1 }.handle p m o) ↔
      Harmless p s (.process o) := by
  unfold Harmless
  rw [hmail]
  cases m with
  -- A setup that is carried out mounts the package anew.
  | requestSetup =>
      simp only [RemovalSystem.handle, setup_mem_invoked]
      by_cases happ : s.status = .verified ∨ s.status = .cleaned
      · simp only [if_pos happ]
        have hclears := s.mounts.settingUp_clears_iff p o.setup o.unmount
        exact ⟨fun ht hpast _ => hclears.mp (ht.unmounted hpast),
          fun hc => ⟨fun hpast => hclears.mpr (hc hpast happ), h.unstarted⟩⟩
      · simp only [if_neg happ]
        exact iff_of_true ⟨h.unmounted, h.unstarted⟩ fun _ hc => absurd hc happ
  -- A start is harmful only if it is carried out after the teardown.
  | requestStart =>
      simp only [RemovalSystem.handle, start_mem_invoked]
      constructor
      · intro ht hpast happ
        have hno := ht.unstarted
        simp only [hpast, happ, decide_true, Bool.and_true, Bool.or_true] at hno
        exact absurd hno Bool.true_eq_false.mp
      · intro hc
        refine ⟨h.unmounted, ?_⟩
        simp only [h.unstarted, Bool.false_or, Bool.and_eq_false_iff]
        cases hpast : s.remover.pastTeardown with
        | false => exact Or.inl rfl
        | true => exact Or.inr (decide_eq_false (hc hpast))
  | unitChanged state => exact iff_of_true (h.of_same rfl rfl rfl) trivial
  | receiverFailed reason => exact iff_of_true (h.of_same rfl rfl rfl) trivial
  | teardown =>
      simp only [RemovalSystem.handle]
      rw [s.mounts.clears_iff p o.unmount]
      -- Only one that succeeds brings the removal past it.
      cases (s.mounts.unmount p o.unmount).2 with
      | ok u => exact ⟨fun ht _ => ht.unmounted rfl, fun hc => ⟨fun _ => hc rfl, h.unstarted⟩⟩
      | error e =>
          refine iff_of_true (tornDown_of_not_past rfl h.unstarted) fun hok => ?_
          exact absurd hok (by simp only [reduceCtorEq, not_false_eq_true])
  | getStatus =>
      exact ⟨fun ht hskip => ht.unmounted hskip, fun hc => ⟨hc, h.unstarted⟩⟩

/-- A step keeps `TornDown` exactly when it is harmless. -/
theorem step_tornDown_iff {s t : RemovalSystem} {e : RemovalEvent} (h : TornDown s)
    (hstep : removalStep p s e = some t) : TornDown t ↔ Harmless p s e := by
  cases e with
  | process o =>
      cases hmail : s.mailbox with
      | nil => simp only [removalStep, hmail, reduceCtorEq] at hstep
      | cons m rest =>
          simp only [removalStep, hmail] at hstep
          rw [← Option.some.inj hstep]
          exact handle_tornDown_iff p h hmail o
  | mountTaskGoesOn kernel =>
      simp only [removalStep] at hstep
      split at hstep
      · rw [← Option.some.inj hstep]
        have hadds := fun hpast => Mounts.addsNone_iff (h.unmounted hpast) kernel
        exact ⟨fun ht hpast => (hadds hpast).mp (ht.unmounted hpast),
          fun hc => ⟨fun hpast => (hadds hpast).mpr (hc hpast), h.unstarted⟩⟩
      · exact absurd hstep (by simp only [reduceCtorEq, not_false_eq_true])
  | initGoesOn =>
      refine iff_of_true ?_ trivial
      simp only [removalStep] at hstep
      split at hstep
      · rw [← Option.some.inj hstep]
        exact h.of_same rfl rfl rfl
      · split at hstep
        · rw [← Option.some.inj hstep]
          exact h.of_same rfl rfl rfl
        · rw [← Option.some.inj hstep]
          exact h.of_same rfl rfl rfl
      · exact absurd hstep (by simp only [reduceCtorEq, not_false_eq_true])
  | unitReports state =>
      rw [← Option.some.inj hstep]
      exact iff_of_true (h.of_same rfl rfl rfl) trivial
  | receiverGoesOn =>
      refine iff_of_true ?_ trivial
      simp only [removalStep] at hstep
      split at hstep
      · rw [← Option.some.inj hstep]
        exact h.of_same rfl rfl rfl
      · rw [← Option.some.inj hstep]
        exact h.of_same rfl rfl rfl
      · exact absurd hstep (by simp only [reduceCtorEq, not_false_eq_true])
  | channelCloses =>
      refine iff_of_true ?_ trivial
      simp only [removalStep] at hstep
      split at hstep
      · rw [← Option.some.inj hstep]
        exact h.of_same rfl rfl rfl
      · exact absurd hstep (by simp only [reduceCtorEq, not_false_eq_true])
  | removeCalled =>
      refine iff_of_true ?_ trivial
      simp only [removalStep] at hstep
      split at hstep
      · rw [← Option.some.inj hstep]
        exact tornDown_of_not_past rfl h.unstarted
      · exact absurd hstep (by simp only [reduceCtorEq, not_false_eq_true])
  | removerGoesOn ok =>
      refine iff_of_true ?_ trivial
      simp only [removalStep] at hstep
      split at hstep
      · rename_i status hrem
        split at hstep
        · -- The teardown is skipped: the removal was past it with the answer.
          rename_i hskip
          rw [← Option.some.inj hstep]
          refine ⟨fun _ => h.unmounted ?_, h.unstarted⟩
          rw [hrem]
          exact hskip
        · rw [← Option.some.inj hstep]
          exact tornDown_of_not_past rfl h.unstarted
      · rename_i hrem
        rw [← Option.some.inj hstep]
        refine ⟨fun _ => h.unmounted ?_, h.unstarted⟩
        rw [hrem]
        rfl
      · rw [← Option.some.inj hstep]
        exact tornDown_of_not_past rfl h.unstarted
      · exact absurd hstep (by simp only [reduceCtorEq, not_false_eq_true])

/-- From the creation of a package on, past a teardown nothing is ever mounted
    and no start invoked exactly when every step is harmless, and then a removal
    that has returned keeps its promise. -/
theorem removal_clean (autostart : Bool) (layers : List Layer) (es : List RemovalEvent) :
    (Always (removalStep p) TornDown (RemovalSystem.created autostart layers) es ↔
        Along (removalStep p) (Harmless p) (RemovalSystem.created autostart layers) es) ∧
      (Along (removalStep p) (Harmless p) (RemovalSystem.created autostart layers) es →
        Always (removalStep p) RemovedClean (RemovalSystem.created autostart layers) es) := by
  have hnew : TornDown (RemovalSystem.created autostart layers) := tornDown_of_not_past rfl rfl
  have hiff : Always (removalStep p) TornDown (RemovalSystem.created autostart layers) es ↔
      Along (removalStep p) (Harmless p) (RemovalSystem.created autostart layers) es :=
    always_iff_along (fun s e t => step_tornDown_iff p) hnew
  exact ⟨hiff, fun h => always_mono (fun s hs => hs.removedClean) (hiff.mpr h)⟩

/-- Every call of the operations goes well, with no mount task running beside them. -/
def Operations.fine : Operations where
  setup := .joined (fun _ => .fine) (.ok ())
  unmount := ⟨.fine, fun _ => []⟩
  start := .ok (.success (.active .active))
  stop := .ok (.success (.inactive .inactive))

/-- The package is set up and started, and then removed. -/
def quietRemoval : List RemovalEvent :=
  [.initGoesOn, .process .fine, .initGoesOn, .process .fine, .removeCalled, .process .fine,
    .removerGoesOn true, .process .fine, .removerGoesOn true]

/-- A removal that nothing gets in the way of keeps its promise. -/
theorem removal_clean_quiet :
    (exec (removalStep transitionerA) (RemovalSystem.created true []) quietRemoval).map
        (fun t => (t.remover, t.queued, t.mounts.layers)) = some (.returned true, 0, []) ∧
      Always (removalStep transitionerA) RemovedClean (RemovalSystem.created true [])
        quietRemoval := by
  refine ⟨by decide, (removal_clean transitionerA true [] quietRemoval).2 ?_⟩
  refine along_cons rfl trivial (along_cons rfl (fun h => absurd h (by decide)) ?_)
  refine along_cons rfl trivial (along_cons rfl (fun h => absurd h (by decide)) ?_)
  refine along_cons rfl trivial (along_cons rfl (fun h => absurd h (by decide)) ?_)
  -- The teardown finds both layers.
  refine along_cons rfl trivial (along_cons rfl (fun _ => (Mounts.clears_iff _ _ _).mpr rfl) ?_)
  exact along_cons rfl trivial trivial

/-- The removal asks for the status before the setup request is handled. -/
def earlyRemoval : List RemovalEvent :=
  [.removeCalled, .initGoesOn, .process .fine, .removerGoesOn true, .removerGoesOn true,
    .process .fine]

/-- The answer is `Verified`, so the teardown is skipped and the removal returns;
    the setup request is next in the mailbox and mounts the package. -/
theorem removed_before_setup :
    (exec (removalStep transitionerA) (RemovalSystem.created true []) earlyRemoval).map
        (fun t => (t.remover, t.queued, t.mounts.layers)) =
      some (.returned true, 0, [.overlay, .base]) := by
  decide

end Lifecycle

end Ssam
