import Ssam.Mount.Stack
import Ssam.Network.Survivor

/-!
# The Setup of a Package

The setup of a package as the four tasks it spawns (the executor, the mount, the
bundle and the network), the join that waits for them, and the cleanup that follows
a failed setup. Each call a task makes is a step, so the steps of the tasks, of the
network actor and of the cleanup come in any order, and every call may be answered
in any way.

The join looks at how the tasks ended, not at what they returned: an error of a task
is seen only after all four have ended, but a panic ends the join at once, and the
other tasks go on.

## Main definitions

* `Task`: A spawned task, running or ended.
* `Transitioner`: What a setup is told about its package.
* `Transitioner.mountTask`: Mount, and unmount and mount again after a failure.
* `SetupSystem`: The tasks, the join, the cleanup, and what they act on.
* `SetupSystem.joined`: What setup returns.
* `setupStep`: A step of any of them.
* `Moved`: What a step comes to.

## Theorems

* `moved_of_step`: A step that is made is one of these.
* `setup_step`: Only the return of the join makes setup return.
* `tasksKept_step`: A task that has ended stays so, and only a panic is one.
* `finished_of_joined`: Without a panic the join returns when all tasks have.
-/

namespace Ssam

namespace Lifecycle

open Lib Mount

/-- What a task asks the network actor for. -/
inductive NetworkRequest where
  | createNetns
  | attach
  | detach
  | destroyNetns
  deriving DecidableEq

/-- How a spawned task ends. Whoever joins it is told of a panic by an error. -/
inductive TaskEnd where
  | returned (result : Except Error Unit)
  | panicked (join : Error)

/-- A spawned task, with what it has still to do. -/
inductive Task (π : Type*) where
  | running (rest : π)
  | ended (how : TaskEnd)

/-- Where the network task is. -/
inductive NetnsStage where
  | beforeCreate
  | awaitCreate
  | beforeAttach
  | awaitAttach

/-- Where the cleanup is. -/
inductive CleanupStage where
  | notCalled
  | beforeDetach
  | awaitDetach
  | beforeDestroy
  | awaitDestroy
  | unmounting (rest : Mounting Unit)
  | returned (result : Except Error Unit)

section Tasks

variable {π : Type*}

def Task.hasEnded : Task π → Bool
  | .running _ => false
  | .ended _ => true

/-- What joining the task fails with, if it has panicked. -/
def Task.joinError : Task π → Option Error
  | .ended (.panicked join) => some join
  | _ => none

/-- What the task returned, if it did. -/
def Task.result : Task π → Option (Except Error Unit)
  | .ended (.returned result) => some result
  | _ => none

end Tasks

variable {cfg : MountConfig}

/-- What a setup is told about its package. -/
structure Transitioner (cfg : MountConfig) where
  packageName : String
  pkgfs : PackageFsMetadata cfg
  /-- The daemon manages bridge networks. -/
  network : Bool
  bridgeId : String
  containerInterface : String

/-- The mount task: after a failure the package fs is unmounted and mounted again. -/
def Transitioner.mountTask (p : Transitioner cfg) : Mounting Unit :=
  Prog.context s!"{p.packageName}: Failed to mount package fs" do
    match ← (mountPkgfs p.packageName p.pkgfs).attempt with
    | .ok () => pure ()
    -- The retry. What failed the first time is only logged.
    | .error _ =>
        (unmountPkgfs p.pkgfs).context
          s!"{p.packageName}: Failed to unmount package fs during retry"
        mountPkgfs p.packageName p.pkgfs

/-- The end of the cleanup. -/
def Transitioner.unmountTask (p : Transitioner cfg) : Mounting Unit :=
  (unmountPkgfs p.pkgfs).context s!"{p.packageName}: Failed to unmount package fs"

def Transitioner.attachMessage (p : Transitioner cfg) : Network.Attach where
  pkg := p.packageName
  bridgeId := p.bridgeId
  containerInterface := p.containerInterface

def Transitioner.detachMessage (p : Transitioner cfg) : Network.Detach where
  pkg := p.packageName
  bridgeId := p.bridgeId

/-- A setup and its cleanup, and what they act on. -/
structure SetupSystem where
  /-- What is mounted at the package's mount point, topmost first. -/
  layers : List Layer
  /-- The network actor and the veths on the host. -/
  wired : Network.Wired
  /-- The package's requests that the actor has not handled. -/
  mailbox : List NetworkRequest
  executor : Task Unit
  mount : Task (Mounting Unit)
  prepare : Task Unit
  netns : Task NetnsStage
  /-- What setup returned. -/
  setup : Option (Except Error Unit)
  cleanup : CleanupStage

/-- The four tasks are spawned. -/
def Transitioner.spawned (p : Transitioner cfg) (layers : List Layer) (wired : Network.Wired) :
    SetupSystem where
  layers := layers
  wired := wired
  mailbox := []
  executor := .running ()
  mount := .running p.mountTask
  prepare := .running ()
  netns := .running .beforeCreate
  setup := none
  cleanup := .notCalled

/-- What the host answers while the actor handles a request. -/
structure HostAnswers where
  attach : Network.WiringEnv
  detach : Network.DetachEnv
  /-- Of `CreateNetns`. -/
  created : Except Error Unit

/-- What happens next. -/
inductive SetupEvent where
  | executorEnds (how : TaskEnd)
  | prepareEnds (how : TaskEnd)
  /-- The mount task makes its next call, or returns. -/
  | mountGoesOn (kernel : Kernel)
  | mountPanics (join : Error)
  | netnsGoesOn
  /-- The network task gets no answer to its request. -/
  | netnsAskFails (e : Error)
  | netnsPanics (join : Error)
  | actorHandles (host : HostAnswers)
  /-- The actor handles a message about another veth, or a veth goes away. -/
  | elsewhere (e : Network.WiredEvent)
  | joinReturns
  /-- The cleanup makes its next request or call, or returns. -/
  | cleanupGoesOn (kernel : Kernel)
  | cleanupAskFails

namespace SetupSystem

/-- The first panic of a task. -/
def panic (s : SetupSystem) : Option Error :=
  s.executor.joinError <|> s.mount.joinError <|> s.prepare.joinError <|> s.netns.joinError

/-- What setup returns. An error of a task is looked at when all have ended. -/
def joined (p : Transitioner cfg) (s : SetupSystem) : Option (Except Error Unit) :=
  match s.panic with
  -- `try_join!` gives up at the first panic and waits for no other task.
  | some join => some (.error (s!"{p.packageName}: Cannot join the task on setup" :: join))
  | none =>
      match s.executor.result, s.mount.result, s.prepare.result, s.netns.result with
      -- All four have ended. The errors are looked at in this order.
      | some executor, some mount, some prepare, some netns => some do
          context s!"{p.packageName}: Error on initialize LazyExecutor" executor
          context s!"{p.packageName}: Error on prepare container bundle" prepare
          context s!"{p.packageName}: Error on attach bridge network" netns
          context s!"{p.packageName}: Error on mount" mount
      | _, _, _, _ => none

/-- All four tasks have ended. -/
def finished (s : SetupSystem) : Bool :=
  s.executor.hasEnded && s.mount.hasEnded && s.prepare.hasEnded && s.netns.hasEnded

/-- Send the network actor a request. -/
def send (s : SetupSystem) (m : NetworkRequest) : SetupSystem :=
  { s with mailbox := s.mailbox ++ [m] }

end SetupSystem

section Steps

variable (pkgHash10 : String → String) (p : Transitioner cfg)

/-- The event is no message about the veth of this package. -/
def isElsewhere (veth : String) : Network.WiredEvent → Bool
  | .attach msg _ => Network.vethHostName pkgHash10 msg.pkg ≠ veth
  | .detach msg _ => Network.vethHostName pkgHash10 msg.pkg ≠ veth
  | .vanish _ => true

/-- The network task when its `CreateNetns` is answered. -/
def netnsCreated (created : Except Error Unit) : Task NetnsStage → Task NetnsStage
  | .running .awaitCreate =>
      match created with
      | .ok () => .running .beforeAttach
      | .error e => .ended (.returned (.error e))
  | netns => netns

/-- The network task when its `Attach` is answered. -/
def netnsAttached (answer : Except Error Unit) : Task NetnsStage → Task NetnsStage
  | .running .awaitAttach => .ended (.returned answer)
  | netns => netns

/-- The cleanup when its `Detach` is answered. -/
def CleanupStage.detached : CleanupStage → CleanupStage
  | .awaitDetach => .beforeDestroy
  | cleanup => cleanup

/-- The cleanup when its `DestroyNetns` is answered: an error is only logged. -/
def CleanupStage.destroyed : CleanupStage → CleanupStage
  | .awaitDestroy => .unmounting p.unmountTask
  | cleanup => cleanup

/-- The actor handles a request, and the task that waits for it goes on. -/
def SetupSystem.handle (s : SetupSystem) (host : HostAnswers) :
    NetworkRequest → Option SetupSystem
  | .createNetns => some { s with netns := netnsCreated host.created s.netns }
  | .attach =>
      -- The actor answers whether or not the task still waits for it.
      let answer :=
        (s.wired.actor.handleAttach pkgHash10 p.attachMessage host.attach.toAttachEnv).answer
      (Network.wiredStep pkgHash10 s.wired (.attach p.attachMessage host.attach)).map fun wired =>
        { s with wired := wired, netns := netnsAttached answer s.netns }
  | .detach =>
      (Network.wiredStep pkgHash10 s.wired (.detach p.detachMessage host.detach)).map fun wired =>
        { s with wired := wired, cleanup := s.cleanup.detached }
  | .destroyNetns => some { s with cleanup := s.cleanup.destroyed p }

/-- One step of a setup and of the cleanup after it. -/
def setupStep (s : SetupSystem) : SetupEvent → Option SetupSystem
  | .executorEnds how =>
      match s.executor with
      | .running () => some { s with executor := .ended how }
      | .ended _ => none
  | .prepareEnds how =>
      match s.prepare with
      | .running () => some { s with prepare := .ended how }
      | .ended _ => none
  | .mountGoesOn kernel =>
      match s.mount with
      -- The task may be stopped between any two of its calls.
      | .running (.call c next) =>
          let served := kernel.serve s.layers c
          some { s with layers := served.1, mount := .running (next served.2) }
      | .running (.done r) => some { s with mount := .ended (.returned r) }
      | .ended _ => none
  | .mountPanics join =>
      match s.mount with
      | .running _ => some { s with mount := .ended (.panicked join) }
      | .ended _ => none
  | .netnsGoesOn =>
      match s.netns with
      | .running .beforeCreate =>
          if p.network then some ({ s with netns := .running .awaitCreate }.send .createNetns)
          -- A package without a bridge network asks for nothing.
          else some { s with netns := .ended (.returned (.ok ())) }
      | .running .beforeAttach => some ({ s with netns := .running .awaitAttach }.send .attach)
      | _ => none
  | .netnsAskFails e =>
      -- The task ends, and what it has sent stays in the mailbox.
      match s.netns with
      | .running .awaitCreate => some { s with netns := .ended (.returned (.error e)) }
      | .running .awaitAttach => some { s with netns := .ended (.returned (.error e)) }
      | _ => none
  | .netnsPanics join =>
      match s.netns with
      | .running _ => some { s with netns := .ended (.panicked join) }
      | .ended _ => none
  | .actorHandles host =>
      match s.mailbox with
      | m :: rest => { s with mailbox := rest }.handle pkgHash10 p host m
      | [] => none
  | .elsewhere e =>
      if isElsewhere pkgHash10 (Network.vethHostName pkgHash10 p.packageName) e then
        (Network.wiredStep pkgHash10 s.wired e).map fun wired => { s with wired := wired }
      else none
  | .joinReturns =>
      match s.setup, s.joined p with
      | none, some (.ok ()) => some { s with setup := some (.ok ()) }
      -- The cleanup is called at once, and the other tasks may still be running.
      | none, some (.error e) => some { s with
          setup := some (.error e)
          cleanup := if p.network then .beforeDetach else .unmounting p.unmountTask }
      | _, _ => none
  | .cleanupGoesOn kernel =>
      match s.cleanup with
      -- An error of either request is only logged, and the unmount comes in any case.
      | .beforeDetach => some ({ s with cleanup := .awaitDetach }.send .detach)
      | .beforeDestroy => some ({ s with cleanup := .awaitDestroy }.send .destroyNetns)
      | .unmounting (.call c next) =>
          let served := kernel.serve s.layers c
          some { s with layers := served.1, cleanup := .unmounting (next served.2) }
      | .unmounting (.done r) => some { s with cleanup := .returned r }
      | _ => none
  | .cleanupAskFails =>
      match s.cleanup with
      | .awaitDetach => some { s with cleanup := .beforeDestroy }
      | .awaitDestroy => some { s with cleanup := .unmounting p.unmountTask }
      | _ => none

end Steps

section Moves

variable (pkgHash10 : String → String) (p : Transitioner cfg) (s : SetupSystem)

/-- What the actor's handling of a request comes to. -/
inductive Handled (host : HostAnswers) : NetworkRequest → SetupSystem → Prop where
  | createNetns :
      Handled host .createNetns { s with netns := netnsCreated host.created s.netns }
  | attach {answer : Except Error Unit} {wired : Network.Wired} :
      Handled host .attach { s with wired := wired, netns := netnsAttached answer s.netns }
  | detach {wired : Network.Wired}
      (hwired : Network.wiredStep pkgHash10 s.wired (.detach p.detachMessage host.detach) =
        some wired) :
      Handled host .detach { s with wired := wired, cleanup := s.cleanup.detached }
  | destroyNetns : Handled host .destroyNetns { s with cleanup := s.cleanup.destroyed p }

/-- What a step comes to. -/
inductive Moved : SetupEvent → SetupSystem → Prop where
  | executorEnds {how : TaskEnd} : Moved (.executorEnds how) { s with executor := .ended how }
  | prepareEnds {how : TaskEnd} : Moved (.prepareEnds how) { s with prepare := .ended how }
  | mountCalls {kernel : Kernel} {β : Type} {c : Syscall β} {next : β → Mounting Unit}
      (hmount : s.mount = .running (.call c next)) :
      Moved (.mountGoesOn kernel) { s with
        layers := (kernel.serve s.layers c).1
        mount := .running (next (kernel.serve s.layers c).2) }
  | mountReturns {kernel : Kernel} {r : Except Error Unit} :
      Moved (.mountGoesOn kernel) { s with mount := .ended (.returned r) }
  | mountPanics {join : Error} :
      Moved (.mountPanics join) { s with mount := .ended (.panicked join) }
  | netnsSends {stage : NetnsStage} {m : NetworkRequest} {netns : NetnsStage}
      (hnetns : s.netns = .running stage)
      (hstage : stage = .beforeCreate ∨ stage = .beforeAttach) (hm : m ≠ .detach) :
      Moved .netnsGoesOn ({ s with netns := .running netns }.send m)
  | netnsReturns : Moved .netnsGoesOn { s with netns := .ended (.returned (.ok ())) }
  | netnsAskFails {e : Error} :
      Moved (.netnsAskFails e) { s with netns := .ended (.returned (.error e)) }
  | netnsPanics {join : Error} :
      Moved (.netnsPanics join) { s with netns := .ended (.panicked join) }
  | actorHandles {host : HostAnswers} {m : NetworkRequest} {rest : List NetworkRequest}
      {t : SetupSystem} (hmail : s.mailbox = m :: rest)
      (h : Handled pkgHash10 p { s with mailbox := rest } host m t) : Moved (.actorHandles host) t
  | elsewhere {e : Network.WiredEvent} {wired : Network.Wired}
      (helse : isElsewhere pkgHash10 (Network.vethHostName pkgHash10 p.packageName) e = true)
      (hwired : Network.wiredStep pkgHash10 s.wired e = some wired) :
      Moved (.elsewhere e) { s with wired := wired }
  | setupSucceeds (hjoined : s.joined p = some (.ok ())) :
      Moved .joinReturns { s with setup := some (.ok ()) }
  | setupFails {e : Error} (hnone : s.setup = none) (hjoined : s.joined p = some (.error e)) :
      Moved .joinReturns { s with
        setup := some (.error e)
        cleanup := if p.network then .beforeDetach else .unmounting p.unmountTask }
  | detachSent {kernel : Kernel} (hcleanup : s.cleanup = .beforeDetach) :
      Moved (.cleanupGoesOn kernel) ({ s with cleanup := .awaitDetach }.send .detach)
  | destroySent {kernel : Kernel} (hcleanup : s.cleanup = .beforeDestroy) :
      Moved (.cleanupGoesOn kernel) ({ s with cleanup := .awaitDestroy }.send .destroyNetns)
  | unmountCalls {kernel : Kernel} {β : Type} {c : Syscall β} {next : β → Mounting Unit}
      (hcleanup : s.cleanup = .unmounting (.call c next)) :
      Moved (.cleanupGoesOn kernel) { s with
        layers := (kernel.serve s.layers c).1
        cleanup := .unmounting (next (kernel.serve s.layers c).2) }
  | unmountReturns {kernel : Kernel} {r : Except Error Unit}
      (hcleanup : s.cleanup = .unmounting (.done r)) :
      Moved (.cleanupGoesOn kernel) { s with cleanup := .returned r }
  | detachUnanswered (hcleanup : s.cleanup = .awaitDetach) :
      Moved .cleanupAskFails { s with cleanup := .beforeDestroy }
  | destroyUnanswered (hcleanup : s.cleanup = .awaitDestroy) :
      Moved .cleanupAskFails { s with cleanup := .unmounting p.unmountTask }

variable {pkgHash10 p s} {t : SetupSystem}

theorem handled_of_handle {host : HostAnswers} {m : NetworkRequest}
    (h : s.handle pkgHash10 p host m = some t) : Handled pkgHash10 p s host m t := by
  cases m with
  | createNetns =>
      rw [← Option.some.inj h]
      exact .createNetns
  | attach =>
      rcases Option.map_eq_some_iff.mp h with ⟨wired, -, rfl⟩
      exact .attach
  | detach =>
      simp only [SetupSystem.handle] at h
      rcases Option.map_eq_some_iff.mp h with ⟨wired, hwired, rfl⟩
      exact .detach hwired
  | destroyNetns =>
      rw [← Option.some.inj h]
      exact .destroyNetns

/-- A step that is made is one of these. -/
theorem moved_of_step {e : SetupEvent} (h : setupStep pkgHash10 p s e = some t) :
    Moved pkgHash10 p s e t := by
  cases e with
  | netnsGoesOn =>
      simp only [setupStep] at h
      split at h
      · rename_i hnetns
        split at h
        · rw [← Option.some.inj h]
          exact .netnsSends hnetns (Or.inl rfl) NetworkRequest.noConfusion
        · rw [← Option.some.inj h]
          exact .netnsReturns
      · rename_i hnetns
        rw [← Option.some.inj h]
        exact .netnsSends hnetns (Or.inr rfl) NetworkRequest.noConfusion
      · exact absurd h.symm (Option.some_ne_none t)
  | actorHandles host =>
      simp only [setupStep] at h
      split at h
      · rename_i hmail
        exact .actorHandles hmail (handled_of_handle h)
      · exact absurd h.symm (Option.some_ne_none t)
  | elsewhere e =>
      simp only [setupStep] at h
      split at h
      · rename_i helse
        rcases Option.map_eq_some_iff.mp h with ⟨wired, hwired, rfl⟩
        exact .elsewhere helse hwired
      · exact absurd h.symm (Option.some_ne_none t)
  | joinReturns =>
      simp only [setupStep] at h
      split at h
      · rename_i hjoined
        rw [← Option.some.inj h]
        exact .setupSucceeds hjoined
      · rename_i hnone hjoined
        rw [← Option.some.inj h]
        exact .setupFails hnone hjoined
      · exact absurd h.symm (Option.some_ne_none t)
  -- Of the other events each has one shape of the state in which it is possible.
  | _ =>
      simp only [setupStep] at h
      split at h
      all_goals first
        | exact absurd h.symm (Option.some_ne_none t)
        | rename_i hrest
          rw [← Option.some.inj h]
          constructor <;> exact hrest

end Moves

section Joining

variable {pkgHash10 : String → String} {p : Transitioner cfg} {s t : SetupSystem}

/-- Only the return of the join makes setup return, and calls the cleanup. -/
theorem setup_step {e : SetupEvent} (hstep : setupStep pkgHash10 p s e = some t) :
    t.setup = s.setup ∧ (s.cleanup = .notCalled → t.cleanup = .notCalled) ∨
      ∃ r, s.joined p = some r ∧ t.setup = some r := by
  cases moved_of_step hstep with
  | actorHandles hmail h =>
      cases h with
      | createNetns => exact Or.inl ⟨rfl, id⟩
      | attach => exact Or.inl ⟨rfl, id⟩
      | detach =>
          refine Or.inl ⟨rfl, fun hidle => ?_⟩
          -- An answer to a cleanup that was not called changes nothing.
          dsimp only
          rw [hidle]
          rfl
      | destroyNetns =>
          refine Or.inl ⟨rfl, fun hidle => ?_⟩
          dsimp only
          rw [hidle]
          rfl
  | setupSucceeds hjoined => exact Or.inr ⟨_, hjoined, rfl⟩
  | setupFails hnone hjoined => exact Or.inr ⟨_, hjoined, rfl⟩
  -- The other steps are those of a cleanup that has been called.
  | detachSent h => exact Or.inl ⟨rfl, fun hidle => absurd (h.symm.trans hidle) nofun⟩
  | destroySent h => exact Or.inl ⟨rfl, fun hidle => absurd (h.symm.trans hidle) nofun⟩
  | unmountCalls h => exact Or.inl ⟨rfl, fun hidle => absurd (h.symm.trans hidle) nofun⟩
  | unmountReturns h => exact Or.inl ⟨rfl, fun hidle => absurd (h.symm.trans hidle) nofun⟩
  | detachUnanswered h => exact Or.inl ⟨rfl, fun hidle => absurd (h.symm.trans hidle) nofun⟩
  | destroyUnanswered h => exact Or.inl ⟨rfl, fun hidle => absurd (h.symm.trans hidle) nofun⟩
  | _ => exact Or.inl ⟨rfl, id⟩

/-- No task panics. -/
def NoPanic : SetupEvent → Prop
  | .executorEnds (.panicked _) => False
  | .prepareEnds (.panicked _) => False
  | .mountPanics _ => False
  | .netnsPanics _ => False
  | _ => True

/-- The task stays ended if it has ended, and has not panicked if it had not. -/
structure Task.Kept {π : Type*} (a b : Task π) : Prop where
  ended : a.hasEnded = true → b.hasEnded = true
  sound : a.joinError = none → b.joinError = none

theorem Task.Kept.refl {π : Type*} (a : Task π) : a.Kept a := ⟨id, id⟩

theorem Task.Kept.returned {π : Type*} (a : Task π) (r : Except Error Unit) :
    a.Kept (.ended (.returned r)) := ⟨fun _ => rfl, fun _ => rfl⟩

theorem Task.Kept.running {π : Type*} (rest rest' : π) :
    (Task.running rest).Kept (.running rest') := ⟨id, id⟩

/-- The same of all four tasks. -/
structure TasksKept (s t : SetupSystem) : Prop where
  executor : s.executor.Kept t.executor
  mount : s.mount.Kept t.mount
  prepare : s.prepare.Kept t.prepare
  netns : s.netns.Kept t.netns

theorem TasksKept.of_same (hexecutor : t.executor = s.executor) (hmount : t.mount = s.mount)
    (hprepare : t.prepare = s.prepare) (hnetns : s.netns.Kept t.netns) : TasksKept s t where
  executor := by
    rw [hexecutor]
    exact Task.Kept.refl _
  mount := by
    rw [hmount]
    exact Task.Kept.refl _
  prepare := by
    rw [hprepare]
    exact Task.Kept.refl _
  netns := hnetns

theorem kept_netnsCreated (created : Except Error Unit) (netns : Task NetnsStage) :
    netns.Kept (netnsCreated created netns) := by
  unfold netnsCreated
  split
  · cases created with
    | ok u => exact Task.Kept.running _ _
    | error e => exact Task.Kept.returned _ _
  · exact Task.Kept.refl _

theorem kept_netnsAttached (answer : Except Error Unit) (netns : Task NetnsStage) :
    netns.Kept (netnsAttached answer netns) := by
  unfold netnsAttached
  split
  · exact Task.Kept.returned _ _
  · exact Task.Kept.refl _

/-- No step undoes the end of a task, and none but a panic makes it one. -/
theorem tasksKept_step {e : SetupEvent} (hcalm : NoPanic e)
    (hstep : setupStep pkgHash10 p s e = some t) : TasksKept s t := by
  cases moved_of_step hstep with
  | @executorEnds how =>
      cases how with
      | returned r =>
          exact ⟨Task.Kept.returned _ r, Task.Kept.refl _, Task.Kept.refl _, Task.Kept.refl _⟩
      | panicked join => exact hcalm.elim
  | @prepareEnds how =>
      cases how with
      | returned r =>
          exact ⟨Task.Kept.refl _, Task.Kept.refl _, Task.Kept.returned _ r, Task.Kept.refl _⟩
      | panicked join => exact hcalm.elim
  | mountCalls hmount =>
      -- A call of the mount task leaves it running.
      refine ⟨Task.Kept.refl _, ?_, Task.Kept.refl _, Task.Kept.refl _⟩
      rw [hmount]
      exact Task.Kept.running _ _
  | mountReturns =>
      exact ⟨Task.Kept.refl _, Task.Kept.returned _ _, Task.Kept.refl _, Task.Kept.refl _⟩
  | mountPanics => exact hcalm.elim
  | netnsSends hnetns =>
      refine TasksKept.of_same rfl rfl rfl ?_
      rw [hnetns]
      exact Task.Kept.running _ _
  | netnsReturns => exact TasksKept.of_same rfl rfl rfl (Task.Kept.returned _ _)
  | netnsAskFails => exact TasksKept.of_same rfl rfl rfl (Task.Kept.returned _ _)
  | netnsPanics => exact hcalm.elim
  | actorHandles hmail h =>
      cases h with
      -- The task that waits for the answer goes on or returns.
      | createNetns => exact TasksKept.of_same rfl rfl rfl (kept_netnsCreated _ _)
      | attach => exact TasksKept.of_same rfl rfl rfl (kept_netnsAttached _ _)
      | _ => exact TasksKept.of_same rfl rfl rfl (Task.Kept.refl _)
  | _ => exact TasksKept.of_same rfl rfl rfl (Task.Kept.refl _)

theorem panic_eq_none : s.panic = none ↔ s.executor.joinError = none ∧
    s.mount.joinError = none ∧ s.prepare.joinError = none ∧ s.netns.joinError = none := by
  unfold SetupSystem.panic
  rw [Option.orElse_eq_none, Option.orElse_eq_none, Option.orElse_eq_none]

theorem finished_iff : s.finished = true ↔ s.executor.hasEnded = true ∧
    s.mount.hasEnded = true ∧ s.prepare.hasEnded = true ∧ s.netns.hasEnded = true := by
  simp only [SetupSystem.finished, Bool.and_eq_true, and_assoc]

theorem hasEnded_of_result {π : Type*} {a : Task π} {r : Except Error Unit}
    (h : a.result = some r) : a.hasEnded = true := by
  cases a with
  | running rest => exact absurd h.symm (Option.some_ne_none r)
  | ended how => rfl

/-- Without a panic the join returns when all tasks have. -/
theorem finished_of_joined (hsound : s.panic = none) {r : Except Error Unit}
    (h : s.joined p = some r) : s.finished = true := by
  rw [SetupSystem.joined, hsound] at h
  dsimp only at h
  split at h
  · -- The join has the result of each task.
    rename_i hexecutor hmount hprepare hnetns
    exact finished_iff.mpr ⟨hasEnded_of_result hexecutor, hasEnded_of_result hmount,
      hasEnded_of_result hprepare, hasEnded_of_result hnetns⟩
  · exact absurd h.symm (Option.some_ne_none r)

end Joining

/-- The package of `packageA`, on a bridge of its own. -/
def transitionerA : Transitioner overlaid where
  packageName := "a"
  pkgfs := packageA
  network := true
  bridgeId := "a"
  containerInterface := "eth0"

end Lifecycle

end Ssam
