import Ssam.Executor.JobWatcher
import Ssam.Lib.Serial

/-!
# Transient Units

How a package is started and stopped as a unit of systemd, and what is reported of it.

Before anything else is done the unit is asked for its state, and after a job it is asked
again: what the package becomes is the state that is read, not what the job came to. A
unit that is there already is taken over, and one that has failed is reset first.

Beside this the changes of the unit are reported, one after the other, by a monitor that
is set up with the executor. What is read may be older than what has been reported last,
but then there is a report on its way. So when nothing is on its way, what has been read
last is the state of the unit (`Fresh`), whatever the unit has done meanwhile.

## Main definitions

* `UnitCall`: The calls that are made.
* `genUnitProperties`: What a unit is made of.
* `LazyExecutor.get`: The executor, and the monitor with it.
* `packageStart`, `packageStop`, `packageTeardown`: The operations.
* `UnitBus`, `UnitBus.Served`: The unit and the reports of it, and what the calls do.
* `UnitBus.Fresh`: The state that was read is that of the unit, if no report is on its way.
* `UnitBus.Reflects`: The same of a status.

## Theorems

* `drift_of_quiet`: What a program does to the unit that makes no executor.
* `getActiveState_spec`: A state that is read is fresh.
* `get_spec`: What is left where an executor has been asked for.
* `packageStart_spec`, `packageStop_spec`: The status that is answered is that of the unit.
-/

namespace Ssam

namespace Executor

open Lib Lifecycle Prog

section Calls

/-- The types of services. -/
inductive ContainerServiceType where
  | simple
  | exec
  | forking
  | oneshot
  | dbus
  | notify
  | idle

def ContainerServiceType.text : ContainerServiceType → String
  | simple => "simple"
  | exec => "exec"
  | forking => "forking"
  | oneshot => "oneshot"
  | dbus => "dbus"
  | notify => "notify"
  | idle => "idle"

structure ServiceInfo where
  description : String
  serviceType : ContainerServiceType
  remainAfterExit : Option Bool
  busName : Option String

/-- A program and its arguments. -/
structure Command where
  program : String
  args : List String

/-- The value of a property of a unit. -/
inductive PropertyValue where
  | str (s : String)
  | u64 (n : UInt64)
  | bool (b : Bool)
  /-- The path, all of the command, and whether its failure is ignored. -/
  | exec (path : String) (argv : List String) (ignoreFailure : Bool)
  | exitStatus (codes signals : List Int)

/-- The calls of an executor, with the types of their answers. -/
inductive UnitCall : Type → Type where
  /-- Is there an executor? -/
  | hasExecutor : UnitCall Bool
  /-- What an executor is made of is taken, if nobody has taken it before. -/
  | takeInitArgs : UnitCall Bool
  /-- A connection, the unit's proxies, and the stream of its changes. -/
  | connect : UnitCall (Except Error Unit)
  /-- The monitor is spawned, with what it reports first, and there is an executor. -/
  | spawnMonitor (initialState : UnitActiveState) : UnitCall Unit
  | activeState : UnitCall (Except Error String)
  | serviceResult : UnitCall (Except Error String)
  | execMainCode : UnitCall (Except Error Int)
  | getStartCmd : UnitCall (Except Error Command)
  | getStopCmd : UnitCall (Except Error Command)
  /-- Answered with an error if the manager is not there, else with what it answers. -/
  | resetFailedUnit (unitName : String) : UnitCall (Except Error (Except Error Unit))
  | startTransientUnit (unitName : String) (properties : List (String × PropertyValue)) :
      UnitCall (Except Error (Except Error JobResult))
  | stopUnit (unitName : String) : UnitCall (Except Error (Except Error JobResult))
  /-- Has the timer run out? -/
  | elapsed : UnitCall Bool

/-- The state with the text. The one that is failed is not asked for. -/
def unitActiveStateOfText : String → Option UnitActiveState
  | "activating" => some .activating
  | "active" => some .active
  | "reloading" => some .reloading
  | "deactivating" => some .deactivating
  | "inactive" => some .inactive
  | _ => none

def activeStateFromStr (state : String) : Prog UnitCall Error UnitActiveState :=
  if state = "failed" then do
    let result ← try_ .serviceResult
    let exitcode ← try_ .execMainCode
    pure (.failed ⟨result, exitcode⟩)
  else
    match unitActiveStateOfText state with
    | some s => pure s
    | none =>
        fail [s!"Cannot convert activestate {state} to ActiveState", "Matching variant not found"]

def getActiveState : Prog UnitCall Error UnitActiveState := do
  activeStateFromStr (← try_ .activeState)

/-- What the monitor starts with. A state that cannot be read counts as inactive. -/
def initialState : Prog UnitCall Error UnitActiveState := do
  match ← (try_ UnitCall.activeState : Prog UnitCall Error String).attempt with
  | .ok state =>
      match ← (activeStateFromStr state).attempt with
      | .ok s => pure s
      | .error _ => pure .inactive
  | .error _ => pure .inactive

/-- The executor, made by the first that asks for it. A failure to make it is for good. -/
def LazyExecutor.get : Prog UnitCall Error Unit := do
  if ← ask .hasExecutor then pure ()
  else if ← ask .takeInitArgs then do
    try_ .connect
    ask (.spawnMonitor (← initialState))
  else fail ["executor init args already consumed by a prior init attempt"]

variable (packagesCgroup unitName : String) (serviceInfo : ServiceInfo)

def sliceStrFromCgroupsPath (cgroupsPath : String) : Except Error String :=
  if cgroupsPath = "" then .error ["Cannot get slice name from empty cgroups path"]
  else if ¬ ".slice".toList <:+ cgroupsPath.toList then
    .error ["cgroups path does not end with .slice"]
  else .ok (String.ofList (cgroupsPath.toList.reverse.takeWhile (· ≠ '/')).reverse)

def cgroupsPath : String := if packagesCgroup = "" then "system.slice" else packagesCgroup

/-- What the unit is made of, for a start with the one command and a removal with the
    other. -/
def genUnitProperties (startCmd deleteCmd : Command) : List (String × PropertyValue) :=
  [("Description", .str serviceInfo.description),
    ("TimeoutStartUSec", .u64 5000000),
    ("TimeoutStopUSec", .u64 5000000),
    ("Restart", .str "on-failure"),
    ("ExecStart", .exec startCmd.program (startCmd.program :: startCmd.args) false),
    ("ExecStopPost", .exec deleteCmd.program (deleteCmd.program :: deleteCmd.args) false)] ++
  (match sliceStrFromCgroupsPath (cgroupsPath packagesCgroup) with
    | .ok slice => [("Slice", .str slice)]
    | .error _ => []) ++
  [("Type", .str serviceInfo.serviceType.text),
    ("RemainAfterExit", .bool (serviceInfo.remainAfterExit.getD false))] ++
  match serviceInfo.serviceType with
  -- The runtime notifies from a process that it has forked.
  | .notify => [("NotifyAccess", .str "all"), ("SuccessExitStatus", .exitStatus [143] [])]
  | .dbus =>
      ("Requires", .str "dbus.service") ::
        (serviceInfo.busName.map fun busName => ("BusName", .str busName)).toList
  | _ => []

/-- What is answered once a job is over. -/
def handleJobResult (result : Except Error JobResult) : Prog UnitCall Error ExecutionResult := do
  let innerState ← getActiveState.context s!"Cannot get inner state of unit: {unitName}"
  match result with
  | .ok jobResult => pure (mapJobResult jobResult (ExecutionStatus.ofUnit innerState))
  | .error e => fail e

/-- The start of a unit that is not there. -/
def startUnit : Prog UnitCall Error ExecutionResult := do
  let properties ← (do
      let startCmd ← try_ UnitCall.getStartCmd
      let deleteCmd ← try_ UnitCall.getStopCmd
      pure (genUnitProperties packagesCgroup serviceInfo startCmd deleteCmd) :
    Prog UnitCall Error (List (String × PropertyValue))).context
      s!"Failed to generate properties for unit {unitName}"
  let jobResult ← (try_ (.startTransientUnit unitName properties)).context
    "Check whether SystemdManagerActor has died."
  handleJobResult unitName jobResult

def resetFailed : Prog UnitCall Error Unit := do
  match ← (try_ (.resetFailedUnit unitName)).context "SystemdManagerActor has died?" with
  | .ok () => pure ()
  | .error e => fail e

def TransientUnitExecutor.start : Prog UnitCall Error ExecutionResult := do
  let activeState ← getActiveState.context s!"Failed to get active state for unit {unitName}"
  match activeState with
  | .inactive => startUnit packagesCgroup unitName serviceInfo
  | .failed _ => do
      resetFailed unitName
      startUnit packagesCgroup unitName serviceInfo
  -- The unit is there already, and is used as it is.
  | other => pure (.success (ExecutionStatus.ofUnit other))

def TransientUnitExecutor.stop : Prog UnitCall Error ExecutionResult := do
  let activeState ← getActiveState.context s!"Failed to get active state for unit {unitName}"
  match activeState with
  | .failed _ => do
      -- Nothing runs any longer. Without its failure the unit goes.
      resetFailed unitName
      pure (.success (ExecutionStatus.ofUnit .inactive))
  | _ => do
      let jobResult ← (try_ (.stopUnit unitName)).context
        "Check whether SystemdManagerActor has died."
      handleJobResult unitName jobResult

/-- The program, given up once the timer has run out. -/
def withTimeout {α : Type} : Prog UnitCall Error α → Prog UnitCall Error (Option (Except Error α))
  | .done r => .done (.ok (some r))
  | .call c next => .call .elapsed fun out =>
      if out then .done (.ok none) else .call c fun a => withTimeout (next a)

def TransientUnitExecutor.teardown : Prog UnitCall Error Unit := do
  let _ ← withTimeout (TransientUnitExecutor.stop unitName)
  resetFailed unitName

/-- What a package does about its unit when it is started, stopped and taken down. -/
def packageStart : Prog UnitCall Error ExecutionResult := do
  LazyExecutor.get
  TransientUnitExecutor.start packagesCgroup unitName serviceInfo

def packageStop : Prog UnitCall Error ExecutionResult := do
  LazyExecutor.get
  TransientUnitExecutor.stop unitName

def packageTeardown : Prog UnitCall Error Unit := do
  if ← ask .hasExecutor then TransientUnitExecutor.teardown unitName else pure ()

end Calls

/-! ### The unit and what is reported of it -/

/-- How far a package is with its executor. -/
inductive ExecutorCell where
  | unused
  /-- What it is made of is taken. -/
  | taken
  | made
  deriving DecidableEq

/-- The monitor of the unit. -/
inductive Monitor where
  | off
  /-- It runs, but the unit is not what it has reported last. -/
  | blind
  | watching
  deriving DecidableEq

/-- The unit, and the reports of it on their way to the package. -/
structure UnitBus where
  unit : UnitActiveState
  executor : ExecutorCell
  monitor : Monitor
  pending : List UnitActiveState

namespace UnitBus

/-- What is left when a package is created. -/
def created : UnitBus := ⟨.inactive, .unused, .off, []⟩

/-- What the package will take the unit for once it has all reports. Without any it takes
    it for inactive. -/
def lastReport (reports : List UnitActiveState) : UnitActiveState :=
  reports.getLast?.getD .inactive

/-- The monitor is spawned. The unit has been watched since the connection was made. -/
def spawned (s : UnitBus) (initialState : UnitActiveState) : UnitBus :=
  let reports := (if initialState = .inactive then [] else [initialState]) ++ s.pending
  { s with
    executor := .made
    pending := reports
    monitor :=
      if s.monitor = .off then .off
      else if (lastReport reports).text = s.unit.text then .watching
      else .blind }

/-- What may happen meanwhile. A report that has not been taken may be replaced by one that
    comes later, but the last one is of what the unit is. -/
inductive Drift : UnitBus → UnitBus → Prop where
  | same (s : UnitBus) : Drift s s
  | unwatched {s : UnitBus} (h : s.monitor = .off) (unit : UnitActiveState) :
      Drift s { s with unit := unit }
  | reported {s : UnitBus} (h : s.monitor ≠ .off) {reports : List UnitActiveState}
      {unit : UnitActiveState} (hlast : reports.getLast? = some unit) :
      Drift s ⟨unit, s.executor, .watching, reports⟩
  /-- The monitor ends, and with it the reports that it has not sent. -/
  | ended {s : UnitBus} (h : s.monitor ≠ .off) (unit : UnitActiveState)
      (reports : List UnitActiveState) : Drift s ⟨unit, s.executor, .off, reports⟩

/-- If the monitor runs and no report is on its way, the unit is in a state with the
    text. -/
def Fresh (text : String) (s : UnitBus) : Prop :=
  s.monitor ≠ .off → s.pending = [] → s.unit.text = text

/-- How a call is answered, and what it leaves. Without faults the unit can always be
    read. -/
def Answered (faults : Prop) {β : Type} (s : UnitBus) : UnitCall β → UnitBus × β → Prop
  | .hasExecutor, (t, there) => t = s ∧ (there = true ↔ s.executor = .made)
  | .takeInitArgs, (t, true) => s.executor = .unused ∧ t = { s with executor := .taken }
  | .takeInitArgs, (t, false) => s.executor ≠ .unused ∧ t = s
  | .connect, (t, .ok ()) => t = { s with monitor := .blind }
  | .connect, (t, .error _) => t = s
  | .spawnMonitor initialState, (t, ()) => t = s.spawned initialState
  -- What is read may be old, but then the change is on its way.
  | .activeState, (t, .ok text) => t = s ∧ s.Fresh text
  | .activeState, (t, .error _) => t = s ∧ faults
  | .serviceResult, (t, .ok _) => t = s
  | .serviceResult, (t, .error _) => t = s ∧ faults
  | .execMainCode, (t, .ok _) => t = s
  | .execMainCode, (t, .error _) => t = s ∧ faults
  | .getStartCmd, (t, _) => t = s
  | .getStopCmd, (t, _) => t = s
  | .resetFailedUnit _, (t, .ok (.ok ())) =>
      (s.unit.text = "failed" ∧ Drift s t ∧ t.unit = .inactive) ∨ (s.unit.text ≠ "failed" ∧ t = s)
  | .resetFailedUnit _, (t, _) => t = s
  -- The jobs are carried out meanwhile.
  | .startTransientUnit _ _, (t, _) => t = s
  | .stopUnit _, (t, _) => t = s
  | .elapsed, (t, _) => t = s

/-- A call is answered, and anything may happen before. -/
def Served (faults : Prop) {β : Type} (s : UnitBus) (c : UnitCall β) (out : UnitBus × β) :
    Prop :=
  ∃ t, Drift s t ∧ Answered faults t c out

/-- The last of the reports on their way is of what the unit is, and there are none while
    nothing is done about an executor. -/
structure Sound (s : UnitBus) : Prop where
  last : s.monitor = .watching → ∀ {state}, s.pending.getLast? = some state →
    state.text = s.unit.text
  unused : s.executor = .unused → s.monitor = .off ∧ s.pending = []

theorem drift_executor {s t : UnitBus} (h : Drift s t) : t.executor = s.executor := by
  cases h <;> rfl

theorem drift_trans {s t u : UnitBus} (h : Drift s t) (h' : Drift t u) : Drift s u := by
  cases h with
  | same => exact h'
  | unwatched hoff unit =>
      cases h' with
      | same => exact .unwatched hoff unit
      | unwatched _ unit' => exact .unwatched (s := s) hoff unit'
      | reported hon _ => exact absurd hoff hon
      | ended hon => exact absurd hoff hon
  | reported hon hlast =>
      cases h' with
      | same => exact .reported hon hlast
      | unwatched hoff => cases hoff
      | reported _ hlast' => exact .reported (s := s) hon hlast'
      | ended _ unit reports => exact .ended (s := s) hon unit reports
  | ended hon unit reports =>
      cases h' with
      | same => exact .ended hon unit reports
      | unwatched _ unit' => exact .ended (s := s) hon unit' reports
      | reported hon' => exact absurd rfl hon'
      | ended hon' => exact absurd rfl hon'

theorem drift_off {s t : UnitBus} (h : Drift s t) (hoff : s.monitor = .off) :
    t.monitor = .off ∧ t.pending = s.pending := by
  cases h with
  | same => exact ⟨hoff, rfl⟩
  | unwatched => exact ⟨hoff, rfl⟩
  | reported hon => exact absurd hoff hon
  | ended hon => exact absurd hoff hon

theorem drift_sound {s t : UnitBus} (hs : s.Sound) (h : Drift s t) : t.Sound where
  last := by
    intro hwatching state hstate
    cases h with
    | same => exact hs.last hwatching hstate
    | unwatched hoff => exact absurd (hoff.symm.trans hwatching) (by decide)
    | reported _ hlast => rw [Option.some.inj (hlast.symm.trans hstate)]
    | ended => cases hwatching
  unused := by
    intro hunused
    rw [drift_executor h] at hunused
    rcases hs.unused hunused with ⟨hoff, hpending⟩
    rcases drift_off h hoff with ⟨hoff', hpending'⟩
    exact ⟨hoff', hpending'.trans hpending⟩

/-- After a change a report is on its way. -/
theorem drift_quiet {s t : UnitBus} (h : Drift s t) (hmonitor : t.monitor ≠ .off)
    (hpending : t.pending = []) : t = s := by
  cases h with
  | same => rfl
  | unwatched hoff => exact absurd hoff hmonitor
  | reported _ hlast =>
      obtain rfl : _ = [] := hpending
      cases hlast
  | ended => exact absurd rfl hmonitor

theorem Fresh.drift {text : String} {s t : UnitBus} (hs : s.Fresh text) (h : Drift s t) :
    t.Fresh text := by
  intro hmonitor hpending
  obtain rfl := drift_quiet h hmonitor hpending
  exact hs hmonitor hpending

/-- The status is what the unit is, if the unit is watched and no report is on its way. -/
def Reflects (status : PackageStatus) (s : UnitBus) : Prop :=
  s.monitor = .watching → s.pending = [] →
    (status.isLive = true → status = statusOfUnit s.unit) ∧
      (status = .cleaned → s.unit = .inactive)

theorem Reflects.drift {status : PackageStatus} {s t : UnitBus} (hs : s.Reflects status)
    (h : Drift s t) : t.Reflects status := by
  intro hmonitor hpending
  have hon : t.monitor ≠ .off := by
    rw [hmonitor]
    decide
  obtain rfl := drift_quiet h hon hpending
  exact hs hmonitor hpending

theorem reflects_error (s : UnitBus) (reason : String) : s.Reflects (.error reason) :=
  fun _ _ => ⟨fun h => absurd h Bool.false_ne_true, fun h => nomatch h⟩

theorem reflects_upgrading (s : UnitBus) : s.Reflects .upgrading :=
  fun _ _ => ⟨fun h => absurd h Bool.false_ne_true, fun h => nomatch h⟩

end UnitBus

/-- The calls that make no executor. -/
def UnitCall.isQuiet {β : Type} : UnitCall β → Bool
  | takeInitArgs => false
  | connect => false
  | spawnMonitor _ => false
  | _ => true

namespace UnitBus

variable {faults : Prop}

theorem served_quiet {β : Type} {c : UnitCall β} (hquiet : c.isQuiet = true) {s t : UnitBus}
    {a : β} (h : Served faults s c (t, a)) : Drift s t := by
  rcases h with ⟨u, hdrift, hanswer⟩
  cases c with
  | takeInitArgs => cases hquiet
  | connect => cases hquiet
  | spawnMonitor => cases hquiet
  | hasExecutor => exact hanswer.1 ▸ hdrift
  | activeState =>
      match a, hanswer with
      | .ok _, hanswer => exact hanswer.1 ▸ hdrift
      | .error _, hanswer => exact hanswer.1 ▸ hdrift
  | serviceResult =>
      match a, hanswer with
      | .ok _, hanswer => exact (show t = u from hanswer) ▸ hdrift
      | .error _, hanswer => exact hanswer.1 ▸ hdrift
  | execMainCode =>
      match a, hanswer with
      | .ok _, hanswer => exact (show t = u from hanswer) ▸ hdrift
      | .error _, hanswer => exact hanswer.1 ▸ hdrift
  | resetFailedUnit =>
      match a, hanswer with
      | .ok (.ok ()), hanswer =>
          rcases hanswer with ⟨-, hreset, -⟩ | ⟨-, rfl⟩
          · exact drift_trans hdrift hreset
          · exact hdrift
      | .ok (.error _), hanswer => exact (show t = u from hanswer) ▸ hdrift
      | .error _, hanswer => exact (show t = u from hanswer) ▸ hdrift
  | _ => exact (show t = u from hanswer) ▸ hdrift

theorem fresh_served {s t : UnitBus} {text : String}
    (h : Served faults s .activeState (t, .ok text)) : t.Fresh text := by
  rcases h with ⟨u, -, rfl, hfresh⟩
  exact hfresh

/-- Where a failure has been reset, the package may be taken for ready. -/
theorem reflects_resetFailed {s t : UnitBus} {unitName : String} (hs : s.Fresh "failed")
    (h : Served faults s (.resetFailedUnit unitName) (t, .ok (.ok ()))) : t.Reflects .ready := by
  rcases h with ⟨u, hdrift, hanswer⟩
  intro hmonitor hpending
  have hinactive : t.unit = .inactive := by
    rcases hanswer with ⟨-, -, hinactive⟩ | ⟨hfailed, rfl⟩
    · exact hinactive
    · have hon : t.monitor ≠ .off := by
        rw [hmonitor]
        decide
      exact absurd (hs.drift hdrift hon hpending) hfailed
  rw [hinactive]
  exact ⟨fun _ => rfl, fun h => nomatch h⟩

/-- The monitor does not run blind: what it has reported is what the unit is. -/
theorem spawned_ne_blind {s : UnitBus} {initialState : UnitActiveState} (hs : s.Sound)
    (hblind : s.monitor = .blind → s.pending = []) (hfresh : s.Fresh initialState.text) :
    (s.spawned initialState).monitor ≠ .blind := by
  unfold spawned
  by_cases hoff : s.monitor = .off
  · simp only [hoff, if_true]
    decide
  · have hreport : (lastReport ((if initialState = .inactive then [] else [initialState]) ++
        s.pending)).text = s.unit.text := by
      unfold lastReport
      by_cases hpending : s.pending = []
      · -- Nothing has changed since the state was read.
        rw [hfresh hoff hpending, hpending]
        by_cases hinactive : initialState = .inactive
        · rw [if_pos hinactive, hinactive]
          rfl
        · rw [if_neg hinactive]
          rfl
      · have hwatching : s.monitor = .watching := by
          cases hm : s.monitor with
          | off => exact absurd hm hoff
          | blind => exact absurd (hblind hm) hpending
          | watching => rfl
        rw [List.getLast?_append_of_ne_nil _ hpending, List.getLast?_eq_some_getLast hpending]
        exact hs.last hwatching (List.getLast?_eq_some_getLast hpending)
    simp only [hoff, if_false, hreport, if_true]
    decide

theorem lastReport_of_spawned {s : UnitBus} {initialState : UnitActiveState}
    (h : (s.spawned initialState).monitor = .watching) :
    (lastReport (s.spawned initialState).pending).text = s.unit.text := by
  unfold spawned at h ⊢
  by_cases hoff : s.monitor = .off
  · simp only [hoff, if_true] at h
    cases h
  · by_cases hreport : (lastReport ((if initialState = .inactive then [] else [initialState]) ++
        s.pending)).text = s.unit.text
    · exact hreport
    · simp only [hoff, if_false, hreport] at h
      cases h

theorem spawned_sound (s : UnitBus) (initialState : UnitActiveState) :
    (s.spawned initialState).Sound where
  last := by
    intro hwatching state hstate
    have hreport := lastReport_of_spawned hwatching
    rw [lastReport, hstate] at hreport
    exact hreport
  unused := nofun

end UnitBus

/-! ### What the operations leave -/

section Specs

open UnitBus

variable {faults : Prop} {packagesCgroup unitName : String} {serviceInfo : ServiceInfo}

/-- Only calls that make no executor are made. -/
def quietCall {β : Type} (_ : UnitBus) (c : UnitCall β) : Prop := c.isQuiet = true

/-- Where no executor is made, nothing happens but what may happen at any time. -/
theorem drift_of_quiet {α : Type} {p : Prog UnitCall Error α} {Q : Except Error α → UnitBus → Prop}
    {s : UnitBus} (h : wpUnder (Served faults) quietCall Q p s) :
    wpUnder (Served faults) quietCall (fun r t => Q r t ∧ Drift s t) p s := by
  induction p generalizing s with
  | done r => exact ⟨h, .same s⟩
  | call c next ih =>
      refine ⟨h.1, fun t a hc => ?_⟩
      refine wpUnder_mono (fun _ _ hG => hG) (fun r u hu => ?_) (ih a (h.2 t a hc))
      exact ⟨hu.1, drift_trans (served_quiet h.1 hc) hu.2⟩

/-- What a program may be given up at is what may happen at any time too. -/
theorem withTimeout_spec {α : Type} {p : Prog UnitCall Error α}
    {Q : Except Error α → UnitBus → Prop} {s : UnitBus}
    (h : wpUnder (Served faults) quietCall Q p s) :
    wpUnder (Served faults) quietCall (fun _ _ => True) (withTimeout p) s := by
  induction p generalizing s with
  | done r => trivial
  | call c next ih =>
      refine ⟨rfl, fun t out hout => ?_⟩
      cases out with
      | true => trivial
      | false =>
          refine ⟨h.1, fun u a hc => ih a (h.2 u a ?_)⟩
          rcases hc with ⟨v, hdrift, hanswer⟩
          exact ⟨v, drift_trans (served_quiet rfl hout) hdrift, hanswer⟩

theorem unitActiveStateOfText_text {text : String} {state : UnitActiveState}
    (h : unitActiveStateOfText text = some state) : state.text = text := by
  unfold unitActiveStateOfText at h
  split at h <;> cases h <;> rfl

/-- The state of a fresh text is fresh, though more is read for it. -/
theorem activeStateFromStr_spec {text : String} {s : UnitBus} (hs : s.Fresh text) :
    wpUnder (Served faults) quietCall (branch (fun state t => t.Fresh state.text) fun _ _ => True)
      (activeStateFromStr text) s := by
  unfold activeStateFromStr
  by_cases hfailed : text = "failed"
  · subst hfailed
    rw [if_pos rfl]
    simp only [bind_eq, pure_eq, wpUnder_bind, wpUnder_try_]
    refine ⟨rfl, fun t result hresult => ?_⟩
    cases result with
    | error e => trivial
    | ok result =>
        simp only [branch_ok, wpUnder_bind, wpUnder_try_]
        refine ⟨rfl, fun u exitcode hexitcode => ?_⟩
        cases exitcode with
        | error e => trivial
        | ok exitcode =>
            exact (hs.drift (served_quiet rfl hresult)).drift (served_quiet rfl hexitcode)
  · rw [if_neg hfailed]
    cases hstate : unitActiveStateOfText text with
    | none => trivial
    | some state => exact (unitActiveStateOfText_text hstate).symm ▸ hs

theorem getActiveState_spec (s : UnitBus) :
    wpUnder (Served faults) quietCall (branch (fun state t => t.Fresh state.text) fun _ _ => True)
      getActiveState s := by
  unfold getActiveState
  simp only [bind_eq, wpUnder_bind, wpUnder_try_]
  refine ⟨rfl, fun t text htext => ?_⟩
  cases text with
  | error e => trivial
  | ok text => exact activeStateFromStr_spec (fresh_served htext)

theorem statusOfUnit_eq (state : UnitActiveState) : statusOfUnit state =
    if state.text = "inactive" then .ready else .running state.text := by
  cases state <;> rfl

theorem statusOfUnit_congr {state state' : UnitActiveState} (h : state.text = state'.text) :
    statusOfUnit state = statusOfUnit state' := by
  rw [statusOfUnit_eq, statusOfUnit_eq, h]

/-- A live status that comes of a job is the state that was read after it. -/
theorem statusOfResult_mapJobResult {jobResult : JobResult} {state : UnitActiveState}
    (h : (statusOfResult (mapJobResult jobResult (.ofUnit state))).isLive = true) :
    statusOfResult (mapJobResult jobResult (.ofUnit state)) = statusOfUnit state := by
  cases jobResult with
  | success => cases state <;> rfl
  | canceled => cases state <;> rfl
  | failed reason =>
      cases state with
      | inactive => cases h
      | _ => rfl
  | timeout =>
      cases state with
      | inactive => cases h
      | _ => rfl

theorem statusOfResult_ne_cleaned (result : ExecutionResult) :
    statusOfResult result ≠ .cleaned := by
  rcases result with (_ | _) | (_ | _) | _ | _ <;> exact nofun

/-- If the live status of a result is a state that is fresh, it is what the unit is. -/
theorem reflects_of_fresh {result : ExecutionResult} {state : UnitActiveState} {t : UnitBus}
    (ht : t.Fresh state.text)
    (h : (statusOfResult result).isLive = true → statusOfResult result = statusOfUnit state) :
    t.Reflects (statusOfResult result) := by
  intro hmonitor hpending
  have hon : t.monitor ≠ .off := by
    rw [hmonitor]
    decide
  refine ⟨fun hlive => ?_, fun hcleaned => absurd hcleaned (statusOfResult_ne_cleaned result)⟩
  rw [h hlive]
  exact statusOfUnit_congr (ht hon hpending).symm

/-- What is answered after a job is the state of the unit. -/
theorem handleJobResult_spec (result : Except Error JobResult) (s : UnitBus) :
    wpUnder (Served faults) quietCall
      (branch (fun result t => t.Reflects (statusOfResult result)) fun _ _ => True)
      (handleJobResult unitName result) s := by
  unfold handleJobResult
  simp only [bind_eq, wpUnder_bind, wpUnder_context]
  refine wpUnder_mono (fun _ _ h => h) (fun r t ht => ?_) (getActiveState_spec s)
  cases r with
  | error e => trivial
  | ok innerState =>
      cases result with
      | error e => trivial
      | ok jobResult => exact reflects_of_fresh ht statusOfResult_mapJobResult

theorem startUnit_spec (s : UnitBus) :
    wpUnder (Served faults) quietCall
      (branch (fun result t => t.Reflects (statusOfResult result)) fun _ _ => True)
      (startUnit packagesCgroup unitName serviceInfo) s := by
  unfold startUnit
  simp only [bind_eq, pure_eq, wpUnder_bind, wpUnder_context, wpUnder_try_]
  refine ⟨rfl, fun t startCmd _ => ?_⟩
  cases startCmd with
  | error e => trivial
  | ok startCmd =>
      simp only [branch_ok, wpUnder_bind, wpUnder_try_]
      refine ⟨rfl, fun u deleteCmd _ => ?_⟩
      cases deleteCmd with
      | error e => trivial
      | ok deleteCmd =>
          simp only [branch_ok, wpUnder_done, wpUnder_bind, wpUnder_context, wpUnder_try_]
          refine ⟨rfl, fun v jobResult _ => ?_⟩
          cases jobResult with
          | error e => trivial
          | ok jobResult => exact handleJobResult_spec jobResult v

theorem resetFailed_spec {s : UnitBus} (hs : s.Fresh "failed") :
    wpUnder (Served faults) quietCall (branch (fun _ t => t.Reflects .ready) fun _ _ => True)
      (resetFailed unitName) s := by
  unfold resetFailed
  simp only [bind_eq, wpUnder_bind, wpUnder_context, wpUnder_try_]
  refine ⟨rfl, fun t r hr => ?_⟩
  cases r with
  | error e => trivial
  | ok r =>
      cases r with
      | error e => trivial
      | ok _ => exact reflects_resetFailed hs hr

theorem start_spec (s : UnitBus) :
    wpUnder (Served faults) quietCall
      (branch (fun result t => t.Reflects (statusOfResult result)) fun _ _ => True)
      (TransientUnitExecutor.start packagesCgroup unitName serviceInfo) s := by
  unfold TransientUnitExecutor.start
  simp only [bind_eq, pure_eq, wpUnder_bind, wpUnder_context]
  refine wpUnder_mono (fun _ _ h => h) (fun r t ht => ?_) (getActiveState_spec s)
  cases r with
  | error e => trivial
  | ok state =>
      cases state with
      | inactive => exact startUnit_spec t
      | failed info =>
          simp only [branch_ok, wpUnder_bind]
          refine wpUnder_mono (fun _ _ h => h) (fun r u _ => ?_) (resetFailed_spec ht)
          cases r with
          | error e => trivial
          | ok _ => exact startUnit_spec u
      -- The unit that is there is answered as it was read.
      | activating => exact reflects_of_fresh ht fun _ => rfl
      | active => exact reflects_of_fresh ht fun _ => rfl
      | reloading => exact reflects_of_fresh ht fun _ => rfl
      | deactivating => exact reflects_of_fresh ht fun _ => rfl

theorem stop_spec (s : UnitBus) :
    wpUnder (Served faults) quietCall
      (branch (fun result t => t.Reflects (statusOfResult result)) fun _ _ => True)
      (TransientUnitExecutor.stop unitName) s := by
  have hjob : ∀ t : UnitBus, wpUnder (Served faults) quietCall
      (branch (fun result t => t.Reflects (statusOfResult result)) fun _ _ => True)
      (((try_ (.stopUnit unitName)).context "Check whether SystemdManagerActor has died.").bind
        fun jobResult => handleJobResult unitName jobResult) t := by
    intro t
    simp only [wpUnder_bind, wpUnder_context, wpUnder_try_]
    refine ⟨rfl, fun u jobResult _ => ?_⟩
    cases jobResult with
    | error e => trivial
    | ok jobResult => exact handleJobResult_spec jobResult u
  unfold TransientUnitExecutor.stop
  simp only [bind_eq, pure_eq, wpUnder_bind, wpUnder_context]
  refine wpUnder_mono (fun _ _ h => h) (fun r t ht => ?_) (getActiveState_spec s)
  cases r with
  | error e => trivial
  | ok state =>
      cases state with
      | failed info =>
          simp only [branch_ok, wpUnder_bind]
          refine wpUnder_mono (fun _ _ h => h) (fun r u hu => ?_) (resetFailed_spec ht)
          cases r with
          | error e => trivial
          | ok _ => exact hu
      | _ => simpa only [branch_ok, wpUnder_bind, wpUnder_context] using hjob t

theorem teardown_spec (s : UnitBus) :
    wpUnder (Served faults) quietCall (fun _ _ => True) (packageTeardown unitName) s := by
  unfold packageTeardown
  simp only [bind_eq, wpUnder_bind, wpUnder_ask]
  refine ⟨rfl, fun t there _ => ?_⟩
  cases there with
  | false => trivial
  | true =>
      unfold TransientUnitExecutor.teardown
      simp only [branch_ok, if_true, bind_eq, wpUnder_bind]
      refine wpUnder_mono (fun _ _ h => h) (fun r u _ => ?_) (withTimeout_spec (stop_spec t))
      cases r with
      | error e => trivial
      | ok _ =>
          unfold resetFailed
          simp only [branch_ok, bind_eq, wpUnder_bind, wpUnder_context, wpUnder_try_]
          refine ⟨rfl, fun v r _ => ?_⟩
          cases r with
          | error e => trivial
          | ok r => cases r <;> trivial

theorem unitActiveStateOfText_of_text (state : UnitActiveState) (h : state.text ≠ "failed") :
    unitActiveStateOfText state.text = some state := by
  cases state with
  | failed info => exact absurd rfl h
  | _ => rfl

/-- Without faults the monitor starts with what the unit is, or a report is on its way. -/
theorem initialState_spec (s : UnitBus) :
    wpUnder (Served faults) quietCall
      (branch (fun state t => ¬ faults → t.Fresh state.text) fun _ _ => False) initialState s := by
  unfold initialState
  simp only [bind_eq, pure_eq, wpUnder_bind, wpUnder_attempt, wpUnder_try_]
  refine ⟨rfl, fun t text htext => ?_⟩
  cases text with
  | error e =>
      rcases htext with ⟨u, -, hanswer⟩
      exact fun hfine => absurd hanswer.2 hfine
  | ok text =>
      simp only [branch_ok, wpUnder_bind, wpUnder_attempt]
      have hfresh := fresh_served htext
      unfold activeStateFromStr
      by_cases hfailed : text = "failed"
      · subst hfailed
        rw [if_pos rfl]
        simp only [bind_eq, pure_eq, wpUnder_bind, wpUnder_try_]
        refine ⟨rfl, fun u result hresult => ?_⟩
        cases result with
        | error e =>
            rcases hresult with ⟨_, -, hanswer⟩
            exact fun hfine => absurd hanswer.2 hfine
        | ok result =>
            simp only [branch_ok, wpUnder_bind, wpUnder_try_]
            refine ⟨rfl, fun v exitcode hexitcode => ?_⟩
            cases exitcode with
            | error e =>
                rcases hexitcode with ⟨_, -, hanswer⟩
                exact fun hfine => absurd hanswer.2 hfine
            | ok exitcode =>
                exact fun _ => (hfresh.drift (served_quiet rfl hresult)).drift
                  (served_quiet rfl hexitcode)
      · rw [if_neg hfailed]
        cases hstate : unitActiveStateOfText text with
        | some state => exact fun _ => (unitActiveStateOfText_text hstate).symm ▸ hfresh
        | none =>
            -- The unit is in no such state, so it has changed.
            intro _ hmonitor hpending
            have hunit := hfresh hmonitor hpending
            rw [← hunit, unitActiveStateOfText_of_text _ (hunit ▸ hfailed)] at hstate
            cases hstate

/-- What is left of `s` where an executor has been asked for. -/
structure Got (faults : Prop) (s t : UnitBus) : Prop where
  sound : t.Sound
  ne_blind : ¬ faults → s.monitor ≠ .blind → t.monitor ≠ .blind

theorem got_of_drift {s t : UnitBus} (hs : s.Sound) (h : Drift s t) : Got faults s t where
  sound := drift_sound hs h
  ne_blind _ hs := by
    cases h with
    | same => exact hs
    | unwatched => exact hs
    | reported => exact nofun
    | ended => exact nofun

theorem Got.trans {s t u : UnitBus} (h : Got faults s t) (h' : Got faults t u) :
    Got faults s u where
  sound := h'.sound
  ne_blind hfine hs := h'.ne_blind hfine (h.ne_blind hfine hs)

/-- There is an executor. If it is new and no report is on its way, the unit is inactive. -/
theorem get_spec {s : UnitBus} (hs : s.Sound) :
    wpUnder (Served faults) (fun _ _ => True)
      (branch (fun _ t => Got faults s t ∧ (s.executor = .made → Drift s t) ∧
        (s.executor ≠ .made → t.Reflects .ready)) fun _ t => Got faults s t)
      LazyExecutor.get s := by
  unfold LazyExecutor.get
  simp only [bind_eq, pure_eq, wpUnder_bind, wpUnder_ask]
  refine ⟨trivial, fun t there hthere => ?_⟩
  have ht := served_quiet rfl hthere
  rcases hthere with ⟨t, hdrift, rfl, hmade⟩
  cases there with
  | true =>
      refine ⟨got_of_drift hs ht, fun _ => ht, fun hnew => absurd (hmade.mp rfl) ?_⟩
      rw [drift_executor ht]
      exact hnew
  | false =>
      have hnew : s.executor ≠ .made := by
        intro hs
        exact absurd (hmade.mpr ((drift_executor ht).trans hs)) (by decide)
      simp only [branch_ok, Bool.false_eq_true, if_false, wpUnder_bind, wpUnder_ask]
      refine ⟨trivial, fun u taken htaken => ?_⟩
      cases taken with
      | false =>
          rcases htaken with ⟨u, hdrift', -, rfl⟩
          exact got_of_drift hs (drift_trans ht hdrift')
      | true =>
          rcases htaken with ⟨v, hdrift', hunused, rfl⟩
          have hv := drift_sound hs (drift_trans ht hdrift')
          rcases hv.unused hunused with ⟨hoff, hpending⟩
          have hu : ({ v with executor := .taken } : UnitBus).Sound :=
            ⟨fun hwatching => absurd (hoff.symm.trans hwatching) (by decide), fun h => by cases h⟩
          simp only [if_true, wpUnder_bind, wpUnder_try_]
          refine ⟨trivial, fun w connected hconnected => ?_⟩
          cases connected with
          | error e =>
              rcases hconnected with ⟨w, hdrift'', rfl⟩
              refine ⟨drift_sound hu hdrift'', fun _ _ => ?_⟩
              rw [(drift_off hdrift'' hoff).1]
              decide
          | ok _ =>
              rcases hconnected with ⟨w, hdrift'', rfl⟩
              simp only [branch_ok, wpUnder_bind]
              refine wpUnder_mono (fun _ _ _ => trivial) (fun r x hx => ?_)
                (drift_of_quiet (initialState_spec _))
              cases r with
              | error e => exact hx.1.elim
              | ok initialState =>
                  simp only [branch_ok, wpUnder_ask]
                  refine ⟨trivial, fun y _ hspawned => ?_⟩
                  rcases hspawned with ⟨y, hy, rfl⟩
                  have hdrift := drift_trans hx.2 hy
                  -- Since the connection has been made, every change is reported.
                  have hsound : y.Sound := by
                    refine drift_sound ⟨fun h => ?_, fun hw => ?_⟩ hdrift
                    · cases h
                    · rw [drift_executor hdrift''] at hw
                      cases hw
                  have hblind : y.monitor = .blind → y.pending = [] := by
                    intro hy
                    cases hdrift with
                    | same => exact (drift_off hdrift'' hoff).2.trans hpending
                    | unwatched hoff => cases hoff
                    | reported => cases hy
                    | ended => cases hy
                  refine ⟨⟨spawned_sound y initialState, fun hfine _ => ?_⟩,
                    fun hmade => absurd hmade hnew, fun _ hwatching hempty => ?_⟩
                  · exact spawned_ne_blind hsound hblind ((hx.1 hfine).drift hy)
                  · have hreport := lastReport_of_spawned hwatching
                    rw [hempty] at hreport
                    refine ⟨fun _ => ?_, fun h => by cases h⟩
                    rw [statusOfUnit_eq, show (y.spawned initialState).unit = y.unit from rfl,
                      ← hreport]
                    rfl

/-- With the executor the package has been started or stopped, and what is answered is the
    state of the unit. -/
theorem got_and_reflects {p : Prog UnitCall Error ExecutionResult} {s : UnitBus} (hs : s.Sound)
    (hp : ∀ t, wpUnder (Served faults) quietCall
      (branch (fun result t => t.Reflects (statusOfResult result)) fun _ _ => True) p t) :
    wpUnder (Served faults) (fun _ _ => True)
      (branch (fun result t => Got faults s t ∧ t.Reflects (statusOfResult result))
        fun _ t => Got faults s t)
      (LazyExecutor.get.bind fun _ => p) s := by
  simp only [wpUnder_bind]
  refine wpUnder_mono (fun _ _ _ => trivial) (fun r t ht => ?_) (get_spec hs)
  cases r with
  | error e => exact ht
  | ok _ =>
      refine wpUnder_mono (fun _ _ _ => trivial) (fun r u hu => ?_) (drift_of_quiet (hp t))
      have hgot := ht.1.trans (got_of_drift ht.1.sound hu.2)
      cases r with
      | error e => exact hgot
      | ok result => exact ⟨hgot, hu.1⟩

theorem packageStart_spec {s : UnitBus} (hs : s.Sound) :
    wpUnder (Served faults) (fun _ _ => True)
      (branch (fun result t => Got faults s t ∧ t.Reflects (statusOfResult result))
        fun _ t => Got faults s t)
      (packageStart packagesCgroup unitName serviceInfo) s :=
  got_and_reflects hs start_spec

theorem packageStop_spec {s : UnitBus} (hs : s.Sound) :
    wpUnder (Served faults) (fun _ _ => True)
      (branch (fun result t => Got faults s t ∧ t.Reflects (statusOfResult result))
        fun _ t => Got faults s t)
      (packageStop unitName) s :=
  got_and_reflects hs stop_spec

end Specs

end Executor

end Ssam
