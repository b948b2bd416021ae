import Mathlib.Logic.Relation
import Ssam.Executor.TransientUnit
import Ssam.Lifecycle.Monitor

/-!
# The Status and the Unit

A package, its unit and the reports of the unit, with the operations as they are carried
out on the unit and not only as they end. While an operation is carried out the unit goes
on, its reports queue up, and the monitor may end.

The status is set from two sides: by the operations, from what they have read last, and by
the receiver, from the reports, which come late. Still it is what the unit is whenever the
unit is watched and all reports have been taken, and a package is cleaned up only while
there is nothing left of its unit. `Settled` is the invariant: what has been read is that of
the unit, or a report is on its way, and of the reports the last one is.

## Main definitions

* `PackageUnit`: The status, the unit, and where the receiver is.
* `Performed`: What an operation does with the unit.
* `PackageMove`: What happens next.
* `Settled`: The invariant.

## Theorems

* `move_settled`: A step keeps it.
* `status_reported`: The status is what the unit is.
-/

namespace Ssam

namespace Executor

open Lib Lifecycle Prog UnitBus

/-- A package, its unit, and the receiver of the reports. -/
structure PackageUnit where
  status : PackageStatus
  bus : UnitBus
  receiver : Receiver

/-- A package just created. -/
def PackageUnit.created : PackageUnit := ⟨.verified, .created, .receiving⟩

variable (faults : Prop) (name packagesCgroup unitName : String) (serviceInfo : ServiceInfo)

/-- What an operation that ends as `o` says does with the unit. -/
inductive Performed (o : Outcomes) : Op → UnitBus → UnitBus → Prop where
  /-- Setup waits for the executor among others. -/
  | setup {s t r} (h : LazyExecutor.get.Comes (Served faults) s (some r) t)
      (hok : o.setup = .ok () → r = .ok ()) : Performed o .setup s t
  | cleanup {s t} (h : Drift s t) : Performed o .cleanup s t
  | start {s t} (h : (packageStart packagesCgroup unitName serviceInfo).Comes (Served faults) s
      (some o.start) t) : Performed o .start s t
  | stop {s t} (h : (packageStop unitName).Comes (Served faults) s (some o.stop) t) :
      Performed o .stop s t
  /-- What comes of the unit is only logged. -/
  | teardown {s t r} (h : (packageTeardown unitName).Comes (Served faults) s (some r) t) :
      Performed o .teardown s t

/-- The operations of a transition, one after the other. -/
inductive PerformedAll (o : Outcomes) : List Op → UnitBus → UnitBus → Prop where
  | nil {s} : PerformedAll o [] s s
  | cons {op ops s t u} (h : Performed faults packagesCgroup unitName serviceInfo o op s t)
      (hrest : PerformedAll o ops t u) : PerformedAll o (op :: ops) s u

/-- What happens next to a package. -/
inductive PackageMove : PackageUnit → PackageUnit → Prop where
  /-- The state machine handles a user's request. -/
  | request {s bus} (r : Request) (o : Outcomes)
      (h : PerformedAll faults packagesCgroup unitName serviceInfo o
        (transitionTo name s.status r.target o).invoked s.bus bus) :
      PackageMove s ⟨(transitionTo name s.status r.target o).status, bus, s.receiver⟩
  /-- The package is taken down. Its status is not touched. -/
  | teardown {s bus r} (h : (packageTeardown unitName).Comes (Served faults) s.bus (some r) bus) :
      PackageMove s { s with bus := bus }
  /-- The unit and the monitor go on. -/
  | drift {s bus} (h : Drift s.bus bus) : PackageMove s { s with bus := bus }
  /-- The receiver takes a report and requests the transition. -/
  | receive {s state rest} (o : Outcomes) (hreceiving : s.receiver = .receiving)
      (h : s.bus.pending = state :: rest)
      (hok : (transitionTo name s.status (statusOfUnit state) o).answer = .ok ()) :
      PackageMove s ⟨(transitionTo name s.status (statusOfUnit state) o).status,
        { s.bus with pending := rest }, .receiving⟩
  /-- It stops at the first one that is refused. -/
  | refused {s state rest e} (o : Outcomes) (hreceiving : s.receiver = .receiving)
      (h : s.bus.pending = state :: rest)
      (herror : (transitionTo name s.status (statusOfUnit state) o).answer = .error e) :
      PackageMove s ⟨(transitionTo name s.status (statusOfUnit state) o).status,
        { s.bus with pending := rest }, .failing e.text⟩
  /-- Nobody is left that could report anything. -/
  | closed {s} (hreceiving : s.receiver = .receiving) (h : s.bus.pending = [])
      (hover : s.bus.executor ≠ .unused ∧ s.bus.monitor = .off) :
      PackageMove s { s with receiver := .failing "Channel closed" }
  /-- The receiver sets the package to `Error`. -/
  | reportError {s reason} (o : Outcomes) (h : s.receiver = .failing reason) :
      PackageMove s ⟨(transitionTo name s.status (.error reason) o).status, s.bus, .ended⟩

/-- What has been read last is what the unit is, or a report is on its way. -/
structure Settled (s : PackageUnit) : Prop where
  settled : s.status.isSettled = true
  sound : s.bus.Sound
  ne_blind : ¬ faults → s.bus.monitor ≠ .blind
  reflects : s.receiver = .receiving → s.bus.Reflects s.status
  /-- Only setup makes an executor. -/
  verified : s.status = .verified → s.bus.executor ≠ .made

variable {faults name packagesCgroup unitName serviceInfo}

theorem settled_created : Settled faults .created where
  settled := rfl
  sound := ⟨nofun, fun _ => ⟨rfl, rfl⟩⟩
  ne_blind _ := by decide
  reflects _ := nofun
  verified _ := by decide

theorem Settled.drift {s : PackageUnit} (hs : Settled faults s) {bus : UnitBus}
    (h : Drift s.bus bus) : Settled faults { s with bus := bus } where
  settled := hs.settled
  sound := drift_sound hs.sound h
  ne_blind hfine := (got_of_drift hs.sound h).ne_blind hfine (hs.ne_blind hfine)
  reflects hreceiving := (hs.reflects hreceiving).drift h
  verified hverified := by
    rw [drift_executor h]
    exact hs.verified hverified

/-- A package to be taken down is left as it may be at any time. -/
theorem drift_of_teardown {s t : UnitBus} {r : Except Error Unit}
    (h : (packageTeardown unitName).Comes (Served faults) s (some r) t) : Drift s t :=
  (comes_of_wpUnder (S := fun _ => True)
    (wpUnder_mono (fun _ _ _ => trivial) (fun _ _ h => h) (drift_of_quiet (teardown_spec s))) h).2

theorem statusOfUnit_ne_cleaned (state : UnitActiveState) : statusOfUnit state ≠ .cleaned := by
  intro h
  have hlive := statusOfUnit_isLive state
  rw [h] at hlive
  cases hlive

theorem received_sound {s : UnitBus} (hs : s.Sound) {state : UnitActiveState}
    {rest : List UnitActiveState} (h : s.pending = state :: rest) :
    ({ s with pending := rest } : UnitBus).Sound where
  last hwatching {r} hr := by
    refine hs.last hwatching ?_
    have hr : rest.getLast? = some r := hr
    rw [h, List.getLast?_cons, hr]
    rfl
  unused hunused := by
    have hnone := (hs.unused hunused).2
    rw [h] at hnone
    cases hnone

/-- The last report that is taken is of what the unit is. -/
theorem reflects_received {s : UnitBus} (hs : s.Sound) {state : UnitActiveState}
    {rest : List UnitActiveState} (h : s.pending = state :: rest) :
    ({ s with pending := rest } : UnitBus).Reflects (statusOfUnit state) := by
  intro hwatching hpending
  have hrest : rest = [] := hpending
  have htext : state.text = s.unit.text := by
    refine hs.last hwatching ?_
    rw [h, hrest]
    rfl
  exact ⟨fun _ => statusOfUnit_congr htext, fun hc => absurd hc (statusOfUnit_ne_cleaned state)⟩

/-- A package that is ready and one that is cleaned up have no unit. -/
theorem reflects_ready_iff {s : UnitBus} : s.Reflects .ready ↔ s.Reflects .cleaned := by
  constructor
  · intro h hwatching hpending
    refine ⟨nofun, fun _ => ?_⟩
    have hready := (h hwatching hpending).1 rfl
    cases hunit : s.unit with
    | inactive => rfl
    | _ =>
        rw [hunit] at hready
        cases hready
  · intro h hwatching hpending
    refine ⟨fun _ => ?_, nofun⟩
    rw [(h hwatching hpending).2 rfl]
    rfl

section Operations

variable {o : Outcomes} {s t : UnitBus}

/-- A package that has been set up has no unit, if it had none with an executor before. -/
theorem reflects_setup (hs : s.Sound)
    (h : Performed faults packagesCgroup unitName serviceInfo o .setup s t)
    (hok : o.setup = .ok ()) (hmade : s.executor = .made → s.Reflects .ready) :
    t.Reflects .ready := by
  cases h with
  | @setup _ _ r h hr =>
      have hspec := comes_of_wpUnder (S := fun _ => True) (get_spec hs) h
      rw [hr hok] at hspec
      rcases hspec with ⟨-, hdrift, hnew⟩
      by_cases hcell : s.executor = .made
      · exact (hmade hcell).drift (hdrift hcell)
      · exact hnew hcell

theorem reflects_start (hs : s.Sound)
    (h : Performed faults packagesCgroup unitName serviceInfo o .start s t)
    {result : ExecutionResult} (hok : o.start = .ok result) :
    t.Reflects (statusOfResult result) := by
  cases h with
  | start h =>
      have hspec := comes_of_wpUnder (S := fun _ => True) (packageStart_spec hs) h
      rw [hok] at hspec
      exact hspec.2

theorem reflects_stop (hs : s.Sound)
    (h : Performed faults packagesCgroup unitName serviceInfo o .stop s t)
    {result : ExecutionResult} (hok : o.stop = .ok result) :
    t.Reflects (statusOfResult result) := by
  cases h with
  | stop h =>
      have hspec := comes_of_wpUnder (S := fun _ => True) (packageStop_spec hs) h
      rw [hok] at hspec
      exact hspec.2

theorem performed_got {op : Op} (hs : s.Sound)
    (h : Performed faults packagesCgroup unitName serviceInfo o op s t) : Got faults s t := by
  cases h with
  | @setup _ _ r h _ =>
      have hspec := comes_of_wpUnder (S := fun _ => True) (get_spec hs) h
      cases r with
      | error e => exact hspec
      | ok _ => exact hspec.1
  | cleanup h => exact got_of_drift hs h
  | start h =>
      have hspec := comes_of_wpUnder (S := fun _ => True) (packageStart_spec hs) h
      cases hstart : o.start with
      | error e =>
          rw [hstart] at hspec
          exact hspec
      | ok result =>
          rw [hstart] at hspec
          exact hspec.1
  | stop h =>
      have hspec := comes_of_wpUnder (S := fun _ => True) (packageStop_spec hs) h
      cases hstop : o.stop with
      | error e =>
          rw [hstop] at hspec
          exact hspec
      | ok result =>
          rw [hstop] at hspec
          exact hspec.1
  | teardown h => exact got_of_drift hs (drift_of_teardown h)

theorem performedAll_got {ops : List Op} (hs : s.Sound)
    (h : PerformedAll faults packagesCgroup unitName serviceInfo o ops s t) : Got faults s t := by
  induction h with
  | nil => exact got_of_drift hs (.same _)
  | cons h _ ih =>
      have hgot := performed_got hs h
      exact hgot.trans (ih hgot.sound)

theorem performedAll_single {op : Op}
    (h : PerformedAll faults packagesCgroup unitName serviceInfo o [op] s t) :
    Performed faults packagesCgroup unitName serviceInfo o op s t := by
  cases h with
  | cons h hrest =>
      cases hrest
      exact h

end Operations

/-- No request leads back to a package that has not been set up. -/
theorem request_verified {current : PackageStatus} {r : Request} {o : Outcomes}
    (h : (transitionTo name current r.target o).status = .verified) :
    current = .verified ∧ (transitionTo name current r.target o).invoked = [] := by
  rcases transitionTo_cases name current r.target o with
    ⟨hsame, hnone⟩ | ⟨t, hof, -, -, hstatus, -⟩
  · exact ⟨hsame ▸ h, hnone⟩
  · refine absurd (hstatus.symm.trans h) ?_
    cases r with
    | setup =>
        obtain rfl := Option.some.inj hof
        simp only [TransitionHandler.handle]
        cases o.setup <;> simp
    | start =>
        obtain rfl := Option.some.inj hof
        simp only [TransitionHandler.handle]
        cases o.start with
        | error e => simp
        | ok result => rcases result with (_ | _) | (_ | _) | _ | _ <;> simp [statusOfResult]
    | stop =>
        obtain rfl := Option.some.inj hof
        simp only [TransitionHandler.handle]
        cases o.stop with
        | error e => simp
        | ok result => rcases result with (_ | _) | (_ | _) | _ | _ <;> simp [statusOfResult]
    | cleanup =>
        obtain rfl := Option.some.inj hof
        simp only [TransitionHandler.handle]
        cases o.cleanup <;> simp
    | upgrade =>
        obtain rfl := Option.some.inj hof
        simp only [TransitionHandler.handle]
        by_cases hv : current = .verified
        · rw [if_pos hv]
          simp [Request.target]
        · rw [if_neg hv]
          cases o.teardown <;> simp [Request.target]

/-- What a request leaves is what the unit is, or a report is on its way. -/
theorem reflects_request {s : PackageUnit} (hs : Settled faults s)
    (hreceiving : s.receiver = .receiving) {r : Request} {o : Outcomes} {bus : UnitBus}
    (h : PerformedAll faults packagesCgroup unitName serviceInfo o
      (transitionTo name s.status r.target o).invoked s.bus bus) :
    bus.Reflects (transitionTo name s.status r.target o).status := by
  have hreflects := hs.reflects hreceiving
  rcases transitionTo_cases name s.status r.target o with
    ⟨hsame, hnone⟩ | ⟨t, hof, happ, -, hstatus, hinvoked⟩
  · rw [hnone] at h
    cases h
    rw [hsame]
    exact hreflects
  · rw [hinvoked] at h
    rw [hstatus]
    cases r with
    | setup =>
        obtain rfl := Option.some.inj hof
        simp only [TransitionHandler.handle] at h ⊢
        cases hsetup : o.setup with
        | error e => exact reflects_error bus e.text
        | ok _ =>
            rw [hsetup] at h
            refine reflects_setup hs.sound (performedAll_single h) hsetup fun hmade => ?_
            cases hcurrent : s.status with
            | verified => exact absurd hmade (hs.verified hcurrent)
            | cleaned => exact reflects_ready_iff.mpr (hcurrent ▸ hreflects)
            | _ =>
                rw [hcurrent] at happ
                cases happ
    | start =>
        obtain rfl := Option.some.inj hof
        simp only [TransitionHandler.handle] at h ⊢
        cases hstart : o.start with
        | error e => exact reflects_error bus e.text
        | ok result =>
            rw [hstart] at h
            exact reflects_start hs.sound (performedAll_single h) hstart
    | stop =>
        obtain rfl := Option.some.inj hof
        simp only [TransitionHandler.handle] at h ⊢
        cases hstop : o.stop with
        | error e => exact reflects_error bus e.text
        | ok result =>
            rw [hstop] at h
            exact reflects_stop hs.sound (performedAll_single h) hstop
    | cleanup =>
        obtain rfl := Option.some.inj hof
        simp only [TransitionHandler.handle] at h ⊢
        cases hcleanup : o.cleanup with
        | error e => exact reflects_error bus e.text
        | ok _ =>
            rw [hcleanup] at h
            cases performedAll_single h with
            | cleanup hdrift =>
                -- It is cleaned up only when it is ready.
                cases hcurrent : s.status with
                | ready => exact (reflects_ready_iff.mp (hcurrent ▸ hreflects)).drift hdrift
                | _ =>
                    rw [hcurrent] at happ
                    cases happ
    | upgrade =>
        obtain rfl := Option.some.inj hof
        simp only [TransitionHandler.handle]
        by_cases hv : s.status = .verified
        · rw [if_pos hv]
          exact reflects_upgrading bus
        · rw [if_neg hv]
          cases o.teardown with
          | ok _ => exact reflects_upgrading bus
          | error e => exact reflects_error bus e.text

theorem Settled.request {s : PackageUnit} (hs : Settled faults s) (r : Request) (o : Outcomes)
    {bus : UnitBus} (h : PerformedAll faults packagesCgroup unitName serviceInfo o
      (transitionTo name s.status r.target o).invoked s.bus bus) :
    Settled faults ⟨(transitionTo name s.status r.target o).status, bus, s.receiver⟩ where
  settled := transitionTo_isSettled hs.settled
  sound := (performedAll_got hs.sound h).sound
  ne_blind hfine := (performedAll_got hs.sound h).ne_blind hfine (hs.ne_blind hfine)
  reflects hreceiving := reflects_request hs hreceiving h
  verified hverified := by
    rcases request_verified hverified with ⟨hcurrent, hnone⟩
    rw [hnone] at h
    cases h
    exact hs.verified hcurrent

/-- What the unit reports does not make a package one that has not been set up. -/
theorem unit_verified {current : PackageStatus} (hsettled : current.isSettled = true)
    {state : UnitActiveState} {o : Outcomes}
    (h : (transitionTo name current (statusOfUnit state) o).status = .verified) :
    current = .verified := by
  cases hlive : current.isLive with
  | true =>
      rw [(transitionTo_unit_of_isLive name hlive state o).2] at h
      have hunit := statusOfUnit_isLive state
      rw [h] at hunit
      cases hunit
  | false =>
      rw [(transitionTo_unit_refused name hsettled hlive state o).2] at h
      exact h

theorem move_settled {s t : PackageUnit} (hs : Settled faults s)
    (h : PackageMove faults name packagesCgroup unitName serviceInfo s t) : Settled faults t := by
  cases h with
  | request r o h => exact hs.request r o h
  | teardown h => exact hs.drift (drift_of_teardown h)
  | drift h => exact hs.drift h
  | @receive state rest o hreceiving h hok =>
      exact {
        settled := transitionTo_isSettled hs.settled
        sound := received_sound hs.sound h
        ne_blind := hs.ne_blind
        reflects := fun _ => by
          cases hlive : s.status.isLive with
          | true =>
              rw [(transitionTo_unit_of_isLive name hlive state o).2]
              exact reflects_received hs.sound h
          | false =>
              rw [(transitionTo_unit_refused name hs.settled hlive state o).1] at hok
              cases hok
        verified := fun hverified => hs.verified (unit_verified hs.settled hverified) }
  | refused o hreceiving h herror =>
      exact {
        settled := transitionTo_isSettled hs.settled
        sound := received_sound hs.sound h
        ne_blind := hs.ne_blind
        reflects := nofun
        verified := fun hverified => hs.verified (unit_verified hs.settled hverified) }
  | closed hreceiving h hover => exact { hs with reflects := nofun }
  | reportError o h =>
      exact {
        settled := transitionTo_isSettled hs.settled
        sound := hs.sound
        ne_blind := hs.ne_blind
        reflects := nofun
        verified := fun hverified => by
          rw [transitionTo_error] at hverified
          cases hverified }

/-- Whatever is asked of the package and whatever the unit does, once the reports have been
    taken the status is what the unit is, and one that is cleaned up has none. A unit that
    can be read is watched as long as its monitor runs. -/
theorem status_reported {s : PackageUnit} (hrun : Relation.ReflTransGen
      (PackageMove faults name packagesCgroup unitName serviceInfo) .created s) :
    (s.receiver = .receiving → s.bus.monitor = .watching → s.bus.pending = [] →
      (s.status.isLive = true → s.status = statusOfUnit s.bus.unit) ∧
        (s.status = .cleaned → s.bus.unit = .inactive)) ∧
    (¬ faults → s.bus.monitor = .off ∨ s.bus.monitor = .watching) := by
  have hsettled : Settled faults s := by
    induction hrun with
    | refl => exact settled_created
    | tail _ hmove ih => exact move_settled ih hmove
  refine ⟨hsettled.reflects, fun hfine => ?_⟩
  cases hmonitor : s.bus.monitor with
  | off => exact Or.inl rfl
  | blind => exact absurd hmonitor (hsettled.ne_blind hfine)
  | watching => exact Or.inr rfl

/-! ### A package that is set up and started -/

/-- All goes well, and the unit is started. -/
def startedOutcomes : Outcomes := succeeding .active

def watchedBus : UnitBus := ⟨.inactive, .made, .watching, []⟩

def activeBus : UnitBus := ⟨.active, .made, .watching, [.active]⟩

theorem served_same {β : Type} {c : UnitCall β} {s t : UnitBus} {a : β}
    (h : Answered faults s c (t, a)) : Served faults s c (t, a) := ⟨s, .same s, h⟩

theorem get_watched : LazyExecutor.get.Comes (Served faults) .created (some (.ok ()))
    watchedBus := by
  have hnone : Served faults .created .hasExecutor (.created, false) :=
    served_same ⟨rfl, by decide⟩
  have htaken : Served faults .created .takeInitArgs (⟨.inactive, .taken, .off, []⟩, true) :=
    served_same ⟨rfl, rfl⟩
  have hconnect : Served faults ⟨.inactive, .taken, .off, []⟩ .connect
      (⟨.inactive, .taken, .blind, []⟩, .ok ()) := served_same rfl
  have hread : Served faults ⟨.inactive, .taken, .blind, []⟩ .activeState
      (⟨.inactive, .taken, .blind, []⟩, .ok "inactive") := served_same ⟨rfl, fun _ _ => rfl⟩
  have hspawn : Served faults ⟨.inactive, .taken, .blind, []⟩ (.spawnMonitor .inactive)
      (watchedBus, ()) := served_same rfl
  exact .goesOn hnone (.goesOn htaken (.goesOn hconnect (.goesOn hread (.goesOn hspawn .ended))))

theorem start_active : (packageStart packagesCgroup unitName serviceInfo).Comes (Served faults)
    watchedBus (some startedOutcomes.start) activeBus := by
  have hmade : Served faults watchedBus .hasExecutor (watchedBus, true) :=
    served_same ⟨rfl, by decide⟩
  have hread : Served faults watchedBus .activeState (watchedBus, .ok "inactive") :=
    served_same ⟨rfl, fun _ _ => rfl⟩
  have hstartCmd : Served faults watchedBus .getStartCmd (watchedBus, .ok ⟨"crun", []⟩) :=
    served_same rfl
  have hstopCmd : Served faults watchedBus .getStopCmd (watchedBus, .ok ⟨"crun", []⟩) :=
    served_same rfl
  have hjob : ∀ properties, Served faults watchedBus (.startTransientUnit unitName properties)
      (activeBus, .ok (.ok .success)) :=
    fun _ => ⟨activeBus, .reported (by decide) rfl, rfl⟩
  have hactive : Served faults activeBus .activeState (activeBus, .ok "active") :=
    served_same ⟨rfl, fun _ _ => rfl⟩
  exact .goesOn hmade (.goesOn hread (.goesOn hstartCmd (.goesOn hstopCmd
    (.goesOn (hjob _) (.goesOn hactive .ended)))))

theorem run_active : Relation.ReflTransGen
    (PackageMove faults name packagesCgroup unitName serviceInfo) .created
    ⟨.running "active", ⟨.active, .made, .watching, []⟩, .receiving⟩ := by
  have hsetup : PackageMove faults name packagesCgroup unitName serviceInfo .created
      ⟨.ready, watchedBus, .receiving⟩ :=
    .request .setup startedOutcomes (.cons (.setup get_watched fun _ => rfl) .nil)
  have hstart : PackageMove faults name packagesCgroup unitName serviceInfo
      ⟨.ready, watchedBus, .receiving⟩ ⟨.running "active", activeBus, .receiving⟩ :=
    .request .start startedOutcomes (.cons (.start start_active) .nil)
  have hreceive : PackageMove faults name packagesCgroup unitName serviceInfo
      ⟨.running "active", activeBus, .receiving⟩
      ⟨.running "active", ⟨.active, .made, .watching, []⟩, .receiving⟩ :=
    @PackageMove.receive _ _ _ _ _ ⟨.running "active", activeBus, .receiving⟩ .active []
      startedOutcomes rfl rfl rfl
  exact ((Relation.ReflTransGen.single hsetup).tail hstart).tail hreceive

theorem status_reported_active : ∃ s, s.receiver = .receiving ∧
    s.bus.monitor = .watching ∧ s.bus.pending = [] ∧ s.bus.unit = .active ∧
      Relation.ReflTransGen (PackageMove False "a" "" "a.service" ⟨"", .simple, none, none⟩)
        .created s ∧
      s.status = statusOfUnit s.bus.unit := by
  have hrun : Relation.ReflTransGen
      (PackageMove False "a" "" "a.service" ⟨"", .simple, none, none⟩) .created
      ⟨.running "active", ⟨.active, .made, .watching, []⟩, .receiving⟩ := run_active
  exact ⟨_, rfl, rfl, rfl, rfl, hrun, ((status_reported hrun).1 rfl rfl rfl).1 rfl⟩

end Executor

end Ssam
