import Ssam.Lib.HashMap
import Ssam.Lib.Run
import Ssam.Lifecycle.Status

/-!
# The Job Watcher

How the result of a systemd job gets back to the call that started it.

Three parties take part. systemd makes a job for a start or a stop, answers the call
with its path and sends a signal once the job is removed. The manager, an actor that
handles one call at a time, asks the watcher to watch the path and waits for the
result, for as long as its timer allows. The watcher, another actor, takes the
signals from a stream and the manager's messages from its mailbox, in whatever
order the two come up, and passes a result on to whoever is registered for its job.

Jobs are named by their paths, and systemd gives no path out twice. A call may be
answered with a job that is under way already, so the jobs of other clients are in the
picture too. Nothing is assumed of how the parties are scheduled.

## Main definitions

* `JobResult`: What a job came to.
* `mapJobResult`: What the executor makes of it.
* `Manager`, `State`: Where the parties are.
* `step`, `Moved`: One party's move, and what it comes to.
* `Sound`: The invariant of all runs.

## Theorems

* `mapJobResult_eq_timeout`: The executor reports a timeout only where the wait timed out.
* `moved_of_step`: A move that is made is one of these.
* `sound_step`, `always_sound`: Every state of a run is sound.
* `answer_own`: An answer is the timeout or the job's own result.
-/

namespace Ssam

namespace Executor

open Lib Lifecycle

/-- What a job came to, or that nobody knows in time. -/
inductive JobResult where
  | success
  | canceled
  | failed (reason : String)
  | timeout
  deriving DecidableEq

/-- The result a signal names. -/
def JobResult.ofSignal : String → JobResult
  | "done" => .success
  | "canceled" => .canceled
  | res => .failed res

/-- What the executor answers. A job that failed or that nobody knows of is a success
    where the unit is active nevertheless. -/
def mapJobResult (jobResult : JobResult) (status : ExecutionStatus) : ExecutionResult :=
  match jobResult with
  | .success => .success status
  | .canceled => .canceled status
  | .failed reason =>
      match status with
      | .active _ => .success status
      | .inactive _ => .failure reason
  | .timeout =>
      match status with
      | .active _ => .success status
      | .inactive _ => .timeout

theorem ofSignal_ne_timeout (res : String) : JobResult.ofSignal res ≠ .timeout := by
  unfold JobResult.ofSignal
  split <;> exact JobResult.noConfusion

/-- The executor reports a timeout only where the wait for the job timed out. -/
theorem mapJobResult_eq_timeout {jobResult : JobResult} {status : ExecutionStatus}
    (h : mapJobResult jobResult status = .timeout) : jobResult = .timeout := by
  cases jobResult with
  | timeout => rfl
  | success => exact ExecutionResult.noConfusion h
  | canceled => exact ExecutionResult.noConfusion h
  | failed reason => cases status <;> exact ExecutionResult.noConfusion h

/-- What the manager asks of the watcher. -/
inductive Message (J : Type) where
  | watchSignal (jobPath : J)
  | cancelWatchSignal (jobPath : J)

/-- Where the manager is in the handling of a call. After a timeout it is kept what
    the job had come to by then. -/
inductive Manager (J : Type) where
  | idle
  | calling
  | replied (jobPath : J)
  | asking (jobPath : J)
  | waiting (jobPath : J) (recv : Nat)
  | cancelling (jobPath : J) (removed : Option String)

/-- How a call for a job was answered, and what the job had come to when the wait for
    it was over. -/
structure Answer (J : Type) where
  jobPath : J
  removed : Option String
  result : Except Error JobResult

/-- Where the three parties are. A signal whose arguments cannot be read is `none`. -/
structure State (J : Type) where
  manager : Manager J
  /-- Who is registered for a job with the watcher. -/
  senders : HashMap J Nat
  mailbox : List (Message J)
  stream : List (Option (J × String))
  /-- The stream has ended, and the watcher has stopped. -/
  stopped : Bool
  /-- The results sent to those who wait. -/
  channels : HashMap Nat JobResult
  nextChannel : Nat
  /-- The jobs of systemd that are under way, and what the others came to. -/
  running : List J
  removed : HashMap J String
  answers : List (Answer J)

/-- The moves of the parties. -/
inductive Event (J : Type) where
  /-- A start or a stop is handled, and systemd is called. -/
  | request
  /-- systemd refuses the call. -/
  | refuse
  /-- systemd has a job for the call, a new one or one under way. -/
  | createJob (jobPath : J)
  /-- systemd starts a job for someone else. -/
  | otherJob (jobPath : J)
  /-- A job is removed, and a signal is sent. -/
  | removeJob (jobPath : J) (result : String)
  /-- A signal comes whose arguments cannot be read. -/
  | unreadable
  /-- The stream of signals ends. -/
  | endStream
  /-- The manager gets the path of its job, and asks to have it watched. -/
  | reply
  /-- The watcher takes a signal. -/
  | onRun
  /-- The watcher takes a message. -/
  | handle
  /-- The manager gets the result. -/
  | receive
  /-- The manager's timer runs out. -/
  | elapse
  /-- The manager finds the watcher stopped. -/
  | disconnect

variable {J : Type} [DecidableEq J]

/-- Nothing has happened yet. -/
def State.initial : State J := ⟨.idle, ∅, [], [], false, ∅, 0, [], ∅, []⟩

/-- The watcher passes the result on to whoever is registered for the job. -/
def State.deliver (s : State J) (job : J) (result : JobResult) : State J :=
  match s.senders.get job with
  | some sender =>
      { s with senders := s.senders.erase job, channels := s.channels.insert sender result }
  | none => s

section Deliver

variable (s : State J) (job : J) (result : JobResult)

@[simp] theorem deliver_manager : (s.deliver job result).manager = s.manager := by
  unfold State.deliver
  split <;> rfl

@[simp] theorem deliver_stream : (s.deliver job result).stream = s.stream := by
  unfold State.deliver
  split <;> rfl

@[simp] theorem deliver_removed : (s.deliver job result).removed = s.removed := by
  unfold State.deliver
  split <;> rfl

@[simp] theorem deliver_answers : (s.deliver job result).answers = s.answers := by
  unfold State.deliver
  split <;> rfl

end Deliver

/-- A channel that is still empty was empty, and its owner not registered for the job. -/
theorem deliver_channels {s : State J} {job : J} {result : JobResult} {recv : Nat}
    (h : (s.deliver job result).channels.get recv = none) :
    s.channels.get recv = none ∧ s.senders.get job ≠ some recv := by
  unfold State.deliver at h
  split at h
  · next sender hsender =>
      rw [HashMap.get_insert] at h
      split at h
      · exact absurd h (Option.some_ne_none result)
      · next hne => exact ⟨h, fun hrecv => hne (Option.some.inj (hrecv.symm.trans hsender))⟩
  · next hsender =>
      refine ⟨h, ?_⟩
      rw [hsender]
      exact (Option.some_ne_none recv).symm

/-- The call is answered, and the manager is free again. -/
def State.answer (s : State J) (jobPath : J) (removed : Option String)
    (result : Except Error JobResult) : State J :=
  { s with manager := .idle, answers := ⟨jobPath, removed, result⟩ :: s.answers }

/-- What an actor is told whose message gets no reply. -/
def watcherStopped : Error := ["JobRemoveWatcher has been stopped or not initialized"]

/-- What is told to one who waits for a sender that is gone. -/
def senderDropped : Error := ["JobRemovedSignalWatcher has been stopped or not initialized"]

/-- One move. -/
def step (s : State J) : Event J → Option (State J)
  | .request =>
      match s.manager with
      | .idle => some { s with manager := .calling }
      | _ => none
  | .refuse =>
      match s.manager with
      | .calling => some { s with manager := .idle }
      | _ => none
  | .createJob jobPath =>
      match s.manager with
      | .calling =>
          -- systemd gives no job path out a second time.
          if s.removed.get jobPath = none then
            some { s with manager := .replied jobPath, running := jobPath :: s.running }
          else none
      | _ => none
  | .otherJob jobPath =>
      if s.removed.get jobPath = none then some { s with running := jobPath :: s.running } else none
  | .removeJob jobPath result =>
      if jobPath ∈ s.running ∧ s.removed.get jobPath = none then
        some { s with
          removed := s.removed.insert jobPath result
          stream := if s.stopped then s.stream else s.stream ++ [some (jobPath, result)] }
      else none
  | .unreadable => if s.stopped then none else some { s with stream := s.stream ++ [none] }
  | .endStream =>
      if s.stopped = false ∧ s.stream = [] then
        -- Its receiver and its senders are dropped with the actor.
        some { s with stopped := true, senders := ∅, mailbox := [] }
      else none
  | .reply =>
      match s.manager with
      | .replied jobPath =>
          some { s with
            manager := .asking jobPath
            mailbox := if s.stopped then s.mailbox else s.mailbox ++ [.watchSignal jobPath] }
      | _ => none
  | .onRun =>
      match s.stream with
      | some (job, result) :: stream =>
          some ({ s with stream := stream }.deliver job (.ofSignal result))
      -- A signal whose arguments cannot be read is only logged.
      | none :: stream => some { s with stream := stream }
      | [] => none
  | .handle =>
      match s.mailbox, s.manager with
      | .watchSignal jobPath :: mailbox, .asking _ =>
          some { s with
            manager := .waiting jobPath s.nextChannel
            senders := s.senders.insert jobPath s.nextChannel
            mailbox := mailbox
            nextChannel := s.nextChannel + 1 }
      | .cancelWatchSignal jobPath :: mailbox, .cancelling _ removed =>
          -- The manager has waited for the answer, and returns the timeout.
          some ({ s with senders := s.senders.erase jobPath, mailbox := mailbox }.answer
            jobPath removed (.ok .timeout))
      | _, _ => none
  | .receive =>
      match s.manager with
      | .waiting jobPath recv =>
          match s.channels.get recv with
          | some result => some (s.answer jobPath (s.removed.get jobPath) (.ok result))
          | none => none
      | _ => none
  | .elapse =>
      match s.manager with
      | .waiting jobPath recv =>
          match s.channels.get recv with
          -- The result is there already, so the wait ends with it.
          | some _ => none
          | none => some { s with
              manager := .cancelling jobPath (s.removed.get jobPath)
              mailbox := if s.stopped then s.mailbox
                else s.mailbox ++ [.cancelWatchSignal jobPath] }
      | _ => none
  | .disconnect =>
      match s.manager with
      | .asking jobPath =>
          if s.stopped then some (s.answer jobPath (s.removed.get jobPath) (.error watcherStopped))
          else none
      -- The sender is dropped without a result.
      | .waiting jobPath recv =>
          if s.stopped ∧ s.channels.get recv = none then
            some (s.answer jobPath (s.removed.get jobPath) (.error senderDropped))
          else none
      | .cancelling jobPath removed =>
          if s.stopped then some (s.answer jobPath removed (.error watcherStopped)) else none
      | _ => none

section Moves

variable (s : State J)

/-- What a move comes to. -/
inductive Moved : Event J → State J → Prop where
  | request (hm : s.manager = .idle) : Moved .request { s with manager := .calling }
  | refuse (hm : s.manager = .calling) : Moved .refuse { s with manager := .idle }
  | createJob {jobPath : J} (hm : s.manager = .calling) (hnew : s.removed.get jobPath = none) :
      Moved (.createJob jobPath)
        { s with manager := .replied jobPath, running := jobPath :: s.running }
  | otherJob {jobPath : J} :
      Moved (.otherJob jobPath) { s with running := jobPath :: s.running }
  | removeJob {jobPath : J} {result : String} (hnew : s.removed.get jobPath = none) :
      Moved (.removeJob jobPath result) { s with
        removed := s.removed.insert jobPath result
        stream := if s.stopped then s.stream else s.stream ++ [some (jobPath, result)] }
  | unreadable (hs : ¬ s.stopped = true) :
      Moved .unreadable { s with stream := s.stream ++ [none] }
  | endStream (hend : s.stream = []) :
      Moved .endStream { s with stopped := true, senders := ∅, mailbox := [] }
  | reply {jobPath : J} (hm : s.manager = .replied jobPath) :
      Moved .reply { s with
        manager := .asking jobPath
        mailbox := if s.stopped then s.mailbox else s.mailbox ++ [.watchSignal jobPath] }
  | takeSignal {job : J} {result : String} {stream : List (Option (J × String))}
      (hstream : s.stream = some (job, result) :: stream) :
      Moved .onRun ({ s with stream := stream }.deliver job (.ofSignal result))
  | skipSignal {stream : List (Option (J × String))} (hstream : s.stream = none :: stream) :
      Moved .onRun { s with stream := stream }
  | handleWatch {jobPath jobPath' : J} {mailbox : List (Message J)}
      (hmailbox : s.mailbox = .watchSignal jobPath :: mailbox)
      (hm : s.manager = .asking jobPath') :
      Moved .handle { s with
        manager := .waiting jobPath s.nextChannel
        senders := s.senders.insert jobPath s.nextChannel
        mailbox := mailbox
        nextChannel := s.nextChannel + 1 }
  | handleCancel {jobPath jobPath' : J} {removed : Option String} {mailbox : List (Message J)}
      (hmailbox : s.mailbox = .cancelWatchSignal jobPath :: mailbox)
      (hm : s.manager = .cancelling jobPath' removed) :
      Moved .handle ({ s with senders := s.senders.erase jobPath, mailbox := mailbox }.answer
        jobPath removed (.ok .timeout))
  | receive {jobPath : J} {recv : Nat} {result : JobResult}
      (hm : s.manager = .waiting jobPath recv) (hget : s.channels.get recv = some result) :
      Moved .receive (s.answer jobPath (s.removed.get jobPath) (.ok result))
  | elapse {jobPath : J} {recv : Nat} (hm : s.manager = .waiting jobPath recv)
      (hnone : s.channels.get recv = none) :
      Moved .elapse { s with
        manager := .cancelling jobPath (s.removed.get jobPath)
        mailbox := if s.stopped then s.mailbox else s.mailbox ++ [.cancelWatchSignal jobPath] }
  | loseAsking {jobPath : J} (hm : s.manager = .asking jobPath) (hs : s.stopped = true) :
      Moved .disconnect (s.answer jobPath (s.removed.get jobPath) (.error watcherStopped))
  | loseWaiting {jobPath : J} {recv : Nat} (hm : s.manager = .waiting jobPath recv)
      (hs : s.stopped = true) (hnone : s.channels.get recv = none) :
      Moved .disconnect (s.answer jobPath (s.removed.get jobPath) (.error senderDropped))
  | loseCancelling {jobPath : J} {removed : Option String}
      (hm : s.manager = .cancelling jobPath removed) (hs : s.stopped = true) :
      Moved .disconnect (s.answer jobPath removed (.error watcherStopped))

variable {s}

/-- A move that is made is one of these. -/
theorem moved_of_step {s' : State J} {e : Event J} (h : step s e = some s') : Moved s e s' := by
  cases e with
  | request =>
      rw [step] at h
      split at h
      · next hm =>
          rw [← Option.some.inj h]
          exact .request hm
      · exact absurd h.symm (Option.some_ne_none s')
  | refuse =>
      rw [step] at h
      split at h
      · next hm =>
          rw [← Option.some.inj h]
          exact .refuse hm
      · exact absurd h.symm (Option.some_ne_none s')
  | createJob jobPath =>
      rw [step] at h
      split at h
      · next hm =>
          split at h
          · next hnew =>
              rw [← Option.some.inj h]
              exact .createJob hm hnew
          · exact absurd h.symm (Option.some_ne_none s')
      · exact absurd h.symm (Option.some_ne_none s')
  | otherJob jobPath =>
      rw [step] at h
      split at h
      · rw [← Option.some.inj h]
        exact .otherJob
      · exact absurd h.symm (Option.some_ne_none s')
  | removeJob jobPath result =>
      rw [step] at h
      split at h
      · next hjob =>
          rw [← Option.some.inj h]
          exact .removeJob hjob.2
      · exact absurd h.symm (Option.some_ne_none s')
  | unreadable =>
      rw [step] at h
      split at h
      · exact absurd h.symm (Option.some_ne_none s')
      · next hs =>
          rw [← Option.some.inj h]
          exact .unreadable hs
  | endStream =>
      rw [step] at h
      split at h
      · next hend =>
          rw [← Option.some.inj h]
          exact .endStream hend.2
      · exact absurd h.symm (Option.some_ne_none s')
  | reply =>
      rw [step] at h
      split at h
      · next hm =>
          rw [← Option.some.inj h]
          exact .reply hm
      · exact absurd h.symm (Option.some_ne_none s')
  | onRun =>
      rw [step] at h
      split at h
      · next hstream =>
          rw [← Option.some.inj h]
          exact .takeSignal hstream
      · next hstream =>
          rw [← Option.some.inj h]
          exact .skipSignal hstream
      · exact absurd h.symm (Option.some_ne_none s')
  | handle =>
      rw [step] at h
      split at h
      · next hmailbox hm =>
          rw [← Option.some.inj h]
          exact .handleWatch hmailbox hm
      · next hmailbox hm =>
          rw [← Option.some.inj h]
          exact .handleCancel hmailbox hm
      · exact absurd h.symm (Option.some_ne_none s')
  | receive =>
      rw [step] at h
      split at h
      · next hm =>
          split at h
          · next hget =>
              rw [← Option.some.inj h]
              exact .receive hm hget
          · exact absurd h.symm (Option.some_ne_none s')
      · exact absurd h.symm (Option.some_ne_none s')
  | elapse =>
      rw [step] at h
      split at h
      · next hm =>
          split at h
          · exact absurd h.symm (Option.some_ne_none s')
          · next hnone =>
              rw [← Option.some.inj h]
              exact .elapse hm hnone
      · exact absurd h.symm (Option.some_ne_none s')
  -- The manager may be at each of the three places where it waits for the actor.
  | disconnect =>
      rw [step] at h
      split at h
      · next hm =>
          split at h
          · next hs =>
              rw [← Option.some.inj h]
              exact .loseAsking hm hs
          · exact absurd h.symm (Option.some_ne_none s')
      · next hm =>
          split at h
          · next hs =>
              rw [← Option.some.inj h]
              exact .loseWaiting hm hs.1 hs.2
          · exact absurd h.symm (Option.some_ne_none s')
      · next hm =>
          split at h
          · next hs =>
              rw [← Option.some.inj h]
              exact .loseCancelling hm hs
          · exact absurd h.symm (Option.some_ne_none s')
      · exact absurd h.symm (Option.some_ne_none s')

end Moves

/-- What the manager and the watcher know of each other. -/
def Attuned (s : State J) : Prop :=
  match s.manager with
  | .idle | .calling | .replied _ => s.mailbox = [] ∧ ∀ job, s.senders.get job = none
  | .asking jobPath =>
      s.mailbox = (if s.stopped then [] else [.watchSignal jobPath]) ∧
        ∀ job, s.senders.get job = none
  | .waiting jobPath recv =>
      -- The one sender is that of the job, until the result is sent on it.
      s.mailbox = [] ∧ (∀ job sender, s.senders.get job = some sender →
        job = jobPath ∧ sender = recv ∧ s.channels.get recv = none) ∧
      (s.channels.get recv = none → s.stopped = false → s.senders.get jobPath = some recv) ∧
      ∀ result, s.channels.get recv = some result →
        ∃ res, s.removed.get jobPath = some res ∧ result = .ofSignal res
  | .cancelling jobPath _ =>
      s.mailbox = (if s.stopped then [] else [.cancelWatchSignal jobPath]) ∧
        ∀ job, job ≠ jobPath → s.senders.get job = none

/-- The answer is the timeout, or the result of the job itself. -/
def Answer.Own (a : Answer J) : Prop :=
  ∀ result, a.result = .ok result →
    result = .timeout ∨ ∃ res, a.removed = some res ∧ result = .ofSignal res

/-- The invariant of all runs. -/
structure Sound (s : State J) : Prop where
  signals : ∀ job res, some (job, res) ∈ s.stream → s.removed.get job = some res
  stopped : s.stopped = true → s.stream = [] ∧ ∀ job, s.senders.get job = none
  fresh : ∀ k, s.nextChannel ≤ k → s.channels.get k = none
  issued : ∀ job sender, s.senders.get job = some sender → sender < s.nextChannel
  attuned : Attuned s
  own : ∀ a ∈ s.answers, a.Own

theorem sound_initial : Sound (State.initial : State J) where
  signals := by simp only [State.initial, List.not_mem_nil, false_imp_iff, implies_true]
  stopped := by simp only [State.initial, Bool.false_eq_true, false_imp_iff]
  fresh := fun _ _ => rfl
  issued := by simp only [State.initial, HashMap.get_empty, reduceCtorEq, false_imp_iff,
    implies_true]
  attuned := ⟨rfl, fun _ => rfl⟩
  own := by simp only [State.initial, List.not_mem_nil, false_imp_iff, implies_true]

/-- What the parties know of each other outlives the removal of a job. -/
theorem Attuned.removeJob {s : State J} (h : Attuned s) {jobPath : J} {result : String}
    (hnew : s.removed.get jobPath = none) (stream : List (Option (J × String))) :
    Attuned { s with removed := s.removed.insert jobPath result, stream := stream } := by
  rw [Attuned] at h ⊢
  dsimp only
  split at h
  · exact h
  · exact h
  · exact h
  · exact h
  · rcases h with ⟨hmailbox, hsenders, hregistered, hresult⟩
    refine ⟨hmailbox, hsenders, hregistered, fun r hr => ?_⟩
    rcases hresult r hr with ⟨res, hres, hsame⟩
    refine ⟨res, ?_, hsame⟩
    rw [HashMap.get_insert, if_neg, hres]
    rintro rfl
    rw [hnew] at hres
    exact Option.some_ne_none res hres.symm
  · exact h

/-- A result goes to the one who is registered for its job. -/
theorem sound_deliver {s : State J} (h : Sound s) {job : J} {result : String}
    {stream : List (Option (J × String))} (hstream : s.stream = some (job, result) :: stream) :
    Sound ({ s with stream := stream }.deliver job (.ofSignal result)) := by
  have hremoved : s.removed.get job = some result :=
    h.signals job result (by rw [hstream]; exact List.mem_cons_self)
  have hrest : ∀ j res, some (j, res) ∈ stream → s.removed.get j = some res :=
    fun j res hmem => h.signals j res (by rw [hstream]; exact List.mem_cons_of_mem _ hmem)
  have hrunning : s.stopped ≠ true := by
    intro hs
    rw [(h.stopped hs).1] at hstream
    exact List.cons_ne_nil _ _ hstream.symm
  unfold State.deliver
  dsimp only
  cases hsender : s.senders.get job with
  | none => exact ⟨hrest, fun hs => absurd hs hrunning, h.fresh, h.issued, h.attuned, h.own⟩
  | some sender =>
      dsimp only
      refine ⟨hrest, fun hs => absurd hs hrunning, fun k hk => ?_, fun j k hget => ?_, ?_, h.own⟩
      · have hlt := h.issued job sender hsender
        dsimp only at hk
        rw [HashMap.get_insert_ne _ _ (by omega)]
        exact h.fresh k hk
      · rw [HashMap.get_erase] at hget
        split at hget
        · exact absurd hget.symm (Option.some_ne_none k)
        · exact h.issued j k hget
      · have hattuned := h.attuned
        rw [Attuned] at hattuned ⊢
        dsimp only
        split at hattuned
        · exact absurd (hsender.symm.trans (hattuned.2 job)) (Option.some_ne_none sender)
        · exact absurd (hsender.symm.trans (hattuned.2 job)) (Option.some_ne_none sender)
        · exact absurd (hsender.symm.trans (hattuned.2 job)) (Option.some_ne_none sender)
        · exact absurd (hsender.symm.trans (hattuned.2 job)) (Option.some_ne_none sender)
        · -- The one who waits is the only one registered.
          rcases hattuned with ⟨hmailbox, hsenders, -, -⟩
          rcases hsenders job sender hsender with ⟨rfl, rfl, -⟩
          refine ⟨hmailbox, fun j k hget => ?_, fun hnone => ?_, fun r hr => ?_⟩
          · rw [HashMap.get_erase] at hget
            split at hget
            · exact absurd hget.symm (Option.some_ne_none k)
            · next hne => exact absurd (hsenders j k hget).1 hne
          · rw [HashMap.get_insert_self] at hnone
            exact absurd hnone (Option.some_ne_none _)
          · rw [HashMap.get_insert_self] at hr
            exact ⟨result, hremoved, (Option.some.inj hr).symm⟩
        · refine ⟨hattuned.1, fun j hne => ?_⟩
          rw [HashMap.get_erase]
          split
          · rfl
          · exact hattuned.2 j hne

/-- A call is answered when nothing is left with the watcher. -/
theorem Sound.answer {s : State J} (h : Sound s) {senders : HashMap J Nat}
    {mailbox : List (Message J)} {jobPath : J} {removed : Option String}
    {result : Except Error JobResult} (hmailbox : mailbox = [])
    (hsenders : ∀ job, senders.get job = none) (hown : Answer.Own ⟨jobPath, removed, result⟩) :
    Sound ({ s with senders := senders, mailbox := mailbox }.answer jobPath removed result) where
  signals := h.signals
  stopped := fun hs => ⟨(h.stopped hs).1, hsenders⟩
  fresh := h.fresh
  issued := fun job sender hget => absurd (hget.symm.trans (hsenders job)) (Option.some_ne_none _)
  attuned := ⟨hmailbox, hsenders⟩
  own := by
    intro a ha
    rcases List.mem_cons.mp ha with rfl | ha
    · exact hown
    · exact h.own a ha

/-- A signal that is sent is of a job that has been removed. -/
theorem Sound.removeJob {s : State J} (h : Sound s) {jobPath : J} {result : String}
    (hnew : s.removed.get jobPath = none) :
    Sound { s with
      removed := s.removed.insert jobPath result
      stream := if s.stopped then s.stream else s.stream ++ [some (jobPath, result)] } := by
  refine ⟨fun job res hmem => ?_, fun hs => ?_, h.fresh, h.issued, h.attuned.removeJob hnew _,
    h.own⟩
  · -- A signal in the stream is an older one or that of the job.
    rw [HashMap.get_insert]
    have hold : some (job, res) ∈ s.stream ∨ job = jobPath ∧ res = result := by
      dsimp only at hmem
      split at hmem
      · exact Or.inl hmem
      · simpa only [List.mem_append, List.mem_singleton, Option.some.injEq,
          Prod.mk.injEq] using hmem
    rcases hold with hold | ⟨rfl, rfl⟩
    · have hres := h.signals job res hold
      rw [if_neg, hres]
      rintro rfl
      exact Option.some_ne_none res (hres.symm.trans hnew)
    · exact if_pos rfl
  · refine ⟨?_, (h.stopped hs).2⟩
    dsimp only at hs ⊢
    rw [if_pos hs, (h.stopped hs).1]

/-- When the stream ends, whoever was registered is forgotten. -/
theorem Sound.endStream {s : State J} (h : Sound s) (hend : s.stream = []) :
    Sound { s with stopped := true, senders := ∅, mailbox := [] } := by
  refine ⟨h.signals, fun _ => ⟨hend, fun _ => rfl⟩, h.fresh, ?_, ?_, h.own⟩
  · exact fun _ sender hget => absurd hget.symm (Option.some_ne_none sender)
  · have hattuned := h.attuned
    rw [Attuned] at hattuned ⊢
    dsimp only
    split at hattuned
    · exact ⟨rfl, fun _ => rfl⟩
    · exact ⟨rfl, fun _ => rfl⟩
    · exact ⟨rfl, fun _ => rfl⟩
    · exact ⟨rfl, fun _ => rfl⟩
    · refine ⟨rfl, fun _ sender hget => ?_, fun _ hs => ?_, hattuned.2.2.2⟩
      · exact absurd hget.symm (Option.some_ne_none sender)
      · exact absurd hs.symm Bool.false_ne_true
    · exact ⟨rfl, fun _ _ => rfl⟩

omit [DecidableEq J] in
/-- A message in the mailbox is the one the manager has sent, and the only one. -/
theorem message_of_mailbox {stopped : Bool} {m sent : Message J} {mailbox : List (Message J)}
    (h : m :: mailbox = if stopped then [] else [sent]) :
    stopped = false ∧ m = sent ∧ mailbox = [] := by
  cases stopped with
  | true => exact absurd h (List.cons_ne_nil _ _)
  | false => exact ⟨rfl, (List.cons.inj h).1, (List.cons.inj h).2⟩

/-- The watcher registers the manager for its job on a new channel. -/
theorem Sound.handleWatch {s : State J} (h : Sound s) {jobPath jobPath' : J}
    {mailbox : List (Message J)} (hmailbox : s.mailbox = .watchSignal jobPath :: mailbox)
    (hm : s.manager = .asking jobPath') :
    Sound { s with
      manager := .waiting jobPath s.nextChannel
      senders := s.senders.insert jobPath s.nextChannel
      mailbox := mailbox
      nextChannel := s.nextChannel + 1 } := by
  -- The mailbox had this message only, and no sender was left.
  have hattuned := h.attuned
  rw [Attuned, hm, hmailbox] at hattuned
  rcases hattuned with ⟨hwatch, hsenders⟩
  rcases message_of_mailbox hwatch with ⟨hs, -, hempty⟩
  refine ⟨h.signals, fun hstopped => ?_, fun k hk => ?_, fun job sender hget => ?_,
    ⟨hempty, fun job sender hget => ?_, fun _ _ => ?_, fun result hresult => ?_⟩, h.own⟩
  · exact absurd (hs.symm.trans hstopped) Bool.false_ne_true
  · exact h.fresh k (by dsimp only at hk; omega)
  · -- The one sender has the new channel, on which nothing was sent.
    rw [HashMap.get_insert, hsenders] at hget
    split at hget
    · rw [← Option.some.inj hget]
      exact Nat.lt_succ_self _
    · exact absurd hget.symm (Option.some_ne_none sender)
  · rw [HashMap.get_insert, hsenders] at hget
    split at hget
    · next hjob => exact ⟨hjob, (Option.some.inj hget).symm, h.fresh _ le_rfl⟩
    · exact absurd hget.symm (Option.some_ne_none sender)
  · exact HashMap.get_insert_self _ _ _
  · exact absurd (hresult.symm.trans (h.fresh _ le_rfl)) (Option.some_ne_none result)

/-- Every move keeps a sound state sound. -/
theorem sound_step {s s' : State J} {e : Event J} (h : Sound s) (hstep : step s e = some s') :
    Sound s' := by
  have hattuned := h.attuned
  rw [Attuned] at hattuned
  -- An answer that is an error is nobody's result.
  have hwrong : ∀ e : Error, ∀ jobPath removed,
      Answer.Own (⟨jobPath, removed, .error e⟩ : Answer J) :=
    fun e _ _ r hr => by cases hr
  cases moved_of_step hstep with
  | request hm =>
      rw [hm] at hattuned
      exact ⟨h.signals, h.stopped, h.fresh, h.issued, hattuned, h.own⟩
  | refuse hm =>
      rw [hm] at hattuned
      exact ⟨h.signals, h.stopped, h.fresh, h.issued, hattuned, h.own⟩
  | createJob hm =>
      rw [hm] at hattuned
      exact ⟨h.signals, h.stopped, h.fresh, h.issued, hattuned, h.own⟩
  | otherJob => exact ⟨h.signals, h.stopped, h.fresh, h.issued, h.attuned, h.own⟩
  | removeJob hnew => exact h.removeJob hnew
  | unreadable hs =>
      refine ⟨fun job res hmem => ?_, fun hstopped => absurd hstopped hs, h.fresh, h.issued,
        h.attuned, h.own⟩
      refine h.signals job res ?_
      simpa only [List.mem_append, List.mem_singleton, reduceCtorEq, or_false] using hmem
  | endStream hend => exact h.endStream hend
  | reply hm =>
      rw [hm] at hattuned
      refine ⟨h.signals, h.stopped, h.fresh, h.issued, ⟨?_, hattuned.2⟩, h.own⟩
      dsimp only
      rw [hattuned.1, List.nil_append]
  | takeSignal hstream => exact sound_deliver h hstream
  | skipSignal hstream =>
      refine ⟨fun job res hmem => h.signals job res ?_, fun hs => ?_, h.fresh, h.issued,
        h.attuned, h.own⟩
      · rw [hstream]
        exact List.mem_cons_of_mem _ hmem
      · rw [(h.stopped hs).1] at hstream
        exact absurd hstream.symm (List.cons_ne_nil _ _)
  | handleWatch hmailbox hm => exact h.handleWatch hmailbox hm
  | @handleCancel jobPath _ _ _ hmailbox hm =>
      rw [hm, hmailbox] at hattuned
      rcases hattuned with ⟨hcancel, hsenders⟩
      rcases message_of_mailbox hcancel with ⟨-, hsame, hempty⟩
      -- The cancelled sender was the last one.
      have hgone : ∀ job, HashMap.get (s.senders.erase jobPath) job = none := by
        intro job
        rw [HashMap.get_erase]
        split
        · rfl
        · next hne => exact hsenders job (Message.cancelWatchSignal.inj hsame ▸ hne)
      exact h.answer hempty hgone fun _ hr => Or.inl (Except.ok.inj hr).symm
  | @receive _ _ result hm hget =>
      rw [hm] at hattuned
      rcases hattuned with ⟨hmailbox, hsenders, -, hresult⟩
      refine h.answer hmailbox (fun job => ?_) fun r hr => ?_
      · -- The result has been sent, so its sender is gone.
        rw [Option.eq_none_iff_forall_ne_some]
        intro sender hsender
        exact Option.some_ne_none result (hget.symm.trans (hsenders job sender hsender).2.2)
      · rw [← Except.ok.inj hr]
        exact Or.inr (hresult result hget)
  | elapse hm =>
      rw [hm] at hattuned
      rcases hattuned with ⟨hmailbox, hsenders, -, -⟩
      refine ⟨h.signals, h.stopped, h.fresh, h.issued, ⟨?_, fun job hne => ?_⟩, h.own⟩
      · dsimp only
        rw [hmailbox, List.nil_append]
      · rw [Option.eq_none_iff_forall_ne_some]
        exact fun sender hget => hne (hsenders job sender hget).1
  | loseAsking hm hs =>
      rw [hm] at hattuned
      exact h.answer (hattuned.1.trans (if_pos hs)) (h.stopped hs).2 (hwrong _ _ _)
  | loseWaiting hm hs =>
      rw [hm] at hattuned
      exact h.answer hattuned.1 (h.stopped hs).2 (hwrong _ _ _)
  | loseCancelling hm hs =>
      rw [hm] at hattuned
      exact h.answer (hattuned.1.trans (if_pos hs)) (h.stopped hs).2 (hwrong _ _ _)

theorem always_sound (es : List (Event J)) : Always step Sound (State.initial : State J) es :=
  always_of_along (C := fun _ _ => True) (fun _ _ _ h _ hstep => sound_step h hstep) sound_initial
    (along_of_forall (fun _ _ => trivial) _)

/-- Whatever the order of the moves, a call is answered with the timeout, with an
    error, or with what its own job came to. -/
theorem answer_own {s : State J} {es : List (Event J)}
    (h : exec step State.initial es = some s) : ∀ a ∈ s.answers, a.Own :=
  (always_exec (always_sound es) h).own

end Executor

end Ssam
