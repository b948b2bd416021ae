import Ssam.Executor.JobWatcher

/-!
# Lost Job Results

When a call gets the result of its job, and when that is lost.

The watcher passes a result on to whoever is registered for the job at the moment it
takes the signal, and forgets it if nobody is. The manager registers only after systemd
has answered with the job's path, and by then the job may be done and its signal
taken. The manager then waits until its timer runs out.

`InTime` says of a run that this does not happen: the watcher takes the signal of a
call's job after it has handled the registration, and before the timer runs out.

## Main definitions

* `Faithful`: A job that was done in time has its result returned.
* `InTime`: The condition on a move.

## Theorems

* `timely_step`: A move in time keeps every call's result on its way.
* `results_returned`: Under the condition no result is lost.
* `result_lost`: The signal is taken before the registration.
-/

namespace Ssam

namespace Executor

open Lib Lifecycle

variable {J : Type} [DecidableEq J]

/-- A job that was done before the wait was over has its result returned. -/
def Answer.Faithful (a : Answer J) : Prop :=
  ∀ res, a.removed = some res → a.result = .ok (.ofSignal res)

/-- No result is lost. -/
def Faithful (s : State J) : Prop := ∀ a ∈ s.answers, a.Faithful

/-- The job of the call that is being handled. -/
def Manager.job : Manager J → Option J
  | .idle | .calling => none
  | .replied jobPath | .asking jobPath | .waiting jobPath _ | .cancelling jobPath _ => some jobPath

/-- The watcher takes no signal of a call's job before it has handled the registration,
    none is left to be taken when the timer runs out, and no call's job is removed
    once the stream has ended. -/
def InTime (s : State J) : Event J → Prop
  | .onRun => ∀ job res, s.stream.head? = some (some (job, res)) →
      s.manager ≠ .replied job ∧ s.manager ≠ .asking job
  | .elapse => ∀ job recv res, s.manager = .waiting job recv → some (job, res) ∉ s.stream
  | .removeJob job _ => s.stopped = true → s.manager.job ≠ some job
  | _ => True

/-- The result of the call's job is in the stream or in the channel, if there is one. -/
def Pending (s : State J) : Prop :=
  match s.manager with
  | .idle | .calling => True
  | .replied jobPath | .asking jobPath =>
      ∀ res, s.removed.get jobPath = some res → some (jobPath, res) ∈ s.stream
  | .waiting jobPath recv => s.channels.get recv = none →
      ∀ res, s.removed.get jobPath = some res → some (jobPath, res) ∈ s.stream
  | .cancelling _ removed => removed = none

/-- The invariant of the runs in which all is in time. -/
structure Timely (s : State J) : Prop where
  sound : Sound s
  pending : Pending s
  faithful : Faithful s

theorem timely_initial : Timely (State.initial : State J) where
  sound := sound_initial
  pending := trivial
  faithful := by simp only [Faithful, State.initial, List.not_mem_nil, false_imp_iff, implies_true]

/-- A signal that is appended to the stream is the only one that is new. -/
theorem Pending.removeJob {s : State J} (h : Pending s) {job : J} {result : String}
    (hstopped : s.stopped = true → s.manager.job ≠ some job) :
    Pending { s with
      removed := s.removed.insert job result
      stream := if s.stopped then s.stream else s.stream ++ [some (job, result)] } := by
  -- The signal is sent as the job is removed, unless nobody reads the stream.
  have hpath : ∀ jobPath, s.manager.job = some jobPath →
      (∀ res, s.removed.get jobPath = some res → some (jobPath, res) ∈ s.stream) →
      ∀ res, HashMap.get (s.removed.insert job result) jobPath = some res →
        some (jobPath, res) ∈ if s.stopped then s.stream else s.stream ++ [some (job, result)] := by
    intro jobPath hjob hmem res hres
    rw [HashMap.get_insert] at hres
    split at hres
    · next heq =>
        rw [heq] at hjob ⊢
        rw [if_neg fun hs => hstopped hs hjob, ← Option.some.inj hres]
        exact List.mem_append_right _ List.mem_cons_self
    · split
      · exact hmem res hres
      · exact List.mem_append_left _ (hmem res hres)
  rw [Pending] at h ⊢
  dsimp only
  cases hm : s.manager with
  | idle => trivial
  | calling => trivial
  | replied jobPath =>
      rw [hm] at h
      exact hpath jobPath (by rw [hm]; rfl) h
  | asking jobPath =>
      rw [hm] at h
      exact hpath jobPath (by rw [hm]; rfl) h
  | waiting jobPath recv =>
      rw [hm] at h
      exact fun hnone => hpath jobPath (by rw [hm]; rfl) (h hnone)
  | cancelling jobPath removed =>
      rw [hm] at h
      exact h

/-- A signal taken is not the one a call waits for, or is passed on. -/
theorem Pending.deliver {s : State J} (h : Pending s) (hsound : Sound s) {job : J}
    {result : String} {stream : List (Option (J × String))}
    (hstream : s.stream = some (job, result) :: stream)
    (htime : s.manager ≠ .replied job ∧ s.manager ≠ .asking job) :
    Pending ({ s with stream := stream }.deliver job (.ofSignal result)) := by
  -- A signal of another job stays where it is in the stream.
  have hother : ∀ jobPath, jobPath ≠ job →
      (∀ res, s.removed.get jobPath = some res → some (jobPath, res) ∈ s.stream) →
      ∀ res, s.removed.get jobPath = some res → some (jobPath, res) ∈ stream := by
    intro jobPath hne hmem res hres
    have hin := hmem res hres
    rw [hstream, List.mem_cons, Option.some.injEq, Prod.mk.injEq] at hin
    exact hin.resolve_left fun heq => hne heq.1
  have hattuned := hsound.attuned
  -- Somebody reads the stream, for a stopped actor has dropped it.
  have hstopped : s.stopped = false := by
    by_contra hs
    have hnil := (hsound.stopped (Bool.not_eq_false _ ▸ hs)).1
    rw [hstream] at hnil
    exact List.cons_ne_nil _ _ hnil
  rw [Pending] at h ⊢
  rw [Attuned] at hattuned
  simp only [deliver_manager, deliver_stream, deliver_removed]
  cases hm : s.manager with
  | idle => trivial
  | calling => trivial
  | replied jobPath =>
      rw [hm] at h htime
      exact hother jobPath (fun heq => htime.1 (by rw [heq])) h
  | asking jobPath =>
      rw [hm] at h htime
      exact hother jobPath (fun heq => htime.2 (by rw [heq])) h
  | waiting jobPath recv =>
      rw [hm] at h hattuned
      intro hnone
      rcases deliver_channels hnone with ⟨hempty, hregistered⟩
      refine hother jobPath (fun heq => hregistered ?_) (h hempty)
      -- The manager is registered for its job, so the signal was for it.
      rw [← heq]
      exact hattuned.2.2.1 hempty hstopped
  | cancelling jobPath removed =>
      rw [hm] at h
      exact h

/-- A call is answered faithfully if the job was not done when the wait was over, or
    with its result. -/
theorem Timely.answer {s s' : State J} (h : Timely s) (hsound : Sound s') {a : Answer J}
    (hmanager : s'.manager = .idle) (hanswers : s'.answers = a :: s.answers)
    (ha : a.Faithful) : Timely s' where
  sound := hsound
  pending := by
    rw [Pending, hmanager]
    trivial
  faithful := by
    intro b hb
    rw [hanswers] at hb
    rcases List.mem_cons.mp hb with rfl | hb
    · exact ha
    · exact h.faithful b hb

/-- A result is on its way as long as no signal of a job leaves the stream. -/
theorem Pending.of_stream {s : State J} (h : Pending s) {stream : List (Option (J × String))}
    (hstream : ∀ job res, some (job, res) ∈ s.stream → some (job, res) ∈ stream) :
    Pending { s with stream := stream } := by
  rw [Pending] at h ⊢
  dsimp only
  split at h
  · trivial
  · trivial
  · exact fun res hres => hstream _ _ (h res hres)
  · exact fun res hres => hstream _ _ (h res hres)
  · exact fun hnone res hres => hstream _ _ (h hnone res hres)
  · exact h

/-- A move in time keeps all in time. -/
theorem timely_step {s s' : State J} {e : Event J} (h : Timely s) (htime : InTime s e)
    (hstep : step s e = some s') : Timely s' := by
  have hsound := sound_step h.sound hstep
  have hpending := h.pending
  have hfaithful := h.faithful
  have hattuned := h.sound.attuned
  rw [Pending] at hpending
  rw [Attuned] at hattuned
  -- Once the watcher has stopped nothing is left in the stream.
  have hgone : s.stopped = true → ∀ jobPath,
      (∀ res, s.removed.get jobPath = some res → some (jobPath, res) ∈ s.stream) →
      ∀ result, Answer.Faithful ⟨jobPath, s.removed.get jobPath, result⟩ := by
    intro hs jobPath hmem result res hres
    have hin := hmem res hres
    rw [(h.sound.stopped hs).1] at hin
    exact absurd hin List.not_mem_nil
  cases moved_of_step hstep with
  | request => exact ⟨hsound, trivial, hfaithful⟩
  | refuse => exact ⟨hsound, trivial, hfaithful⟩
  | createJob hm hnew =>
      refine ⟨hsound, fun res hres => ?_, hfaithful⟩
      exact absurd (hres.symm.trans hnew) (Option.some_ne_none res)
  | otherJob => exact ⟨hsound, h.pending, hfaithful⟩
  | removeJob => exact ⟨hsound, h.pending.removeJob htime, hfaithful⟩
  | unreadable =>
      exact ⟨hsound, h.pending.of_stream fun _ _ hmem => List.mem_append_left _ hmem, hfaithful⟩
  | endStream => exact ⟨hsound, h.pending, hfaithful⟩
  | reply hm =>
      rw [hm] at hpending
      exact ⟨hsound, hpending, hfaithful⟩
  | @takeSignal job result _ hstream =>
      refine ⟨hsound, h.pending.deliver h.sound hstream (htime job result ?_), ?_⟩
      · rw [hstream]
        rfl
      · rw [Faithful, deliver_answers]
        exact hfaithful
  | skipSignal hstream =>
      refine ⟨hsound, h.pending.of_stream fun job res hmem => ?_, hfaithful⟩
      rw [hstream, List.mem_cons] at hmem
      exact hmem.resolve_left (Option.some_ne_none _)
  | handleWatch hmailbox hm =>
      rw [hm, hmailbox] at hattuned
      rw [hm] at hpending
      have hsame := Message.watchSignal.inj (message_of_mailbox hattuned.1).2.1
      rw [hsame] at hsound ⊢
      exact ⟨hsound, fun _ => hpending, hfaithful⟩
  | handleCancel hmailbox hm =>
      rw [hm] at hpending
      refine h.answer hsound rfl rfl fun res hres => ?_
      exact absurd (hres.symm.trans hpending) (Option.some_ne_none res)
  | @receive _ _ result hm hget =>
      rw [hm] at hattuned
      rcases hattuned.2.2.2 result hget with ⟨res, hres, rfl⟩
      refine h.answer hsound rfl rfl fun res' hres' => ?_
      rw [Option.some.inj (hres.symm.trans hres')]
  | @elapse jobPath recv hm hnone =>
      rw [hm] at hpending
      refine ⟨hsound, ?_, hfaithful⟩
      rw [Pending]
      dsimp only
      rw [Option.eq_none_iff_forall_ne_some]
      exact fun res hres => htime jobPath recv res hm (hpending hnone res hres)
  | @loseAsking jobPath hm hs =>
      rw [hm] at hpending
      exact h.answer hsound rfl rfl (hgone hs jobPath hpending _)
  | @loseWaiting jobPath recv hm hs hnone =>
      rw [hm] at hpending
      exact h.answer hsound rfl rfl (hgone hs jobPath (hpending hnone) _)
  | loseCancelling hm =>
      rw [hm] at hpending
      refine h.answer hsound rfl rfl fun res hres => ?_
      exact absurd (hres.symm.trans hpending) (Option.some_ne_none res)

/-- In every run whose moves are in time, each job that is done before the wait for it
    is over has its result returned. -/
theorem results_returned (es : List (Event J))
    (h : Along step InTime (State.initial : State J) es) :
    Always step Faithful (State.initial : State J) es := by
  have htimely : Always step Timely (State.initial : State J) es :=
    always_of_along (fun _ _ _ hs hc hstep => timely_step hs hc hstep) timely_initial h
  exact always_mono (fun _ hs => Timely.faithful hs) htimely

theorem results_returned_slow :
    Always step Faithful (State.initial : State Nat)
      [.request, .createJob 7, .removeJob 7 "done", .reply, .handle, .onRun, .receive] :=
  -- The job is done while the call is answered, but the watcher takes the signal late.
  results_returned [.request, .createJob 7, .removeJob 7 "done", .reply, .handle, .onRun, .receive]
    (along_cons rfl trivial <| along_cons rfl trivial <|
      along_cons rfl (fun h => absurd h Bool.false_ne_true) <| along_cons rfl trivial <|
      along_cons rfl trivial <| along_cons rfl (fun _ _ _ => ⟨nofun, nofun⟩) <|
      along_cons rfl trivial trivial)

/-- The watcher takes the signal before the registration, and the manager waits in
    vain. -/
theorem result_lost : ¬ ∀ es : List (Event Nat), Always step Faithful State.initial es := by
  intro h
  have hrun : ∃ s, exec step State.initial [.request, .createJob 7, .removeJob 7 "done", .onRun,
      .reply, .handle, .elapse, .handle] = some s ∧
      s.answers = [⟨(7 : Nat), some "done", .ok .timeout⟩] := ⟨_, rfl, rfl⟩
  rcases hrun with ⟨s, hs, hanswers⟩
  have hfaithful := always_exec (h _) hs
  rw [Faithful, hanswers] at hfaithful
  have hresult := hfaithful _ List.mem_cons_self "done" rfl
  exact absurd (Except.ok.inj hresult) (ofSignal_ne_timeout "done").symm

end Executor

end Ssam
