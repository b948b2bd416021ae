import Ssam.Lifecycle.Setup

/-!
# The Compensation of a Setup

What a cleanup after a failed setup leaves. It detaches the package and unmounts its
file system, but it waits for no task, and where one has panicked the others may be
running still: the package fs is then mounted, or the veth attached, after it has
returned.

`InTime` is the condition under which a cleanup that succeeds has undone the setup.
It has a part for each side. The detach comes after the attach in the actor's mailbox
and deletes the veth, and the package fs is unmounted after the mount task has ended,
with a mount table that can be read. The orders it asks for are given wherever no task
panics, whatever errors the tasks return.

## Main definitions

* `Compensated`: Nothing is mounted, and the veth and its address are gone.
* `KeepsPromise`: What a cleanup that has succeeded promises.
* `InTime`: The cleanup does not get ahead of the tasks, and its calls are effective.
* `Unmounts`, `Detaches`: What is kept of the two sides.

## Theorems

* `mountTask_wp`, `unmountTask_wp`: The two programs, whatever they are answered.
* `unmounts_step`, `detaches_step`: What a step in time keeps of the two sides.
* `joined_after_all`: Without a panic the cleanup begins after the tasks.
* `setup_compensated`: The promise of a run whose steps are all in time.
* `compensation_overtaken`: A panic, and a mount after the cleanup.
-/

namespace Ssam

namespace Lifecycle

open Lib Mount

variable {cfg : MountConfig}

section Promise

variable (pkgHash10 : String → String) (p : Transitioner cfg)

/-- The package's veth is not on the host, and no address is marked for it. -/
structure Detached (wired : Network.Wired) : Prop where
  veth : wired.links (Network.vethHostName pkgHash10 p.packageName) = none
  address : wired.actor.ipOf (Network.bridgeName pkgHash10 p.bridgeId)
    (Network.vethHostName pkgHash10 p.packageName) = none

/-- Nothing is left of the setup. -/
structure Compensated (s : SetupSystem) : Prop where
  unmounted : s.layers = []
  detached : p.network = true → Detached pkgHash10 p s.wired

/-- Once the tasks have ended, a cleanup that has succeeded has left nothing of the
    failed setup. -/
def KeepsPromise (s : SetupSystem) : Prop :=
  ∀ e, s.setup = some (.error e) → s.cleanup = .returned (.ok ()) → s.finished = true →
    Compensated pkgHash10 p s

/-- The mount table is not asked in vain while something is mounted. -/
def Readable (layers : List Layer) (kernel : Kernel) : Prop :=
  layers ≠ [] → ∀ site, kernel.probe site = true

/-- The network task has sent its attach, or will send none. -/
def pastAttach : Task NetnsStage → Bool
  | .running .awaitAttach => true
  | .ended _ => true
  | _ => false

/-- The detach is sent after the attach and deletes the veth, the package fs is
    unmounted after the mount task has ended, and the mount table is not asked in vain. -/
def InTime (s : SetupSystem) : SetupEvent → Prop
  | .mountGoesOn kernel => Readable s.layers kernel
  | .actorHandles host => ∀ rest, s.mailbox = .detach :: rest → host.detach.vethDeleted = true
  | .cleanupGoesOn kernel =>
      match s.cleanup with
      | .beforeDetach => pastAttach s.netns = true
      | .unmounting _ => s.mount.hasEnded = true ∧ Readable s.layers kernel
      | _ => True
  | .cleanupAskFails =>
      match s.cleanup with
      | .awaitDetach => False
      | _ => True
  | _ => True

end Promise

section Joining

variable {pkgHash10 : String → String} {p : Transitioner cfg} {s t : SetupSystem}

/-- The cleanup is called when setup has returned. -/
def Idle (s : SetupSystem) : Prop := s.setup = none → s.cleanup = .notCalled

theorem idle_step (h : Idle s) {e : SetupEvent} (hstep : setupStep pkgHash10 p s e = some t) :
    Idle t := by
  intro hnone
  rcases setup_step hstep with ⟨hsetup, hstay⟩ | ⟨r, -, hsome⟩
  · exact hstay (h (hsetup.symm.trans hnone))
  · exact absurd (hsome.symm.trans hnone) (Option.some_ne_none r)

end Joining

section Programs

variable (p : Transitioner cfg) {layers : List Layer}

/-- A mount leaves a lower part of the stack mounted wherever it is stopped, however its
    calls are answered. -/
theorem mountPkgfs_stacked (pkgName : String) (pkgfs : PackageFsMetadata cfg)
    {Q : Except Error Unit → List Layer → Prop} (hstacked : layers <:+ fullStack cfg)
    (hQ : ∀ r t, t <:+ fullStack cfg → Q r t) :
    Prog.wpUnder (Kernel.Answers fun t _ => Readable t) (fun t _ => t <:+ fullStack cfg) Q
      (mountPkgfs pkgName pkgfs) layers := by
  -- With something mounted already the table is asked first, and nothing else is done.
  by_cases hnil : layers = []
  · rw [hnil]
    exact mountPkgfs_wp pkgName pkgfs nil_stacked base_stacked (hQ _ _ List.suffix_rfl)
      (fun e => hQ _ _ nil_stacked) fun e _ => hQ _ _ base_stacked
  · exact mountPkgfs_mounted_wp pkgName pkgfs (fun _ hk => hk hnil .gate) hnil hstacked
      (hQ _ _ hstacked)

/-- An unmount that succeeds leaves nothing, and otherwise a lower part of the stack. -/
theorem unmountPkgfs_clears (pkgfs : PackageFsMetadata cfg)
    {Q : Except Error Unit → List Layer → Prop} (hstacked : layers <:+ fullStack cfg)
    (hok : Q (.ok ()) []) (herr : ∀ e t, t <:+ fullStack cfg → Q (.error e) t) :
    Prog.wpUnder (Kernel.Answers fun t _ => Readable t) (fun t _ => t <:+ fullStack cfg) Q
      (unmountPkgfs pkgfs) layers :=
  unmountPkgfs_wp pkgfs hstacked (fun _ _ hne site _ hk => hk hne site)
    (fun _ ht => ht.trans hstacked) hok fun e t ht => herr e t (ht.trans hstacked)

/-- The mount task keeps to the lower parts of the stack. -/
theorem mountTask_wp (hstacked : layers <:+ fullStack cfg) :
    Prog.wpUnder (Kernel.Answers fun t _ => Readable t) (fun t _ => t <:+ fullStack cfg)
      (fun _ t => t <:+ fullStack cfg) p.mountTask layers := by
  simp only [Transitioner.mountTask, Prog.wpUnder_context, Prog.bind_eq, Prog.wpUnder_bind,
    Prog.wpUnder_attempt]
  refine mountPkgfs_stacked p.packageName p.pkgfs hstacked fun r t ht => ?_
  cases r with
  | ok u => exact ht
  | error e =>
      rw [Prog.branch_ok, Prog.wpUnder_bind, Prog.wpUnder_context]
      -- The retry begins where the unmount has left nothing.
      refine unmountPkgfs_clears p.pkgfs ht ?_ fun e t ht => ht
      refine mountPkgfs_stacked p.packageName p.pkgfs nil_stacked fun r t ht => ?_
      cases r <;> exact ht

/-- The unmount of the cleanup leaves nothing if it succeeds. -/
theorem unmountTask_wp (hstacked : layers <:+ fullStack cfg) :
    Prog.wpUnder (Kernel.Answers fun t _ => Readable t) (fun t _ => t <:+ fullStack cfg)
      (fun r t => t <:+ fullStack cfg ∧ (r = .ok () → t = [])) p.unmountTask layers := by
  rw [Transitioner.unmountTask, Prog.wpUnder_context]
  refine unmountPkgfs_clears p.pkgfs hstacked ⟨nil_stacked, fun _ => rfl⟩ fun e t ht => ?_
  exact ⟨ht, fun h => absurd h (by simp only [reduceCtorEq, not_false_eq_true])⟩

end Programs

section Mounts

variable {pkgHash10 : String → String} {p : Transitioner cfg} {s t : SetupSystem}

/-- The mount side: the mount task keeps to lower parts of the stack, and an unmount
    that has begun comes after it and leaves nothing if it succeeds. -/
structure Unmounts (p : Transitioner cfg) (s : SetupSystem) : Prop where
  stacked : s.layers <:+ fullStack cfg
  mounting : ∀ rest, s.mount = .running rest →
    Prog.wpUnder (Kernel.Answers fun t _ => Readable t) (fun t _ => t <:+ fullStack cfg)
      (fun _ t => t <:+ fullStack cfg) rest s.layers
  unmounting : ∀ rest, s.cleanup = .unmounting rest → rest = p.unmountTask ∨
    s.mount.hasEnded = true ∧
      Prog.wpUnder (Kernel.Answers fun t _ => Readable t) (fun t _ => t <:+ fullStack cfg)
        (fun r t => t <:+ fullStack cfg ∧ (r = .ok () → t = [])) rest s.layers
  unmounted : ∀ r, s.cleanup = .returned r →
    s.mount.hasEnded = true ∧ (r = .ok () → s.layers = [])

theorem unmounts_spawned {layers : List Layer} (hstacked : layers <:+ fullStack cfg)
    (wired : Network.Wired) : Unmounts p (p.spawned layers wired) where
  stacked := hstacked
  mounting rest hrest := by
    cases hrest
    exact mountTask_wp p hstacked
  unmounting := nofun
  unmounted := nofun

/-- The step is none of the mount task or of the unmount. -/
theorem Unmounts.of_same (h : Unmounts p s) (hlayers : t.layers = s.layers)
    (hmount : t.mount = s.mount)
    (hbegun : ∀ rest, t.cleanup = .unmounting rest →
      rest = p.unmountTask ∨ s.cleanup = .unmounting rest)
    (hdone : ∀ r, t.cleanup = .returned r → s.cleanup = .returned r) : Unmounts p t where
  stacked := by
    rw [hlayers]
    exact h.stacked
  mounting := by
    rw [hmount, hlayers]
    exact h.mounting
  unmounting rest hrest := by
    rw [hmount, hlayers]
    rcases hbegun rest hrest with hnew | hold
    · exact Or.inl hnew
    · exact h.unmounting rest hold
  unmounted r hr := by
    rw [hmount, hlayers]
    exact h.unmounted r (hdone r hr)

/-- The step leaves the cleanup where it is as well. -/
theorem Unmounts.of_frame (h : Unmounts p s) (hlayers : t.layers = s.layers)
    (hmount : t.mount = s.mount) (hcleanup : t.cleanup = s.cleanup) : Unmounts p t :=
  h.of_same hlayers hmount (fun _ hrest => Or.inr (hcleanup.symm.trans hrest))
    fun _ hr => hcleanup.symm.trans hr

/-- The mount task has ended, and has left what was mounted. -/
theorem Unmounts.of_ended (h : Unmounts p s) (how : TaskEnd) :
    Unmounts p { s with mount := .ended how } where
  stacked := h.stacked
  mounting := nofun
  unmounting rest hrest := (h.unmounting rest hrest).imp_right fun hwp => ⟨rfl, hwp.2⟩
  unmounted r hr := ⟨rfl, (h.unmounted r hr).2⟩

/-- A call of the mount task, while no unmount has begun. -/
theorem Unmounts.mountCall (h : Unmounts p s) {β : Type} {c : Syscall β}
    {next : β → Mounting Unit} (hmount : s.mount = .running (.call c next)) {kernel : Kernel}
    (hread : Readable s.layers kernel) :
    Unmounts p { s with
      layers := (kernel.serve s.layers c).1
      mount := .running (next (kernel.serve s.layers c).2) } := by
  have hrest : Prog.wpUnder (Kernel.Answers fun t _ => Readable t) (fun t _ => t <:+ fullStack cfg)
      (fun _ t => t <:+ fullStack cfg) (next (kernel.serve s.layers c).2)
      (kernel.serve s.layers c).1 := (h.mounting _ hmount).2 _ _ ⟨kernel, hread, rfl⟩
  have hstacked : (kernel.serve s.layers c).1 <:+ fullStack cfg :=
    Prog.head_of_wpUnder (P := fun t => t <:+ fullStack cfg) hrest
  -- The task is running, so no unmount has begun.
  have hrunning : s.mount.hasEnded ≠ true := by
    rw [hmount]
    exact Bool.false_ne_true
  refine ⟨hstacked, ?_, fun rest hcl => ?_, fun r hr => ?_⟩
  · rintro rest ⟨⟩
    exact hrest
  · exact (h.unmounting rest hcl).imp_right fun hwp => absurd hwp.1 hrunning
  · exact absurd (h.unmounted r hr).1 hrunning

/-- A call of the unmount, after the mount task. -/
theorem Unmounts.unmountCall (h : Unmounts p s) {β : Type} {c : Syscall β}
    {next : β → Mounting Unit} (hcleanup : s.cleanup = .unmounting (.call c next))
    {kernel : Kernel} (hended : s.mount.hasEnded = true) (hread : Readable s.layers kernel) :
    Unmounts p { s with
      layers := (kernel.serve s.layers c).1
      cleanup := .unmounting (next (kernel.serve s.layers c).2) } := by
  -- The first call is the program's own, the others follow on an answer.
  have hwp : Prog.wpUnder (Kernel.Answers fun t _ => Readable t) (fun t _ => t <:+ fullStack cfg)
      (fun r t => t <:+ fullStack cfg ∧ (r = .ok () → t = [])) (.call c next) s.layers := by
    rcases h.unmounting _ hcleanup with hnew | ⟨-, hwp⟩
    · rw [hnew]
      exact unmountTask_wp p h.stacked
    · exact hwp
  have hrest : Prog.wpUnder (Kernel.Answers fun t _ => Readable t) (fun t _ => t <:+ fullStack cfg)
      (fun r t => t <:+ fullStack cfg ∧ (r = .ok () → t = []))
      (next (kernel.serve s.layers c).2) (kernel.serve s.layers c).1 :=
    hwp.2 _ _ ⟨kernel, hread, rfl⟩
  have hstacked : (kernel.serve s.layers c).1 <:+ fullStack cfg :=
    Prog.head_of_wpUnder (P := fun t => t <:+ fullStack cfg)
      (Prog.wpUnder_mono (fun _ _ ht => ht) (fun _ _ hQ => hQ.1) hrest)
  refine ⟨hstacked, fun rest hrun => ?_, ?_, nofun⟩
  · rw [show s.mount = .running rest from hrun] at hended
    exact absurd hended Bool.false_ne_true
  · rintro rest ⟨⟩
    exact Or.inr ⟨hended, hrest⟩

theorem unmounting_of_detached {c : CleanupStage} {rest : Mounting Unit}
    (h : c.detached = .unmounting rest) : c = .unmounting rest := by
  cases c <;> first | exact h | exact absurd h CleanupStage.noConfusion

theorem returned_of_detached {c : CleanupStage} {r : Except Error Unit}
    (h : c.detached = .returned r) : c = .returned r := by
  cases c <;> first | exact h | exact absurd h CleanupStage.noConfusion

theorem unmounting_of_destroyed {c : CleanupStage} {rest : Mounting Unit}
    (h : c.destroyed p = .unmounting rest) : rest = p.unmountTask ∨ c = .unmounting rest := by
  cases c with
  | awaitDestroy => exact Or.inl (CleanupStage.unmounting.inj h).symm
  | _ => exact Or.inr h

theorem returned_of_destroyed {c : CleanupStage} {r : Except Error Unit}
    (h : c.destroyed p = .returned r) : c = .returned r := by
  cases c <;> first | exact h | exact absurd h CleanupStage.noConfusion

/-- A step in time keeps the mount side. -/
theorem unmounts_step (h : Unmounts p s) {e : SetupEvent} (hin : InTime s e)
    (hstep : setupStep pkgHash10 p s e = some t) : Unmounts p t := by
  cases moved_of_step hstep with
  | mountCalls hmount => exact h.mountCall hmount hin
  | mountReturns => exact h.of_ended _
  | mountPanics => exact h.of_ended _
  | actorHandles hmail hhandled =>
      cases hhandled with
      | detach =>
          exact h.of_same rfl rfl (fun rest hrest => Or.inr (unmounting_of_detached hrest))
            fun r hr => returned_of_detached hr
      | destroyNetns =>
          exact h.of_same rfl rfl (fun rest hrest => unmounting_of_destroyed hrest)
            fun r hr => returned_of_destroyed hr
      | _ => exact h.of_frame rfl rfl rfl
  | setupFails =>
      refine h.of_same rfl rfl (fun rest hrest => ?_) fun r hr => ?_
      · dsimp only at hrest
        split at hrest
        · exact absurd hrest (by simp only [reduceCtorEq, not_false_eq_true])
        · exact Or.inl (CleanupStage.unmounting.inj hrest).symm
      · dsimp only at hr
        split at hr <;> exact absurd hr (by simp only [reduceCtorEq, not_false_eq_true])
  | unmountCalls hcleanup =>
      simp only [InTime, hcleanup] at hin
      exact h.unmountCall hcleanup hin.1 hin.2
  | unmountReturns hcleanup =>
      simp only [InTime, hcleanup] at hin
      refine ⟨h.stacked, h.mounting, nofun, ?_⟩
      rintro r' ⟨⟩
      rcases h.unmounting _ hcleanup with hnew | ⟨hended, hwp⟩
      · -- The unmount asks at least whether there is a base.
        have hwp := unmountTask_wp p h.stacked
        rw [← hnew] at hwp
        exact ⟨hin.1, hwp.2⟩
      · exact ⟨hended, hwp.2⟩
  | detachSent => exact h.of_same rfl rfl nofun nofun
  | destroySent => exact h.of_same rfl rfl nofun nofun
  | detachUnanswered => exact h.of_same rfl rfl nofun nofun
  | destroyUnanswered =>
      refine h.of_same rfl rfl ?_ nofun
      rintro rest ⟨⟩
      exact Or.inl rfl
  | _ => exact h.of_frame rfl rfl rfl

end Mounts

section Detaching

variable {pkgHash10 : String → String} {p : Transitioner cfg} {s t : SetupSystem}

/-- Whether the detach of the cleanup has been sent and answered. -/
inductive DetachStage where
  | unsent
  | sent
  | answered

def CleanupStage.detach : CleanupStage → DetachStage
  | .notCalled => .unsent
  | .beforeDetach => .unsent
  | .awaitDetach => .sent
  | _ => .answered

/-- The first detach in the mailbox is followed by no attach. -/
def LastAttached (mailbox : List NetworkRequest) : Prop :=
  ∃ before after, mailbox = before ++ .detach :: after ∧ .detach ∉ before ∧ .attach ∉ after

/-- The network side: the detach is sent when no attach can be any more, and once it is
    answered the veth is gone. -/
structure Detaches (pkgHash10 : String → String) (p : Transitioner cfg) (s : SetupSystem) :
    Prop where
  unsent : s.cleanup.detach = .unsent → .detach ∉ s.mailbox
  sent : s.cleanup.detach = .sent → pastAttach s.netns = true ∧ LastAttached s.mailbox
  answered : s.cleanup.detach = .answered → p.network = true →
    pastAttach s.netns = true ∧ .attach ∉ s.mailbox ∧ Detached pkgHash10 p s.wired

theorem detaches_spawned (layers : List Layer) (wired : Network.Wired) :
    Detaches pkgHash10 p (p.spawned layers wired) where
  unsent _ := List.not_mem_nil
  sent := nofun
  answered := nofun

/-- The step neither sends a request nor handles one, and goes back on no attach. -/
theorem Detaches.of_frame (h : Detaches pkgHash10 p s)
    (hcleanup : t.cleanup.detach = s.cleanup.detach) (hmailbox : t.mailbox = s.mailbox)
    (hnetns : pastAttach s.netns = true → pastAttach t.netns = true)
    (hwired : Detached pkgHash10 p s.wired → Detached pkgHash10 p t.wired) :
    Detaches pkgHash10 p t where
  unsent := by
    rw [hcleanup, hmailbox]
    exact h.unsent
  sent := by
    rw [hcleanup, hmailbox]
    exact fun hsent => (h.sent hsent).imp_left hnetns
  answered := by
    rw [hcleanup, hmailbox]
    intro hanswered hnetwork
    rcases h.answered hanswered hnetwork with ⟨hpast, hmail, hdetached⟩
    exact ⟨hnetns hpast, hmail, hwired hdetached⟩

/-- A detach that deletes the veth releases its address. -/
theorem detached_of_detach {wired wired' : Network.Wired} {env : Network.DetachEnv}
    (hdeleted : env.vethDeleted = true)
    (hstep : Network.wiredStep pkgHash10 wired (.detach p.detachMessage env) = some wired') :
    Detached pkgHash10 p wired' := by
  rw [← Option.some.inj hstep]
  refine ⟨?_, ?_⟩
  · dsimp only
    rw [if_pos hdeleted]
    exact Function.update_self _ _ _
  · have hrolled : wired.actor.handleDetach pkgHash10 p.detachMessage env =
        wired.actor.rollbackAttach (Network.bridgeName pkgHash10 p.bridgeId)
          (Network.vethHostName pkgHash10 p.packageName) env.managedSlaves := if_pos hdeleted
    dsimp only
    rw [hrolled]
    exact Network.ipOf_rollbackAttach _ _ _ _

/-- A message about another veth attaches nothing of this package. -/
theorem detached_elsewhere {wired wired' : Network.Wired} (h : Detached pkgHash10 p wired)
    {e : Network.WiredEvent}
    (helse : isElsewhere pkgHash10 (Network.vethHostName pkgHash10 p.packageName) e = true)
    (hstep : Network.wiredStep pkgHash10 wired e = some wired') :
    Detached pkgHash10 p wired' := by
  cases e with
  | attach msg env =>
      -- The message is about another veth, and touches the record of that one only.
      have hne : Network.vethHostName pkgHash10 p.packageName ≠
          Network.vethHostName pkgHash10 msg.pkg := Ne.symm (of_decide_eq_true helse)
      have htouch := Network.handleAttach_touches pkgHash10 wired.actor msg env.toAttachEnv
      simp only [Network.wiredStep] at hstep
      split at hstep
      · exact absurd hstep.symm (Option.some_ne_none wired')
      · rw [← Option.some.inj hstep]
        refine ⟨?_, (htouch.ipOf _ _ fun hnamed => hne hnamed.2).trans h.address⟩
        dsimp only
        split
        · exact (Network.linksAfter_ne _ _ hne).trans h.veth
        · exact h.veth
  | detach msg env =>
      have hne : Network.vethHostName pkgHash10 p.packageName ≠
          Network.vethHostName pkgHash10 msg.pkg := Ne.symm (of_decide_eq_true helse)
      have htouch := Network.handleDetach_touches pkgHash10 wired.actor msg env
      rw [← Option.some.inj hstep]
      refine ⟨?_, (htouch.ipOf _ _ fun hnamed => hne hnamed.2).trans h.address⟩
      dsimp only
      split
      · exact (Function.update_of_ne hne _ _).trans h.veth
      · exact h.veth
  | vanish veth =>
      rw [← Option.some.inj hstep]
      refine ⟨?_, h.address⟩
      -- A veth that goes away leaves the addresses as they are.
      by_cases hveth : Network.vethHostName pkgHash10 p.packageName = veth
      · rw [hveth]
        exact Function.update_self _ _ _
      · exact (Function.update_of_ne hveth _ _).trans h.veth

/-- An attach is sent while no detach has been, or where there is no network. -/
theorem Detaches.before (h : Detaches pkgHash10 p s) (hpast : pastAttach s.netns = false) :
    s.cleanup.detach = .unsent ∨ s.cleanup.detach = .answered ∧ p.network = false := by
  cases hstage : s.cleanup.detach with
  | unsent => exact Or.inl rfl
  | sent =>
      have hsent := (h.sent hstage).1
      rw [hpast] at hsent
      exact absurd hsent Bool.false_ne_true
  | answered =>
      refine Or.inr ⟨rfl, Bool.eq_false_iff.mpr fun hnetwork => ?_⟩
      have hanswered := (h.answered hstage hnetwork).1
      rw [hpast] at hanswered
      exact Bool.false_ne_true hanswered

/-- The network task sends a request. -/
theorem Detaches.of_send (h : Detaches pkgHash10 p s) (hpast : pastAttach s.netns = false)
    {m : NetworkRequest} (hm : m ≠ .detach) (netns : Task NetnsStage) :
    Detaches pkgHash10 p ({ s with netns := netns }.send m) where
  unsent hstage := by
    rw [SetupSystem.send, List.mem_append, List.mem_singleton]
    exact fun hmem => hmem.elim (h.unsent hstage) fun heq => hm heq.symm
  sent hstage := by
    rcases h.before hpast with hunsent | ⟨hanswered, -⟩
    · exact absurd (hunsent.symm.trans hstage) DetachStage.noConfusion
    · exact absurd (hanswered.symm.trans hstage) DetachStage.noConfusion
  answered hstage hnetwork := by
    rcases h.before hpast with hunsent | ⟨-, hnone⟩
    · exact absurd (hunsent.symm.trans hstage) DetachStage.noConfusion
    · exact absurd (hnone.symm.trans hnetwork) Bool.false_ne_true

/-- The actor handles a request of the network task. -/
theorem Detaches.of_handled (h : Detaches pkgHash10 p s) {m : NetworkRequest}
    {rest : List NetworkRequest} (hmail : s.mailbox = m :: rest) (hm : m ≠ .detach)
    (hcleanup : t.cleanup.detach = s.cleanup.detach) (hmailbox : t.mailbox = rest)
    (hnetns : pastAttach s.netns = true → pastAttach t.netns = true)
    (hwired : m ≠ .attach → t.wired = s.wired) : Detaches pkgHash10 p t where
  unsent := by
    rw [hcleanup, hmailbox]
    intro hstage hmem
    have hnone := h.unsent hstage
    rw [hmail] at hnone
    exact hnone (List.mem_cons_of_mem m hmem)
  sent := by
    rw [hcleanup, hmailbox]
    intro hstage
    rcases h.sent hstage with ⟨hpast, before, after, hsplit, hbefore, hafter⟩
    refine ⟨hnetns hpast, ?_⟩
    -- The handled request stood before the detach.
    cases before with
    | nil => exact absurd (List.cons.inj (hmail.symm.trans hsplit)).1 hm
    | cons b before =>
        have hrest := (List.cons.inj (hmail.symm.trans hsplit)).2
        exact ⟨before, after, hrest, fun hmem => hbefore (List.mem_cons_of_mem b hmem), hafter⟩
  answered := by
    rw [hcleanup, hmailbox]
    intro hstage hnetwork
    rcases h.answered hstage hnetwork with ⟨hpast, hnone, hdetached⟩
    rw [hmail] at hnone
    refine ⟨hnetns hpast, fun hmem => hnone (List.mem_cons_of_mem m hmem), ?_⟩
    rw [hwired fun heq => hnone (heq ▸ List.mem_cons_self)]
    exact hdetached

theorem CleanupStage.eq_awaitDetach {c : CleanupStage} (h : c.detach = .sent) :
    c = .awaitDetach := by
  cases c <;> first | rfl | exact absurd h DetachStage.noConfusion

/-- The actor handles the detach of the cleanup, and deletes the veth. -/
theorem Detaches.of_detach (h : Detaches pkgHash10 p s) {rest : List NetworkRequest}
    (hmail : s.mailbox = .detach :: rest) {host : HostAnswers}
    (hdeleted : host.detach.vethDeleted = true) {wired : Network.Wired}
    (hwired : Network.wiredStep pkgHash10 s.wired (.detach p.detachMessage host.detach) =
      some wired) :
    Detaches pkgHash10 p { s with
      mailbox := rest
      wired := wired
      cleanup := s.cleanup.detached } := by
  have hdetached : Detached pkgHash10 p wired := detached_of_detach hdeleted hwired
  cases hstage : s.cleanup.detach with
  | unsent =>
      have hnone := h.unsent hstage
      rw [hmail] at hnone
      exact absurd List.mem_cons_self hnone
  | sent =>
      rcases h.sent hstage with ⟨hpast, before, after, hsplit, hbefore, hafter⟩
      have hcleanup : s.cleanup = .awaitDetach := CleanupStage.eq_awaitDetach hstage
      -- The first detach of the mailbox is the one that is handled.
      have hrest : rest = after := by
        cases before with
        | nil => exact (List.cons.inj (hmail.symm.trans hsplit)).2
        | cons b before =>
            have hb := (List.cons.inj (hmail.symm.trans hsplit)).1
            exact absurd (hb ▸ List.mem_cons_self) hbefore
      rw [hcleanup]
      refine ⟨nofun, nofun, fun _ _ => ⟨hpast, ?_, hdetached⟩⟩
      rw [hrest]
      exact hafter
  | answered =>
      have hsame : s.cleanup.detached = s.cleanup := by
        cases hcleanup : s.cleanup with
        | awaitDetach =>
            rw [hcleanup] at hstage
            exact absurd hstage DetachStage.noConfusion
        | _ => rfl
      rw [hsame]
      refine ⟨fun hnew => ?_, fun hnew => ?_, fun _ hnetwork => ?_⟩
      · exact absurd (hstage.symm.trans hnew) DetachStage.noConfusion
      · exact absurd (hstage.symm.trans hnew) DetachStage.noConfusion
      · rcases h.answered hstage hnetwork with ⟨hpast, hnone, -⟩
        rw [hmail] at hnone
        exact ⟨hpast, fun hmem => hnone (List.mem_cons_of_mem _ hmem), hdetached⟩

/-- The cleanup begins: its detach is still to be sent, if there is a network. -/
theorem Detaches.of_joined (h : Detaches pkgHash10 p s) (hidle : s.cleanup = .notCalled)
    (e : Error) :
    Detaches pkgHash10 p { s with
      setup := some (.error e)
      cleanup := if p.network then .beforeDetach else .unmounting p.unmountTask } := by
  have hunsent : .detach ∉ s.mailbox := h.unsent (by rw [hidle]; rfl)
  cases hnetwork : p.network with
  | true => exact ⟨fun _ => hunsent, nofun, nofun⟩
  | false =>
      refine ⟨nofun, nofun, fun _ hsome => ?_⟩
      exact absurd (hnetwork.symm.trans hsome) Bool.false_ne_true

theorem pastAttach_netnsCreated (created : Except Error Unit) {netns : Task NetnsStage}
    (h : pastAttach netns = true) : pastAttach (netnsCreated created netns) = true := by
  unfold netnsCreated
  split
  · exact absurd h Bool.false_ne_true
  · exact h

theorem pastAttach_netnsAttached (answer : Except Error Unit) {netns : Task NetnsStage}
    (h : pastAttach netns = true) : pastAttach (netnsAttached answer netns) = true := by
  unfold netnsAttached
  split
  · rfl
  · exact h

/-- The handling of a request, a detach that is effective or another. -/
theorem Detaches.handle (h : Detaches pkgHash10 p s) {m : NetworkRequest}
    {rest : List NetworkRequest} (hmail : s.mailbox = m :: rest) {host : HostAnswers}
    (hdeleted : m = .detach → host.detach.vethDeleted = true)
    (hhandled : Handled pkgHash10 p { s with mailbox := rest } host m t) :
    Detaches pkgHash10 p t := by
  cases hhandled with
  | createNetns =>
      exact h.of_handled hmail NetworkRequest.noConfusion rfl rfl
        (fun hpast => pastAttach_netnsCreated _ hpast) fun _ => rfl
  | attach =>
      exact h.of_handled hmail NetworkRequest.noConfusion rfl rfl
        (fun hpast => pastAttach_netnsAttached _ hpast) fun hne => absurd rfl hne
  | detach hwired => exact h.of_detach hmail (hdeleted rfl) hwired
  | destroyNetns =>
      refine h.of_handled hmail NetworkRequest.noConfusion ?_ rfl id fun _ => rfl
      cases hcleanup : s.cleanup <;> rfl

/-- A step in time keeps the network side. -/
theorem detaches_step (h : Detaches pkgHash10 p s) (hidle : Idle s) {e : SetupEvent}
    (hin : InTime s e) (hstep : setupStep pkgHash10 p s e = some t) : Detaches pkgHash10 p t := by
  cases moved_of_step hstep with
  | netnsSends hnetns hstage hm =>
      refine h.of_send ?_ hm _
      rw [hnetns]
      rcases hstage with rfl | rfl <;> rfl
  | netnsReturns => exact h.of_frame rfl rfl (fun _ => rfl) id
  | netnsAskFails => exact h.of_frame rfl rfl (fun _ => rfl) id
  | netnsPanics => exact h.of_frame rfl rfl (fun _ => rfl) id
  | actorHandles hmail hhandled =>
      exact h.handle hmail (fun heq => hin _ (heq ▸ hmail)) hhandled
  | elsewhere helse hwired =>
      exact h.of_frame rfl rfl id fun hdetached => detached_elsewhere hdetached helse hwired
  | @setupFails e hnone => exact h.of_joined (hidle hnone) e
  | detachSent hcleanup =>
      -- The attach is in the mailbox before the detach, or will never be.
      simp only [InTime, hcleanup] at hin
      refine ⟨nofun, fun _ => ⟨hin, ?_⟩, nofun⟩
      exact ⟨s.mailbox, [], rfl, h.unsent (by rw [hcleanup]; rfl), List.not_mem_nil⟩
  | destroySent hcleanup =>
      refine ⟨nofun, nofun, fun _ hnetwork => ?_⟩
      rcases h.answered (by rw [hcleanup]; rfl) hnetwork with ⟨hpast, hmail, hdetached⟩
      refine ⟨hpast, ?_, hdetached⟩
      rw [SetupSystem.send, List.mem_append, List.mem_singleton]
      exact fun hmem => hmem.elim hmail NetworkRequest.noConfusion
  | unmountCalls hcleanup => exact h.of_frame (by rw [hcleanup]; rfl) rfl id id
  | unmountReturns hcleanup => exact h.of_frame (by rw [hcleanup]; rfl) rfl id id
  | detachUnanswered hcleanup =>
      simp only [InTime, hcleanup] at hin
  | destroyUnanswered hcleanup => exact h.of_frame (by rw [hcleanup]; rfl) rfl id id
  | _ => exact h.of_frame rfl rfl id id

end Detaching

/-- Where both sides are kept a cleanup that has succeeded has left nothing. -/
theorem keepsPromise_of_sides {pkgHash10 : String → String} {p : Transitioner cfg}
    {s : SetupSystem} (hmounts : Unmounts p s) (hnetwork : Detaches pkgHash10 p s) :
    KeepsPromise pkgHash10 p s := by
  intro e _ hcleanup _
  refine ⟨(hmounts.unmounted _ hcleanup).2 rfl, fun hmanaged => ?_⟩
  exact (hnetwork.answered (by rw [hcleanup]; rfl) hmanaged).2.2

section Calm

variable {pkgHash10 : String → String} {p : Transitioner cfg} {s t : SetupSystem}

/-- The cleanup's detach deletes the veth, and the mount table is not asked in vain. -/
def Effective (s : SetupSystem) : SetupEvent → Prop
  | .mountGoesOn kernel => Readable s.layers kernel
  | .actorHandles host => ∀ rest, s.mailbox = .detach :: rest → host.detach.vethDeleted = true
  | .cleanupGoesOn kernel =>
      match s.cleanup with
      | .unmounting _ => Readable s.layers kernel
      | _ => True
  | .cleanupAskFails =>
      match s.cleanup with
      | .awaitDetach => False
      | _ => True
  | _ => True

/-- No task has panicked, and setup has not returned before all of them ended. -/
structure JoinedAll (s : SetupSystem) : Prop where
  sound : s.panic = none
  after : s.setup ≠ none → s.finished = true

/-- Without a panic the cleanup begins after the tasks. -/
theorem joined_after_all (h : JoinedAll s) {e : SetupEvent} (hcalm : NoPanic e)
    (hstep : setupStep pkgHash10 p s e = some t) : JoinedAll t := by
  have hkept := tasksKept_step hcalm hstep
  refine ⟨?_, fun hsome => ?_⟩
  · rcases panic_eq_none.mp h.sound with ⟨hexecutor, hmount, hprepare, hnetns⟩
    exact panic_eq_none.mpr ⟨hkept.executor.sound hexecutor, hkept.mount.sound hmount,
      hkept.prepare.sound hprepare, hkept.netns.sound hnetns⟩
  · -- All had ended when the join returned, and no step undoes that.
    have hfinished : s.finished = true := by
      rcases setup_step hstep with ⟨hsetup, -⟩ | ⟨r, hjoined, -⟩
      · exact h.after (hsetup ▸ hsome)
      · exact finished_of_joined h.sound hjoined
    rcases finished_iff.mp hfinished with ⟨hexecutor, hmount, hprepare, hnetns⟩
    exact finished_iff.mpr ⟨hkept.executor.ended hexecutor, hkept.mount.ended hmount,
      hkept.prepare.ended hprepare, hkept.netns.ended hnetns⟩

theorem pastAttach_of_ended {netns : Task NetnsStage} (h : netns.hasEnded = true) :
    pastAttach netns = true := by
  cases netns with
  | running stage => exact absurd h Bool.false_ne_true
  | ended how => rfl

/-- Where the cleanup begins after the tasks, an effective step is in time. -/
theorem inTime_of_effective (hidle : Idle s) (h : JoinedAll s) {e : SetupEvent}
    (heffective : Effective s e) : InTime s e := by
  -- The cleanup is called by a setup that has returned.
  have hfinished : s.cleanup ≠ .notCalled → s.mount.hasEnded = true ∧ s.netns.hasEnded = true := by
    intro hcleanup
    rcases finished_iff.mp (h.after fun hnone => hcleanup (hidle hnone)) with
      ⟨-, hmount, -, hnetns⟩
    exact ⟨hmount, hnetns⟩
  cases e with
  | cleanupGoesOn kernel =>
      simp only [InTime]
      simp only [Effective] at heffective
      cases hcleanup : s.cleanup with
      | beforeDetach => exact pastAttach_of_ended (hfinished (hcleanup ▸ nofun)).2
      | unmounting rest =>
          rw [hcleanup] at heffective
          exact ⟨(hfinished (hcleanup ▸ nofun)).1, heffective⟩
      | _ => trivial
  | mountGoesOn kernel => exact heffective
  | actorHandles host => exact heffective
  | cleanupAskFails => exact heffective
  | _ => trivial

end Calm

/-- From the spawning of the tasks on, in whatever order they, the join, the actor and
    the cleanup make their steps and whatever they return: if every step is in time, a
    cleanup that has succeeded has left nothing of a failed setup. It is enough that no
    task panics and the cleanup's calls are effective. -/
theorem setup_compensated (pkgHash10 : String → String) (p : Transitioner cfg)
    {layers : List Layer} (hstacked : layers <:+ fullStack cfg) (wired : Network.Wired)
    (es : List SetupEvent) :
    (Along (setupStep pkgHash10 p) InTime (p.spawned layers wired) es →
        Always (setupStep pkgHash10 p) (KeepsPromise pkgHash10 p) (p.spawned layers wired) es) ∧
      ((∀ e ∈ es, NoPanic e) →
        Along (setupStep pkgHash10 p) Effective (p.spawned layers wired) es →
        Always (setupStep pkgHash10 p) (KeepsPromise pkgHash10 p) (p.spawned layers wired) es) := by
  have hkeeps : Along (setupStep pkgHash10 p) InTime (p.spawned layers wired) es →
      Always (setupStep pkgHash10 p) (KeepsPromise pkgHash10 p) (p.spawned layers wired) es := by
    intro h
    have hsides : Always (setupStep pkgHash10 p)
        (fun s => Idle s ∧ Unmounts p s ∧ Detaches pkgHash10 p s) (p.spawned layers wired) es :=
      always_of_along
        (fun s e t hs hin hstep => ⟨idle_step hs.1 hstep, unmounts_step hs.2.1 hin hstep,
          detaches_step hs.2.2 hs.1 hin hstep⟩)
        ⟨fun _ => rfl, unmounts_spawned hstacked wired, detaches_spawned layers wired⟩ h
    exact always_mono (fun s hs => keepsPromise_of_sides hs.2.1 hs.2.2) hsides
  -- Without a panic a step that is effective is in time.
  refine ⟨hkeeps, fun hcalm heffective => hkeeps ?_⟩
  have hjoined : Always (setupStep pkgHash10 p) (fun s => Idle s ∧ JoinedAll s)
      (p.spawned layers wired) es :=
    always_of_along
      (fun s e t hs hcalm hstep => ⟨idle_step hs.1 hstep, joined_after_all hs.2 hcalm hstep⟩)
      ⟨fun _ => rfl, rfl, nofun⟩ (along_of_forall hcalm _)
  exact along_mono (fun s e hs heff => inTime_of_effective hs.1 hs.2 heff) hjoined heffective

/-- A host on which everything asked of it goes well. -/
def fineHost : HostAnswers where
  attach := { Network.freshHost with staleDeleted := true, created := true, removed := true }
  detach := ⟨true, false⟩
  created := .ok ()

/-- The mount task, undisturbed, and the network task. -/
def mountAndAttach : List SetupEvent :=
  List.replicate 11 (.mountGoesOn .fine) ++
    [.netnsGoesOn, .actorHandles fineHost, .netnsGoesOn, .actorHandles fineHost]

/-- The cleanup of a package that `layers` are mounted of. -/
def cleanupCalls (layers : Nat) : List SetupEvent :=
  [.cleanupGoesOn .fine, .actorHandles fineHost, .cleanupGoesOn .fine, .actorHandles fineHost] ++
    List.replicate (layers + 3) (.cleanupGoesOn .fine)

/-- The bundle cannot be prepared, and all that was set up is taken back. -/
def failedBundle : List SetupEvent :=
  [.executorEnds (.returned (.ok ())), .prepareEnds (.returned (.error ["no bundle"]))] ++
    mountAndAttach ++ [.joinReturns] ++ cleanupCalls 2

theorem calm_failedBundle : ∀ e ∈ failedBundle, NoPanic e := by
  simp only [failedBundle, mountAndAttach, cleanupCalls, List.replicate, List.cons_append,
    List.nil_append, List.forall_mem_cons, NoPanic, List.not_mem_nil, and_true,
    IsEmpty.forall_iff, implies_true]

theorem effective_failedBundle : ∀ e ∈ failedBundle, ∀ s, Effective s e := by
  have hmount : ∀ s, Effective s (.mountGoesOn .fine) := fun _ _ _ => rfl
  have hactor : ∀ s, Effective s (.actorHandles fineHost) := fun _ _ _ => rfl
  have hcleanup : ∀ s, Effective s (.cleanupGoesOn .fine) := by
    intro s
    simp only [Effective]
    split
    · exact fun _ _ => rfl
    · trivial
  have hexecutor : ∀ s how, Effective s (.executorEnds how) := fun _ _ => trivial
  have hprepare : ∀ s how, Effective s (.prepareEnds how) := fun _ _ => trivial
  have hnetns : ∀ s, Effective s .netnsGoesOn := fun _ => trivial
  have hjoin : ∀ s, Effective s .joinReturns := fun _ => trivial
  simp only [failedBundle, mountAndAttach, cleanupCalls, List.replicate, List.cons_append,
    List.nil_append, List.forall_mem_cons, hmount, hactor, hcleanup, hexecutor, hprepare, hnetns,
    hjoin, List.not_mem_nil, and_true, IsEmpty.forall_iff, implies_true]

theorem setup_compensated_failedBundle : ∃ s t,
    Network.NetworkActor.new Network.poolConfig = .ok s ∧
      exec (setupStep Network.sampleHash transitionerA)
        (transitionerA.spawned [] ⟨s, fun _ => none⟩) failedBundle = some t ∧
      t.cleanup = .returned (.ok ()) ∧
      Always (setupStep Network.sampleHash transitionerA)
        (KeepsPromise Network.sampleHash transitionerA)
        (transitionerA.spawned [] ⟨s, fun _ => none⟩) failedBundle := by
  refine ⟨_, _, rfl, rfl, rfl, ?_⟩
  refine (setup_compensated Network.sampleHash transitionerA nil_stacked _ _).2
    calm_failedBundle ?_
  refine along_mono (P := fun _ => True) (fun s e _ he => he s) ?_
    (along_of_forall effective_failedBundle _)
  exact always_of_invariant (fun _ _ _ _ _ => trivial) (fun _ h => h) trivial _

/-- The preparation of the bundle panics, and the cleanup ends before the package is
    mounted and attached. -/
def overtakenRun : List SetupEvent :=
  [.prepareEnds (.panicked ["task panicked"]), .joinReturns] ++ cleanupCalls 0 ++
    [.executorEnds (.returned (.ok ()))] ++ mountAndAttach

theorem compensation_overtaken : ∃ s t, Network.NetworkActor.new Network.poolConfig = .ok s ∧
    exec (setupStep Network.sampleHash transitionerA)
      (transitionerA.spawned [] ⟨s, fun _ => none⟩) overtakenRun = some t ∧
    ¬ KeepsPromise Network.sampleHash transitionerA t := by
  refine ⟨_, _, rfl, rfl, fun h => ?_⟩
  exact absurd (h _ rfl rfl rfl).unmounted (by decide)

end Lifecycle

end Ssam
