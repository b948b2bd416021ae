import Ssam.Lib.Tasks
import Ssam.Mount.Devices

/-!
# The Devices of a Host

What the operations on package file systems act on: the loop devices, the mapped devices
and the mounts of a host, and what the calls do to them. A call may fail at any time, and
then it does nothing. What a call does that is answered is what the kernel documents of
it.

A loop device that is detached while it is open, or while the table of a mapped device
names it, goes on until it no longer is. A mapped device whose removal is deferred goes on
until nothing on it is mounted. When they go is not said.

Who attached, created or mounted something is kept beside it. Nothing is answered by it.

## Main definitions

* `Host`: The devices and the mounts.
* `Served`: How a call is answered, and what it leaves.
* `Beside`: What happens beside the tasks.
* `Inv`: What holds of the devices and the mounts.
* `Rely`: What a task relies on.
* `discipline`: The two together.
-/

namespace Ssam

namespace Mount

open Lib Package
open Dm (DmIoctl DmCall DmOpcode DmFailure DeviceNum)

/-- A loop device that is attached to a part of a file. -/
structure LoopDevice (ι : Type) where
  backingFile : String
  offset : Nat
  length : Nat
  /-- It goes when nobody uses it. -/
  autoclear : Bool
  attachedBy : Option ι

/-- The table of a mapped device. -/
structure DmTable where
  readonly : Bool
  targets : List DMTargetInfo

structure MappedDevice (ι : Type) where
  minor : Nat
  /-- The table that takes effect when the device is resumed. -/
  inactive : Option DmTable
  active : Option DmTable
  /-- It goes when nobody has it open. -/
  deferredRemove : Bool
  createdBy : Option ι

/-- Something mounted at a mount point, with the mapped device it lies on. -/
structure MountEntry (ι : Type) where
  target : String
  layer : Layer
  device : Option Nat
  mountedBy : Option ι

/-- The devices and the mounts of a host. -/
structure Host (ι : Type) where
  loops : Nat → Option (LoopDevice ι)
  /-- The loop devices a task has open. -/
  handles : Set (ι × Nat)
  /-- By the names in the headers of the commands. -/
  mapped : Bytes → Option (MappedDevice ι)
  /-- What was mounted last comes first. -/
  mounts : List (MountEntry ι)

variable {ι : Type} {cfg : MountConfig}

def MappedDevice.HasTable (d : MappedDevice ι) (table : DmTable) : Prop :=
  d.inactive = some table ∨ d.active = some table

/-- A table of the device is over the loop device. -/
def MappedDevice.Over (d : MappedDevice ι) (dev : Nat) : Prop :=
  ∃ table, d.HasTable table ∧ ∃ target ∈ table.targets,
    utf8Bytes (loopPath dev) ∈ Dm.targetDevices target

namespace Host

def setLoop (s : Host ι) (dev : Nat) (l : Option (LoopDevice ι)) : Host ι :=
  { s with loops := Function.update s.loops dev l }

def setMapped (s : Host ι) (name : Bytes) (d : Option (MappedDevice ι)) : Host ι :=
  { s with mapped := Function.update s.mapped name d }

@[simp] theorem setLoop_self (s : Host ι) (dev : Nat) (l : Option (LoopDevice ι)) :
    (s.setLoop dev l).loops dev = l := Function.update_self ..

theorem setLoop_of_ne (s : Host ι) {dev dev' : Nat} (h : dev' ≠ dev) (l : Option (LoopDevice ι)) :
    (s.setLoop dev l).loops dev' = s.loops dev' := Function.update_of_ne h ..

@[simp] theorem setMapped_self (s : Host ι) (name : Bytes) (d : Option (MappedDevice ι)) :
    (s.setMapped name d).mapped name = d := Function.update_self ..

theorem setMapped_of_ne (s : Host ι) {name name' : Bytes} (h : name' ≠ name)
    (d : Option (MappedDevice ι)) : (s.setMapped name d).mapped name' = s.mapped name' :=
  Function.update_of_ne h ..

theorem setMapped_setMapped (s : Host ι) (name : Bytes) (d d' : Option (MappedDevice ι)) :
    (s.setMapped name d).setMapped name d' = s.setMapped name d' := by
  rw [setMapped, setMapped, setMapped, Function.update_idem]

/-- A device that is there after one has gone was there before. -/
theorem mapped_of_setMapped_none {s : Host ι} {name name' : Bytes} {d : MappedDevice ι}
    (h : (s.setMapped name none).mapped name' = some d) : s.mapped name' = some d := by
  by_cases hname : name' = name
  · rw [hname, setMapped_self] at h
    cases h
  · rwa [setMapped_of_ne s hname] at h

theorem loops_of_setLoop_none {s : Host ι} {dev dev' : Nat} {l : LoopDevice ι}
    (h : (s.setLoop dev none).loops dev' = some l) : s.loops dev' = some l := by
  by_cases hdev : dev' = dev
  · rw [hdev, setLoop_self] at h
    cases h
  · rwa [setLoop_of_ne s hdev] at h

/-- Something on the device is mounted. -/
def InUse (s : Host ι) (minor : Nat) : Prop := ∃ e ∈ s.mounts, e.device = some minor

/-- The loop device is open, or a mapped device is over it. -/
def Held (s : Host ι) (dev : Nat) : Prop :=
  (∃ i, (i, dev) ∈ s.handles) ∨ ∃ name d, s.mapped name = some d ∧ d.Over dev

/-- The mapped device a path is that of, if it is one's. -/
def Resolves (s : Host ι) (source : String) (device : Option Nat) : Prop :=
  (∃ name d, s.mapped name = some d ∧ d.active ≠ none ∧ Dm.VerityDevice.devNode d.minor = source ∧
    device = some d.minor) ∨
  device = none ∧ ∀ name d, s.mapped name = some d → Dm.VerityDevice.devNode d.minor ≠ source

end Host

section Served

/-- How a call about a mount point is answered. -/
def servedPoint (i : ι) (s : Host ι) (mountPoint : String) {β : Type} :
    Syscall β → Host ι × β → Prop
  | .mount layer source _ _, (t, .ok ()) => ∃ device, s.Resolves source device ∧
      t = { s with mounts := ⟨mountPoint, layer, device, some i⟩ :: s.mounts }
  -- What was mounted there last is unmounted.
  | .unmount _, (t, .ok ()) => ∃ before e after, s.mounts = before ++ e :: after ∧
      e.target = mountPoint ∧ (∀ e' ∈ before, e'.target ≠ mountPoint) ∧
      t = { s with mounts := before ++ after }
  | _, (t, _) => t = s

def servedLoop (tidy : Prop) (i : ι) (s : Host ι) {β : Type} : LoopCall β → Host ι × β → Prop
  | .attach backingFile offset length, (t, .ok dev) => s.loops dev = none ∧
      t = { s.setLoop dev (some ⟨backingFile, offset, length, false, some i⟩) with
        handles := insert (i, dev) s.handles }
  | .path dev, (t, path) => t = s ∧ ∀ p ∈ path, p = loopPath dev
  | .detach dev, (t, .ok ()) => ∃ l, s.loops dev = some l ∧
      t = s.setLoop dev (some { l with autoclear := true })
  | .detach dev, (t, .error _) => t = s ∧ (tidy → s.loops dev = none)
  | .close dev, (t, ()) => t = { s with handles := s.handles \ {(i, dev)} }
  | .attach _ _ _, (t, .error _) => t = s
  | .newUuid, (t, _) => t = s

def servedIoctl (tidy : Prop) (i : ι) (s : Host ι) (ioHdr : DmIoctl)
    (targets : List DMTargetInfo) : DmOpcode → Host ι × Except DmFailure UInt64 → Prop
  | .devCreate, (t, .ok dev) => s.mapped ioHdr.name = none ∧
      ∃ num : DeviceNum, num.major.toNat < 2 ^ 12 ∧ num.minor.toNat < 2 ^ 20 ∧
        (∀ name d, s.mapped name = some d → d.minor ≠ num.minor.toNat) ∧ dev = num.asKdevT ∧
        t = s.setMapped ioHdr.name (some ⟨num.minor.toNat, none, none, false, some i⟩)
  | .tableLoad, (t, .ok _) => ∃ d, s.mapped ioHdr.name = some d ∧
      t = s.setMapped ioHdr.name (some { d with
        inactive := some ⟨ioHdr.flags &&& Dm.dmReadonlyFlag ≠ 0, targets⟩ })
  -- Without the flag to suspend it the device is resumed.
  | .devSuspend, (t, .ok _) => ∃ d, s.mapped ioHdr.name = some d ∧
      t = if ioHdr.flags &&& Dm.dmSuspendFlag ≠ 0 then s
        else s.setMapped ioHdr.name (some { d with
          active := d.inactive <|> d.active, inactive := none })
  | .devRemove, (t, .ok _) => ∃ d, s.mapped ioHdr.name = some d ∧
      (¬ s.InUse d.minor ∧ t = s.setMapped ioHdr.name none ∨
        ioHdr.flags &&& Dm.dmDeferredRemove ≠ 0 ∧
          t = s.setMapped ioHdr.name (some { d with deferredRemove := true }))
  | .devRemove, (t, .error _) => t = s ∧ (tidy → s.mapped ioHdr.name = none)
  | _, (t, .error _) => t = s

def servedDm (tidy : Prop) (i : ι) (s : Host ι) {β : Type} : DmCall β → Host ι × β → Prop
  | .ioctl op ioHdr targets, run => servedIoctl tidy i s ioHdr targets op run
  | .openControl, (t, _) => t = s
  | .sectorSize _, (t, _) => t = s
  | .listDevices, (t, _) => t = s

/-- How a call of a task is answered, and what it leaves. That the host is `tidy` says of
    it that what is to be removed is removed. -/
def Served (tidy : Prop) (i : ι) (s : Host ι) {β : Type} : DeviceCall β → Host ι × β → Prop
  | .mounting mountPoint c, run => servedPoint i s mountPoint c run
  | .loop c, run => servedLoop tidy i s c run
  | .dm c, run => servedDm tidy i s c run

/-- What others do leaves alone what the tasks have made, but for what is mounted. -/
structure Elsewhere (s t : Host ι) : Prop where
  handles : t.handles = s.handles
  loops : ∀ dev l i, l.attachedBy = some i → (t.loops dev = some l ↔ s.loops dev = some l)
  mapped : ∀ name d i, d.createdBy = some i → (t.mapped name = some d ↔ s.mapped name = some d)
  mounts : ∀ e ∈ t.mounts, e.mountedBy ≠ none → e ∈ s.mounts
  /-- Two devices have two numbers, and a device with something on it stays. -/
  minors : ∀ name name' d d', t.mapped name = some d → t.mapped name' = some d' →
    d.minor = d'.minor → name = name'
  inUse : ∀ minor, t.InUse minor → ∃ name d, t.mapped name = some d ∧ d.minor = minor

/-- What happens beside the tasks: a device goes that was to go, or others do something. -/
inductive Beside (s : Host ι) : Host ι → Prop where
  | removed (name : Bytes) (d : MappedDevice ι) (hname : s.mapped name = some d)
      (hdeferred : d.deferredRemove = true) (hfree : ¬ s.InUse d.minor) :
      Beside s (s.setMapped name none)
  | cleared (dev : Nat) (l : LoopDevice ι) (hdev : s.loops dev = some l)
      (hclear : l.autoclear = true) (hfree : ¬ s.Held dev) : Beside s (s.setLoop dev none)
  | elsewhere (t : Host ι) (h : Elsewhere s t) : Beside s t

/-- Every device that was to go has gone. -/
structure Settled (s : Host ι) : Prop where
  mapped : ∀ name d, s.mapped name = some d → d.deferredRemove = true → s.InUse d.minor
  loops : ∀ dev l, s.loops dev = some l → l.autoclear = true → s.Held dev

/-- The tasks on a host. A task that is killed leaves its devices, but has none of them
    open. None is killed where the host is tidy. -/
def hostShared (ι : Type) (tidy : Prop) : Shared ι DeviceCall (Host ι) where
  served i s c := Served tidy i s c
  killed i s t := ¬ tidy ∧ t = { s with handles := {h ∈ s.handles | h.1 ≠ i} }
  beside := Beside

end Served

section Invariant

/-- The task has attached the loop device to the package file system. -/
structure LoopDevice.Of (l : LoopDevice ι) (i : ι) (p : PackageFs cfg) : Prop where
  backingFile : l.backingFile = p.pkgfs.path
  offset : l.offset = p.pkgfs.pkgfsOffset
  length : l.length = p.pkgfs.length
  attachedBy : l.attachedBy = some i

/-- The table is the one that is signed for the package file system, on a loop device over
    it. -/
structure Backed (i : ι) (p : PackageFs cfg) (loops : Nat → Option (LoopDevice ι))
    (table : DmTable) : Prop where
  readonly : table.readonly = true
  verity : ∃ dev sectorSize target, table.targets = [target] ∧
    makeTarget (.ok sectorSize) (loopPath dev) p.verityInfo = .ok target ∧
    ∃ l, loops dev = some l ∧ l.Of i p

variable (pkg : ι → PackageFs cfg)

structure Inv (s : Host ι) : Prop where
  minors : ∀ name name' d d', s.mapped name = some d → s.mapped name' = some d' →
    d.minor = d'.minor → name = name'
  inUse : ∀ minor, s.InUse minor → ∃ name d, s.mapped name = some d ∧ d.minor = minor
  tables : ∀ name d i, s.mapped name = some d → d.createdBy = some i →
    ∀ table, d.HasTable table → Backed i (pkg i) s.loops table
  layers : ∀ e ∈ s.mounts, ∀ i, e.mountedBy = some i → e.layer = .base →
    e.target = (pkg i).pkgfs.mountPoint ∧ ∃ name d table, e.device = some d.minor ∧
      s.mapped name = some d ∧ d.createdBy = some i ∧ d.active = some table

/-- What a task relies on: what it has open stays open, a loop device it has attached and
    not closed stays as it is, and so does a device it has created and not removed. -/
structure Rely (i : ι) (s t : Host ι) : Prop where
  handles : ∀ dev, (i, dev) ∈ t.handles ↔ (i, dev) ∈ s.handles
  loops : ∀ dev l, (i, dev) ∈ s.handles → s.loops dev = some l → l.attachedBy = some i →
    t.loops dev = some l
  attached : ∀ dev l, t.loops dev = some l → l.attachedBy = some i → s.loops dev = some l
  mapped : ∀ name d, s.mapped name = some d → d.createdBy = some i → d.deferredRemove = false →
    t.mapped name = some d
  created : ∀ name d, t.mapped name = some d → d.createdBy = some i → s.mapped name = some d

end Invariant

section Frame

variable {s t : Host ι} {p : PackageFs cfg} {table : DmTable}

theorem Host.InUse.of_mounts {mounts : List (MountEntry ι)} (h : mounts ⊆ s.mounts) {minor : Nat}
    (hm : ({ s with mounts := mounts } : Host ι).InUse minor) : s.InUse minor := by
  rcases hm with ⟨e, he, hdevice⟩
  exact ⟨e, h he, hdevice⟩

/-- A table stays backed while its loop device does. -/
theorem Backed.mono {i : ι} (h : Backed i p s.loops table)
    (hloops : ∀ dev l, s.loops dev = some l → l.Of i p →
      (∃ target ∈ table.targets, utf8Bytes (loopPath dev) ∈ Dm.targetDevices target) →
      ∃ l', t.loops dev = some l' ∧ l'.Of i p) :
    Backed i p t.loops table := by
  rcases h.verity with ⟨dev, size, target, htargets, htarget, l, hl, hof⟩
  have hover : ∃ target ∈ table.targets, utf8Bytes (loopPath dev) ∈ Dm.targetDevices target := by
    rw [htargets]
    refine ⟨target, List.mem_singleton_self target, ?_⟩
    rw [Dm.targetDevices_makeTarget p.numbered htarget]
    exact List.mem_cons_self
  exact ⟨h.readonly, dev, size, target, htargets, htarget, hloops dev l hl hof hover⟩

section Mapped

variable {pkg : ι → PackageFs cfg} {name : Bytes} {d : MappedDevice ι}

/-- A device is created or changed. It keeps its number and whose it is, and a table that is
    in effect is followed by one. -/
theorem Inv.setMapped (h : Inv pkg s)
    (hminor : ∀ name' d', s.mapped name' = some d' → d'.minor = d.minor → name' = name)
    (htables : ∀ i, d.createdBy = some i → ∀ table, d.HasTable table →
      Backed i (pkg i) s.loops table)
    (hold : ∀ d', s.mapped name = some d' → d.minor = d'.minor ∧ d.createdBy = d'.createdBy ∧
      (d'.active ≠ none → d.active ≠ none)) : Inv pkg (s.setMapped name (some d)) := by
  have hself : (s.setMapped name (some d)).mapped name = some d := s.setMapped_self name _
  have hother {name' : Bytes} (hne : name' ≠ name) :
      (s.setMapped name (some d)).mapped name' = s.mapped name' := s.setMapped_of_ne hne _
  refine ⟨fun n n' d₁ d₂ h₁ h₂ heq => ?_, fun minor hminor => ?_, fun n d' i hd' hi => ?_,
    fun e he i hi hlayer => ?_⟩
  · by_cases hn : n = name
    · by_cases hn' : n' = name
      · rw [hn, hn']
      · rw [hn, hself, Option.some.injEq] at h₁
        rw [hother hn'] at h₂
        rw [← h₁] at heq
        exact absurd (hminor n' d₂ h₂ heq.symm) hn'
    · rw [hother hn] at h₁
      by_cases hn' : n' = name
      · rw [hn', hself, Option.some.injEq] at h₂
        rw [← h₂] at heq
        exact absurd (hminor n d₁ h₁ heq) hn
      · rw [hother hn'] at h₂
        exact h.minors n n' d₁ d₂ h₁ h₂ heq
  · rcases h.inUse minor hminor with ⟨n, d', hd', hminor'⟩
    by_cases hn : n = name
    · rw [hn] at hd'
      exact ⟨name, d, hself, (hold d' hd').1.trans hminor'⟩
    · exact ⟨n, d', (hother hn).trans hd', hminor'⟩
  · by_cases hn : n = name
    · rw [hn, hself, Option.some.injEq] at hd'
      subst hd'
      exact htables i hi
    · rw [hother hn] at hd'
      exact h.tables n d' i hd' hi
  · rcases h.layers e he i hi hlayer with ⟨htarget, n, d', table, hdevice, hd', hcreated, hactive⟩
    refine ⟨htarget, ?_⟩
    by_cases hn : n = name
    · rw [hn] at hd'
      rcases hold d' hd' with ⟨hminor', hcreated', hactive'⟩
      rcases Option.ne_none_iff_exists'.mp (hactive' (by rw [hactive]; exact Option.some_ne_none _))
        with ⟨table', htable'⟩
      exact ⟨name, d, table', by rw [hminor', hdevice], hself, hcreated'.trans hcreated, htable'⟩
    · exact ⟨n, d', table, hdevice, (hother hn).trans hd', hcreated, hactive⟩

/-- A device goes on which nothing is mounted. -/
theorem Inv.removed (h : Inv pkg s) (hname : s.mapped name = some d)
    (hfree : ¬ s.InUse d.minor) : Inv pkg (s.setMapped name none) := by
  have hkept {n : Bytes} {d' : MappedDevice ι} (hd' : s.mapped n = some d')
      (hused : s.InUse d'.minor) : (s.setMapped name none).mapped n = some d' := by
    have hn : n ≠ name := by
      intro hn
      rw [hn, hname, Option.some.injEq] at hd'
      subst hd'
      exact hfree hused
    exact (s.setMapped_of_ne hn _).trans hd'
  refine ⟨fun n n' d₁ d₂ h₁ h₂ => h.minors n n' d₁ d₂
    (Host.mapped_of_setMapped_none h₁) (Host.mapped_of_setMapped_none h₂), fun minor hminor => ?_,
    fun n d' i hd' hi => h.tables n d' i (Host.mapped_of_setMapped_none hd') hi,
    fun e he i hi hlayer => ?_⟩
  · rcases h.inUse minor hminor with ⟨n, d', hd', rfl⟩
    exact ⟨n, d', hkept hd' hminor, rfl⟩
  · rcases h.layers e he i hi hlayer with ⟨htarget, n, d', table, hdevice, hd', hcreated, hactive⟩
    exact ⟨htarget, n, d', table, hdevice, hkept hd' ⟨e, he, hdevice⟩, hcreated, hactive⟩

end Mapped

section Loops

variable {pkg : ι → PackageFs cfg}

/-- A loop device is attached or changed. One that was attached stays on its part of the
    file. -/
theorem Inv.setLoop (h : Inv pkg s) {dev : Nat} {l : LoopDevice ι}
    (hold : ∀ l' i p, s.loops dev = some l' → l'.Of i (p : PackageFs cfg) → l.Of i p) :
    Inv pkg (s.setLoop dev (some l)) := by
  refine ⟨h.minors, h.inUse, fun name d i hd hi table htable => ?_, h.layers⟩
  refine (h.tables name d i hd hi table htable).mono fun dev' l' hl' hof _ => ?_
  by_cases hdev : dev' = dev
  · rw [hdev] at hl' ⊢
    exact ⟨l, s.setLoop_self dev _, hold l' i _ hl' hof⟩
  · exact ⟨l', (s.setLoop_of_ne hdev _).trans hl', hof⟩

/-- A loop device goes that nobody holds. -/
theorem Inv.cleared (h : Inv pkg s) {dev : Nat} (hfree : ¬ s.Held dev) :
    Inv pkg (s.setLoop dev none) := by
  refine ⟨h.minors, h.inUse, fun name d i hd hi table htable => ?_, h.layers⟩
  refine (h.tables name d i hd hi table htable).mono fun dev' l' hl' hof hover => ?_
  have hdev : dev' ≠ dev := by
    intro hdev
    rw [hdev] at hover
    exact hfree (Or.inr ⟨name, d, hd, table, htable, hover⟩)
  exact ⟨l', (s.setLoop_of_ne hdev _).trans hl', hof⟩

/-- Others do something. -/
theorem Inv.elsewhere (h : Inv pkg s) (hst : Elsewhere s t) : Inv pkg t := by
  refine ⟨hst.minors, hst.inUse, fun name d i hd hi table htable => ?_,
    fun e he i hi hlayer => ?_⟩
  · have hbacked := h.tables name d i ((hst.mapped name d i hi).mp hd) hi table htable
    exact hbacked.mono fun dev l hl hof _ =>
      ⟨l, (hst.loops dev l i hof.attachedBy).mpr hl, hof⟩
  · have he' := hst.mounts e he (by rw [hi]; exact Option.some_ne_none i)
    rcases h.layers e he' i hi hlayer with ⟨htarget, name, d, table, hdevice, hd, hcreated, hactive⟩
    exact ⟨htarget, name, d, table, hdevice, (hst.mapped name d i hcreated).mpr hd, hcreated,
      hactive⟩

end Loops

section Others

variable {i j : ι}

theorem Rely.refl (i : ι) (s : Host ι) : Rely i s s :=
  ⟨fun _ => Iff.rfl, fun _ _ _ h _ => h, fun _ _ h _ => h, fun _ _ h _ _ => h, fun _ _ h _ => h⟩

theorem Rely.trans {u : Host ι} (h : Rely i s t) (h' : Rely i t u) : Rely i s u where
  handles dev := (h'.handles dev).trans (h.handles dev)
  loops dev l hdev hl hi := h'.loops dev l ((h.handles dev).mpr hdev) (h.loops dev l hdev hl hi) hi
  attached dev l hl hi := h.attached dev l (h'.attached dev l hl hi) hi
  mapped name d hd hi hdeferred := h'.mapped name d (h.mapped name d hd hi hdeferred) hi hdeferred
  created name d hd hi := h.created name d (h'.created name d hd hi) hi

/-- What a task mounts and unmounts, nobody relies on. -/
theorem Rely.of_mounts (i : ι) (s : Host ι) (mounts : List (MountEntry ι)) :
    Rely i s { s with mounts := mounts } := ⟨(Rely.refl i s).handles, (Rely.refl i s).loops,
      (Rely.refl i s).attached, (Rely.refl i s).mapped, (Rely.refl i s).created⟩

/-- A task creates, changes or removes a device that is not the other's. -/
theorem Rely.setMapped {name : Bytes} {d : Option (MappedDevice ι)}
    (hold : ∀ d', s.mapped name = some d' → d'.createdBy ≠ some j)
    (hnew : ∀ d', d = some d' → d'.createdBy ≠ some j) : Rely j s (s.setMapped name d) := by
  refine ⟨fun _ => Iff.rfl, fun _ _ _ h _ => h, fun _ _ h _ => h, fun n d' hd' hj _ => ?_,
    fun n d' hd' hj => ?_⟩
  · have hn : n ≠ name := by
      intro hn
      rw [hn] at hd'
      exact hold d' hd' hj
    exact (s.setMapped_of_ne hn d).trans hd'
  · have hn : n ≠ name := by
      intro hn
      rw [hn, s.setMapped_self] at hd'
      exact hnew d' hd' hj
    rwa [s.setMapped_of_ne hn] at hd'

/-- A device that is to go goes. -/
theorem Rely.removed {name : Bytes} {d : MappedDevice ι} (hname : s.mapped name = some d)
    (hdeferred : d.deferredRemove = true) : Rely j s (s.setMapped name none) := by
  refine ⟨fun _ => Iff.rfl, fun _ _ _ h _ => h, fun _ _ h _ => h, fun n d' hd' _ hkept => ?_,
    fun n d' hd' _ => Host.mapped_of_setMapped_none hd'⟩
  have hn : n ≠ name := by
    intro hn
    rw [hn, hname, Option.some.injEq] at hd'
    rw [← hd', hdeferred] at hkept
    cases hkept
  exact (s.setMapped_of_ne hn none).trans hd'

/-- A task attaches or detaches a loop device that is not the other's. -/
theorem Rely.setLoop {dev : Nat} {l : Option (LoopDevice ι)}
    (hold : ∀ l', s.loops dev = some l' → l'.attachedBy ≠ some j)
    (hnew : ∀ l', l = some l' → l'.attachedBy ≠ some j) : Rely j s (s.setLoop dev l) := by
  refine ⟨fun _ => Iff.rfl, fun n l' _ hl' hj => ?_, fun n l' hl' hj => ?_,
    fun _ _ h _ _ => h, fun _ _ h _ => h⟩
  · have hn : n ≠ dev := by
      intro hn
      rw [hn] at hl'
      exact hold l' hl' hj
    exact (s.setLoop_of_ne hn l).trans hl'
  · have hn : n ≠ dev := by
      intro hn
      rw [hn, s.setLoop_self] at hl'
      exact hnew l' hl' hj
    rwa [s.setLoop_of_ne hn] at hl'

/-- A loop device goes that nobody holds. -/
theorem Rely.cleared {dev : Nat} (hfree : ¬ s.Held dev) : Rely j s (s.setLoop dev none) := by
  refine ⟨fun _ => Iff.rfl, fun n l' hn hl' _ => ?_,
    fun n l' hl' _ => Host.loops_of_setLoop_none hl', fun _ _ h _ _ => h, fun _ _ h _ => h⟩
  have hne : n ≠ dev := by
    intro heq
    rw [heq] at hn
    exact hfree (Or.inl ⟨j, hn⟩)
  exact (s.setLoop_of_ne hne none).trans hl'

/-- A task opens or closes a loop device. -/
theorem Rely.of_handles (handles : Set (ι × Nat))
    (h : ∀ dev, (j, dev) ∈ handles ↔ (j, dev) ∈ s.handles) :
    Rely j s { s with handles := handles } :=
  ⟨h, fun _ _ _ hl _ => hl, fun _ _ hl _ => hl, fun _ _ hd _ _ => hd, fun _ _ hd _ => hd⟩

theorem Rely.elsewhere (h : Elsewhere s t) : Rely j s t where
  handles dev := by rw [h.handles]
  loops dev l _ hl hj := (h.loops dev l j hj).mpr hl
  attached dev l hl hj := (h.loops dev l j hj).mp hl
  mapped name d hd hj _ := (h.mapped name d j hj).mpr hd
  created name d hd hj := (h.mapped name d j hj).mp hd

theorem Rely.of_beside (h : Beside s t) : Rely j s t := by
  cases h with
  | removed name d hname hdeferred _ => exact Rely.removed hname hdeferred
  | cleared dev l _ _ hfree => exact Rely.cleared hfree
  | elsewhere t h => exact Rely.elsewhere h

end Others

theorem Inv.of_beside {pkg : ι → PackageFs cfg} (hst : Beside s t) (h : Inv pkg s) : Inv pkg t := by
  cases hst with
  | removed name d hname _ hfree => exact h.removed hname hfree
  | cleared dev l _ _ hfree => exact h.cleared hfree
  | elsewhere t hst => exact h.elsewhere hst

end Frame

/-- What holds of a host where each task mounts a package file system of its own. -/
def discipline (pkg : ι → PackageFs cfg) (tidy : Prop) : Discipline (hostShared ι tidy) where
  inv := Inv pkg
  rely := Rely
  rely_refl := Rely.refl
  rely_trans := Rely.trans
  rely_of_killed := by
    rintro i j s t ⟨-, rfl⟩ hij
    exact Rely.of_handles _ fun dev => and_iff_left (Ne.symm hij)
  rely_of_beside := Rely.of_beside
  inv_of_killed := by
    rintro i s t ⟨-, rfl⟩ h
    exact ⟨h.minors, h.inUse, fun name d i hd hi table htable =>
      (h.tables name d i hd hi table htable).mono fun _ l hl hof _ => ⟨l, hl, hof⟩,
      h.layers⟩
  inv_of_beside := Inv.of_beside

end Mount

end Ssam
