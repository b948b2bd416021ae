import Ssam.Mount.Knows

/-!
# What a Package Is Read Through

Tasks that mount and unmount package file systems, side by side on one host. Whatever the
calls are answered, whichever task makes the next one, and wherever a task is killed, a
base layer that a task has mounted lies on a verity device with the table that is signed
for the package file system, over a loop device on its part of the package file.

A mount drops its devices when it is done, and what is mounted keeps them. Where what is
to be removed is removed and no task is killed, the devices that are left when no task is
running are therefore those in use.

## Main definitions

* `KnowsLocals`: What a task knows by the values it has not dropped.
* `ReadThrough`: The chain from a layer to the package file.

## Theorems

* `mount_triple`: A mount, whether it fails or not.
* `mount_ends`: A mount that comes to its end.
* `verified_chain`: Every base layer is read through its chain.
* `devices_in_use`: The devices that are left.
-/

namespace Ssam

namespace Mount

open Lib Package
open Dm (DMDevice DmCall DmIoctl DmOpcode DmFailure nameField)

variable {ι : Type} {cfg : MountConfig}

section Mount

variable {pkg : ι → PackageFs cfg} {tidy : Prop} {i : ι}
  {made : Option (Bytes × MappedDevice ι)} {pkgHash10 : String → String}

/-- The mapped device a task has made is that of the values it has not dropped. -/
def Locals.Fits (l : Locals) (made : Option (Bytes × MappedDevice ι)) : Prop :=
  match l.verityDev with
  | none => made = none
  | some device => (Dm.utf8 device.deviceName).length < 128 ∧
      ∃ d, made = some (nameField device.deviceName, d) ∧ d.minor = device.devNo.minor.toNat ∧
        d.active ≠ none

/-- What a task knows of its devices by these values. -/
def KnowsLocals (tidy : Prop) (i : ι) (p : PackageFs cfg) (l : Locals) (s : Host ι) : Prop :=
  ∃ made, Knows tidy i p l.loopDev l.loopDev made s ∧ l.Fits made

theorem knowsLocals_stable (p : PackageFs cfg) (l : Locals) :
    (discipline pkg tidy).Stable i (KnowsLocals tidy i p l) := by
  rintro s t ⟨made, h, hfits⟩ hst -
  exact ⟨made, h.of_rely hst, hfits⟩

/-- The base layer is only mounted from the device of the values. -/
def BaseFrom (l : Locals) {β : Type} : Syscall β → Prop
  | .mount .base source _ _ => ∃ device, l.verityDev = some device ∧
      Dm.VerityDevice.devnode device = source
  | .attach _ _ _ => False
  | .loopPath => False
  | .verityDevice _ => False
  | _ => True

theorem baseOn_of_baseFrom {l : Locals} (h : l.Fits made) {β : Type} {c : Syscall β}
    (hc : BaseFrom l c) : BaseOn made c := by
  cases c with
  | mount layer source fstype data =>
      cases layer with
      | base =>
          rcases hc with ⟨device, hdevice, hsource⟩
          rw [Locals.Fits, hdevice] at h
          rcases h with ⟨-, d, hd, hminor, hactive⟩
          exact ⟨_, d, hd, hactive, by rw [hminor]; exact hsource⟩
      | overlay => trivial
  | _ => trivial

/-- A call about the mount point leaves the values as they are. -/
theorem pass_triple {l : Locals} {β : Type} {c : Syscall β} (hc : BaseFrom l c) :
    (discipline pkg tidy).Triple i (KnowsLocals tidy i (pkg i) l)
      (pass l (.mounting (pkg i).pkgfs.mountPoint c))
      (Prog.branch (fun run s => run.2 = l ∧ KnowsLocals tidy i (pkg i) l s) fun _ _ => False) := by
  have hstable : (discipline pkg tidy).Stable i (KnowsLocals tidy i (pkg i) l) :=
    knowsLocals_stable (pkg i) l
  refine Discipline.Triple.bind_ask hstable (M := fun _ => KnowsLocals tidy i (pkg i) l)
    (fun s u a h hinv hserved => ?_) fun a => Discipline.Triple.done hstable fun s h => ⟨rfl, h⟩
  rcases h with ⟨made, h, hfits⟩
  rcases served_point h hinv (baseOn_of_baseFrom hfits hc) hserved with ⟨hkeeps, h'⟩
  exact ⟨hkeeps, made, h', hfits⟩

theorem doMount_only {A : {β : Type} → Syscall β → Prop} (pkgfs : PackageFsMetadata cfg)
    {layer : Layer} {source fstype : String} {data : Option String}
    (hexists : A (.targetExists layer)) (hdir : A (.createDirAll (.target layer)))
    (hmount : A (.mount layer source fstype data)) :
    (doMount pkgfs layer source fstype data).Only A := by
  refine Prog.only_bind (Prog.only_ask hexists) fun present => ?_
  cases present with
  | true => exact Prog.only_context (Prog.only_try_ hmount)
  | false =>
      exact Prog.only_bind (Prog.only_context (Prog.only_try_ hdir)) fun _ =>
        Prog.only_context (Prog.only_try_ hmount)

theorem mountDevice_only {l : Locals} {device : DMDevice} (hl : l.verityDev = some device)
    (pkgfs : PackageFsMetadata cfg) :
    (mountDevice (Dm.VerityDevice.devnode device) pkgfs).Only (BaseFrom l) := by
  have hoverlay : (mountOverlayfs pkgfs).Only (BaseFrom l) :=
    Prog.only_bind (Prog.only_context (Prog.only_try_ trivial)) fun _ =>
      Prog.only_bind (Prog.only_context (Prog.only_try_ trivial)) fun _ =>
        doMount_only pkgfs trivial trivial trivial
  refine Prog.only_bind (doMount_only pkgfs trivial trivial ⟨device, hl, rfl⟩) fun _ => ?_
  split
  · refine Prog.only_bind (Prog.only_attempt hoverlay) fun r => ?_
    cases r with
    | ok a => trivial
    | error e =>
        exact Prog.only_bind
          (Prog.only_attempt (Prog.only_context (Prog.only_try_ trivial))) fun _ => trivial
  · trivial

theorem carry_attach_triple :
    (discipline pkg tidy).Triple i (KnowsLocals tidy i (pkg i) ⟨none, none⟩)
      (carry pkgHash10 (pkg i) ⟨none, none⟩ (.attach (pkg i).pkgfs.path (pkg i).pkgfs.pkgfsOffset
        (pkg i).pkgfs.length))
      (Prog.branch (fun run s => (run.1.toBool → ∃ dev, run.2 = ⟨some dev, none⟩) ∧
        KnowsLocals tidy i (pkg i) run.2 s) fun _ _ => False) := by
  have hstable (l : Locals) : (discipline pkg tidy).Stable i
      (KnowsLocals tidy i (pkg i) l) := knowsLocals_stable (pkg i) l
  refine Discipline.Triple.bind_ask (hstable _)
    (M := fun (r : Except Error Nat) => KnowsLocals tidy i (pkg i) ⟨r.toOption, none⟩)
    (fun s u r h hinv hserved => ?_) fun r => ?_
  · rcases h with ⟨made, h, rfl⟩
    rcases served_attach h hinv hserved with ⟨hkeeps, h'⟩
    exact ⟨hkeeps, none, h', rfl⟩
  · cases r with
    | ok dev => exact Discipline.Triple.done (hstable _) fun s h => ⟨fun _ => ⟨dev, rfl⟩, h⟩
    | error e => exact Discipline.Triple.done (hstable _) fun s h => ⟨fun hr => (by cases hr), h⟩

theorem carry_loopPath_triple (dev : Nat) :
    (discipline pkg tidy).Triple i (KnowsLocals tidy i (pkg i) ⟨some dev, none⟩)
      (carry pkgHash10 (pkg i) ⟨some dev, none⟩ .loopPath)
      (Prog.branch (fun run s => ((∀ path ∈ run.1, path = loopPath dev) ∧
        run.2 = ⟨some dev, none⟩) ∧ KnowsLocals tidy i (pkg i) run.2 s) fun _ _ => False) := by
  have hstable (l : Locals) : (discipline pkg tidy).Stable i
      (KnowsLocals tidy i (pkg i) l) := knowsLocals_stable (pkg i) l
  refine Discipline.Triple.bind_ask (hstable _)
    (M := fun (path : Option String) s => (∀ p ∈ path, p = loopPath dev) ∧
      KnowsLocals tidy i (pkg i) ⟨some dev, none⟩ s)
    (fun s u path h hinv hserved => ?_) fun path => Discipline.Triple.of_imp fun hpath =>
      Discipline.Triple.done (hstable _) fun s h => ⟨⟨hpath, rfl⟩, h⟩
  rcases hserved with ⟨hu, hpath⟩
  cases hu
  exact ⟨(discipline pkg tidy).keeps_refl i hinv, hpath, h⟩

theorem carry_verity_triple (dev : Nat) :
    (discipline pkg tidy).Triple i (KnowsLocals tidy i (pkg i) ⟨some dev, none⟩)
      (carry pkgHash10 (pkg i) ⟨some dev, none⟩ (.verityDevice (loopPath dev)))
      (Prog.branch (fun run s => (∀ source, run.1 = .ok source → ∃ device,
          run.2.verityDev = some device ∧ Dm.VerityDevice.devnode device = source) ∧
        KnowsLocals tidy i (pkg i) run.2 s) fun _ _ => False) := by
  have hstable (l : Locals) : (discipline pkg tidy).Stable i
      (KnowsLocals tidy i (pkg i) l) := knowsLocals_stable (pkg i) l
  refine Discipline.Triple.bind_ask (hstable _)
    (M := fun _ => KnowsLocals tidy i (pkg i) ⟨some dev, none⟩)
    (fun s u a h hinv hserved => ?_) fun suffix => ?_
  · cases hserved
    exact ⟨(discipline pkg tidy).keeps_refl i hinv, h⟩
  · have hnew : (discipline pkg tidy).Triple i (KnowsLocals tidy i (pkg i) ⟨some dev, none⟩)
        ((Dm.VerityDevice.new (verityName pkgHash10 (pkg i).packageName suffix) (loopPath dev)
          (pkg i).verityInfo).lift DeviceCall.dm)
        (Prog.branch (fun device => KnowsLocals tidy i (pkg i) ⟨some dev, some device⟩)
          fun _ => KnowsLocals tidy i (pkg i) ⟨some dev, none⟩) := by
      have hnew : ((discipline pkg tidy).comap DeviceCall.dm).Triple i
          (Knows tidy i (pkg i) (some dev) (some dev) none) _ _ :=
        new_triple (verityName pkgHash10 (pkg i).packageName suffix)
      refine Discipline.Triple.lift (hnew.mono (fun s h => ?_) fun r s h => ?_)
      · rcases h with ⟨made, h, rfl⟩
        exact h
      · cases r with
        | ok device =>
            rcases h with ⟨hfits, d, hd, hminor, hactive⟩
            exact ⟨_, hd, hfits, d, rfl, hminor, hactive⟩
        | error e => exact ⟨none, h, rfl⟩
    refine Discipline.Triple.bind (Discipline.Triple.attempt hnew) fun r => ?_
    cases r with
    | ok device =>
        refine Discipline.Triple.done (hstable _) fun s h => ⟨fun source hsource => ?_, h⟩
        exact ⟨device, rfl, Except.ok.inj hsource⟩
    | error e =>
        refine Discipline.Triple.done (hstable _) fun s h => ⟨fun source hsource => ?_, h⟩
        cases hsource

/-- The function up to its end, by the values it has not dropped. -/
theorem mountPkgfs_carried :
    (discipline pkg tidy).Carried i (carry pkgHash10 (pkg i))
      (KnowsLocals tidy i (pkg i) ⟨none, none⟩)
      (mountPkgfs (pkg i).packageName (pkg i).pkgfs) ⟨none, none⟩
      fun _ l => KnowsLocals tidy i (pkg i) l := by
  have hstable (l : Locals) : (discipline pkg tidy).Stable i
      (KnowsLocals tidy i (pkg i) l) := knowsLocals_stable (pkg i) l
  have himp {φ : Prop} (l : Locals) : (discipline pkg tidy).Stable i
      fun s => φ ∧ KnowsLocals tidy i (pkg i) l s :=
    fun s t h hst ht => ⟨h.1, hstable l s t h.2 hst ht⟩
  have hattach (msg : String) : (discipline pkg tidy).Carried i (carry pkgHash10 (pkg i))
      (KnowsLocals tidy i (pkg i) ⟨none, none⟩)
      ((Prog.try_ (Syscall.attach (pkg i).pkgfs.path (pkg i).pkgfs.pkgfsOffset
        (pkg i).pkgfs.length)).context msg) ⟨none, none⟩
      fun r l s => (r.toBool → ∃ dev, l = ⟨some dev, none⟩) ∧ KnowsLocals tidy i (pkg i) l s := by
    refine Discipline.Carried.mapError (fun r l => himp l) (Discipline.Carried.try_ (fun r l => ?_)
      (carry_attach_triple.mono (fun _ h => h) fun run s h => ?_))
    · cases r <;> exact himp l
    · rcases run with e | ⟨e | a, l⟩ <;> exact h
  have hverity (dev : Nat) (msg : String) : (discipline pkg tidy).Carried i
      (carry pkgHash10 (pkg i)) (KnowsLocals tidy i (pkg i) ⟨some dev, none⟩)
      ((Prog.try_ (Syscall.verityDevice (loopPath dev))).context msg) ⟨some dev, none⟩
      fun r l s => (∀ source, r = .ok source → ∃ device, l.verityDev = some device ∧
        Dm.VerityDevice.devnode device = source) ∧ KnowsLocals tidy i (pkg i) l s := by
    refine Discipline.Carried.mapError (fun r l => himp l) (Discipline.Carried.try_ (fun r l => ?_)
      ((carry_verity_triple dev).mono (fun _ h => h) fun run s h => ?_))
    · cases r <;> exact himp l
    · rcases run with e | ⟨e | a, l⟩
      · exact h
      · exact ⟨fun source hsource => (by cases hsource), h.2⟩
      · exact h
  have hdevice {l : Locals} {device : DMDevice} (hl : l.verityDev = some device) (msg : String) :
      (discipline pkg tidy).Carried i (carry pkgHash10 (pkg i))
        (KnowsLocals tidy i (pkg i) l)
        ((mountDevice (Dm.VerityDevice.devnode device) (pkg i).pkgfs).context msg) l
        fun _ l => KnowsLocals tidy i (pkg i) l := by
    refine Discipline.Carried.mapError (fun _ l => hstable l) ?_
    refine Discipline.Carried.mono (Discipline.Carried.of_only (hstable l) (fun c hc => ?_)
      (mountDevice_only hl (pkg i).pkgfs)) fun r l' s h => ?_
    · cases c <;> first | exact pass_triple hc | exact hc.elim
    · rcases h with ⟨rfl, h⟩
      cases r <;> exact h
  rw [mountPkgfs, Prog.bind_eq]
  refine Discipline.Carried.bind_ask (M := fun _ l s => l = ⟨none, none⟩ ∧
    KnowsLocals tidy i (pkg i) ⟨none, none⟩ s)
    (pass_triple (l := ⟨none, none⟩) (c := .isExactMount .gate) trivial) fun mounted l =>
    Discipline.Carried.of_imp ?_
  rintro rfl
  cases mounted with
  | true => exact Discipline.Carried.done (hstable ⟨none, none⟩) fun s h => h
  | false =>
      refine Discipline.Carried.bind (M := fun _ l s => (∃ dev, l = ⟨some dev, none⟩) ∧
        KnowsLocals tidy i (pkg i) l s) (fun _ l => hstable l)
        ((hattach _).mono fun r l s h => ?_) fun _ l => Discipline.Carried.of_imp ?_
      · cases r with
        | ok a => exact ⟨h.1 rfl, h.2⟩
        | error e => exact h.2
      rintro ⟨dev, rfl⟩
      refine Discipline.Carried.bind_ask (M := fun path l s => ((∀ p ∈ path, p = loopPath dev) ∧
        l = ⟨some dev, none⟩) ∧ KnowsLocals tidy i (pkg i) l s) (carry_loopPath_triple dev)
        fun path l => Discipline.Carried.of_imp ?_
      rintro ⟨hpath, rfl⟩
      cases path with
      | none => exact Discipline.Carried.done (hstable _) fun s h => h
      | some path =>
          cases hpath path rfl
          dsimp only
          refine Discipline.Carried.bind (M := fun source l s => (∃ device,
            l.verityDev = some device ∧ Dm.VerityDevice.devnode device = source) ∧
              KnowsLocals tidy i (pkg i) l s) (fun _ l => hstable l)
            ((hverity dev _).mono fun r l s h => ?_) fun source l => Discipline.Carried.of_imp ?_
          · cases r with
            | ok source => exact ⟨h.1 source rfl, h.2⟩
            | error e => exact h.2
          rintro ⟨device, hl, rfl⟩
          exact hdevice hl _

theorem dropVerity_triple (l : Locals) :
    (discipline pkg tidy).Triple i (KnowsLocals tidy i (pkg i) l) (dropVerity l.verityDev)
      (Prog.branch (fun _ => Knows tidy i (pkg i) l.loopDev l.loopDev none) fun _ _ => False) := by
  have hstable : (discipline pkg tidy).Stable i
      (Knows tidy i (pkg i) l.loopDev l.loopDev none) := knows_stable _ _ _ _
  rcases l with ⟨loopDev, _ | device⟩
  · refine Discipline.Triple.done (knowsLocals_stable (pkg i) ⟨loopDev, none⟩) fun s h => ?_
    rcases h with ⟨made, h, rfl⟩
    exact h
  · have hremove : (discipline pkg tidy).Triple i
        (KnowsLocals tidy i (pkg i) ⟨loopDev, some device⟩)
        ((Dm.DMControl.removeDevice device.deviceName).lift DeviceCall.dm)
        fun _ => Knows tidy i (pkg i) loopDev loopDev none := by
      refine Discipline.Triple.mono (fun s h => ?_) (fun _ _ h => h)
        (Discipline.Triple.lift (removeDevice_triple (·.active ≠ none)))
      rcases h with ⟨made, h, hfits, d, rfl, hminor, hactive⟩
      exact ⟨hfits, d, h, hminor, hactive⟩
    exact Discipline.Triple.bind (M := fun _ => Knows tidy i (pkg i) loopDev loopDev none)
      (Discipline.Triple.attempt hremove) fun _ => Discipline.Triple.done hstable fun _ h => h

theorem dropLoop_triple (loopDev : Option Nat) :
    (discipline pkg tidy).Triple i (Knows tidy i (pkg i) loopDev loopDev none)
      (dropLoop loopDev) fun _ => Knows tidy i (pkg i) none none none := by
  have hstable (opened kept : Option Nat) : (discipline pkg tidy).Stable i
      (Knows tidy i (pkg i) opened kept none) := knows_stable _ _ _ _
  cases loopDev with
  | none => exact Discipline.Triple.done (hstable none none) fun _ h => h
  | some dev =>
      refine Discipline.Triple.bind_ask (hstable (some dev) (some dev))
        (M := fun _ => Knows tidy i (pkg i) (some dev) none none)
        (fun s u r h hinv hserved => served_detach h hinv hserved) fun _ => ?_
      exact Discipline.Triple.ask (hstable (some dev) none) (fun _ => hstable none none)
        fun s u a h hinv hserved => served_close (a := a) h hinv hserved

/-- A mount leaves its task without devices, whether it fails or not. -/
theorem mount_triple :
    (discipline pkg tidy).Triple i (Knows tidy i (pkg i) none none none)
      ((pkg i).mount pkgHash10) fun _ => Knows tidy i (pkg i) none none none := by
  have hstable : (discipline pkg tidy).Stable i (Knows tidy i (pkg i) none none none) :=
    knows_stable _ _ _ _
  rw [PackageFs.mount, Prog.bind_eq]
  refine Discipline.Triple.bind (M := fun run => KnowsLocals tidy i (pkg i) run.2)
    (Discipline.Triple.mono (fun s h => ⟨none, h, rfl⟩) (fun run s h => ?_) mountPkgfs_carried)
    fun run => ?_
  · cases run with
    | ok run => exact h
    | error e => exact h.elim
  · refine Discipline.Triple.bind (M := fun _ => Knows tidy i (pkg i) none none none) ?_
      fun _ => Discipline.Triple.done hstable fun _ h => h
    refine Discipline.Triple.bind
      (M := fun _ => Knows tidy i (pkg i) run.2.loopDev run.2.loopDev none)
      ((dropVerity_triple run.2).mono (fun _ h => h) fun r s h => ?_) fun _ =>
      (dropLoop_triple run.2.loopDev).mono (fun _ h => h) fun r _ h => by cases r <;> exact h
    cases r with
    | ok a => exact h
    | error e => exact h.elim

theorem unmountPkgfs_only {A : {β : Type} → Syscall β → Prop} (pkgfs : PackageFsMetadata cfg)
    (hprobe : ∀ site, A (.isExactMount site)) (hunmount : ∀ site, A (.unmount site)) :
    (unmountPkgfs pkgfs).Only A := by
  have hbase : (do
      let mounted ← Prog.ask (Syscall.isExactMount .baseGuard)
      if mounted then
        (doUnmount pkgfs .base).context
          s!"unmount_pkgfs({pkgfs.path}): Failed while unmounting package filesystem"
      else pure () : Mounting Unit).Only A := by
    refine Prog.only_bind (Prog.only_ask (hprobe .baseGuard)) fun mounted => ?_
    cases mounted with
    | true => exact Prog.only_context (Prog.only_context (Prog.only_try_ (hunmount .base)))
    | false => trivial
  rw [unmountPkgfs]
  split
  · refine Prog.only_bind (Prog.only_ask (hprobe .overlayGuard)) fun overlaid => ?_
    cases overlaid with
    | true =>
        exact Prog.only_bind
          (Prog.only_context (Prog.only_context (Prog.only_try_ (hunmount .overlay))))
          fun _ => hbase
    | false => exact hbase
  · exact hbase

theorem unmount_triple :
    (discipline pkg tidy).Triple i (Knows tidy i (pkg i) none none none) (pkg i).unmount
      fun _ => Knows tidy i (pkg i) none none none := by
  have hbase : (unmountPkgfs (pkg i).pkgfs).Only
      (BaseOn (none : Option (Bytes × MappedDevice ι))) :=
    unmountPkgfs_only (pkg i).pkgfs (fun _ => trivial) fun _ => trivial
  refine Discipline.Triple.lift (Discipline.Triple.of_only
    (knows_stable (pkg i) none none none).comap (fun c hc s u a h hinv hserved => ?_) hbase)
  have hboth : (discipline pkg tidy).Keeps i s u ∧
      Knows tidy i (pkg i) none none none u := served_point h hinv hc hserved
  exact ⟨⟨hboth.1.inv, hboth.1.rely⟩, hboth.2⟩

theorem mountTask_triple :
    (discipline pkg tidy).Triple i (Knows tidy i (pkg i) none none none)
      ((pkg i).mountTask pkgHash10) fun _ => Knows tidy i (pkg i) none none none := by
  have hstable : (discipline pkg tidy).Stable i (Knows tidy i (pkg i) none none none) :=
    knows_stable _ _ _ _
  have hplain {p : Devices Unit} (h : (discipline pkg tidy).Triple i
      (Knows tidy i (pkg i) none none none) p fun _ => Knows tidy i (pkg i) none none none) :
      (discipline pkg tidy).Triple i (Knows tidy i (pkg i) none none none) p
        (Prog.branch (fun _ => Knows tidy i (pkg i) none none none)
          fun _ => Knows tidy i (pkg i) none none none) :=
    h.mono (fun _ h => h) fun r _ h => by cases r <;> exact h
  refine Discipline.Triple.context (hplain ?_)
  refine Discipline.Triple.bind (M := fun _ => Knows tidy i (pkg i) none none none)
    (Discipline.Triple.attempt mount_triple) fun r => ?_
  cases r with
  | ok a => exact Discipline.Triple.done hstable fun _ h => h
  | error e =>
      exact Discipline.Triple.bind (M := fun _ => Knows tidy i (pkg i) none none none)
        (Discipline.Triple.context (hplain unmount_triple)) fun _ => mount_triple

theorem unmountTask_triple :
    (discipline pkg tidy).Triple i (Knows tidy i (pkg i) none none none)
      (pkg i).unmountTask fun _ => Knows tidy i (pkg i) none none none :=
  Discipline.Triple.context (unmount_triple.mono (fun _ h => h) fun r _ h => by
    cases r <;> exact h)

end Mount

section Alone

variable {i : ι} {p : PackageFs cfg} {tidy : Prop} {s t : Host ι} {name : String}
  {d : MappedDevice ι} {target : DMTargetInfo}

/-- A command that is answered. -/
theorem command_ends {op : DmOpcode} {flags : UInt32} {dmData : Dm.DMData}
    {targets : List DMTargetInfo} {dev : UInt64} (hfits : (Dm.utf8 name).length < 128)
    (hdata : dmData.data.data.length < 2 ^ 32)
    (hserved : ∀ ioHdr, ioHdr.flags = flags → ioHdr.name = nameField name →
      servedIoctl tidy i s ioHdr targets op (t, .ok dev)) :
    ((hostShared ι tidy).comap DeviceCall.dm).Ends i
      (Dm.DMControl.command op name flags dmData targets) s (.ok dev) t := by
  rcases Dm.exists_genIoHdr_named hfits flags hdata with ⟨ioHdr, hhdr⟩
  rcases Dm.genIoHdr_named hhdr with ⟨hflags, hname, -⟩
  rw [Dm.DMControl.command, hhdr]
  exact Shared.Ends.mapError (r := .ok dev)
    (Shared.Ends.call (hserved ioHdr hflags hname) Shared.Ends.done)

/-- A command of whose answer only the kind matters. -/
theorem command_ends_unit {op : DmOpcode} {flags : UInt32} {dmData : Dm.DMData}
    {targets : List DMTargetInfo} (hfits : (Dm.utf8 name).length < 128)
    (hdata : dmData.data.data.length < 2 ^ 32)
    (hserved : ∀ ioHdr, ioHdr.flags = flags → ioHdr.name = nameField name →
      servedIoctl tidy i s ioHdr targets op (t, .ok 0)) :
    ((hostShared ι tidy).comap DeviceCall.dm).Ends i
      (((Dm.DMControl.command op name flags dmData targets).mapError (·.messages)).bind
        fun _ => pure () : Prog DmCall Error Unit) s (.ok ()) t :=
  Shared.Ends.bind (Shared.Ends.mapError (command_ends hfits hdata hserved)) Shared.Ends.done

/-- The first device of the driver. -/
def firstDevice (name : String) : DMDevice := ⟨⟨253, 0⟩, name⟩

theorem devnode_firstDevice (name : String) :
    Dm.VerityDevice.devnode (firstDevice name) = Dm.VerityDevice.devNode 0 :=
  congrArg Dm.VerityDevice.devNode (show (0 : UInt32).toNat = 0 from rfl)

theorem createDevice_ends (hfits : (Dm.utf8 name).length < 128)
    (hnone : ∀ name, s.mapped name = none) :
    ((hostShared ι tidy).comap DeviceCall.dm).Ends i (Dm.DMControl.createDevice name) s
      (.ok (firstDevice name))
      (s.setMapped (nameField name) (some ⟨0, none, none, false, some i⟩)) := by
  have hnum : Dm.DeviceNum.fromKdevT (Dm.DeviceNum.asKdevT ⟨253, 0⟩) = ⟨253, 0⟩ :=
    (Dm.fromKdevT_asKdevT_iff ⟨253, 0⟩).mpr (by decide)
  have hcommand : ((hostShared ι tidy).comap DeviceCall.dm).Ends i
      (Dm.DMControl.command .devCreate name Dm.dmReadonlyFlag .emptyData []) s
      (.ok (Dm.DeviceNum.asKdevT ⟨253, 0⟩))
      (s.setMapped (nameField name) (some ⟨0, none, none, false, some i⟩)) := by
    refine command_ends hfits Dm.length_emptyData fun ioHdr _ hname => ?_
    refine ⟨hnone _, ⟨253, 0⟩, by decide, by decide, fun n d hd => ?_, rfl, ?_⟩
    · rw [hnone n] at hd
      cases hd
    · rw [hname]
      rfl
  have hdone : ((hostShared ι tidy).comap DeviceCall.dm).Ends i
      (pure ⟨Dm.DeviceNum.fromKdevT (Dm.DeviceNum.asKdevT ⟨253, 0⟩), name⟩ :
        Prog DmCall DmFailure _)
      (s.setMapped (nameField name) (some ⟨0, none, none, false, some i⟩)) (.ok (firstDevice name))
      (s.setMapped (nameField name) (some ⟨0, none, none, false, some i⟩)) := by
    rw [hnum]
    exact Shared.Ends.done
  rw [Dm.DMControl.createDevice, Prog.bind_eq]
  exact Shared.Ends.bind hcommand hdone

theorem loadTable_ends (hfits : (Dm.utf8 name).length < 128) (htarget : Dm.Fits target) :
    ((hostShared ι tidy).comap DeviceCall.dm).Ends i (Dm.DMControl.loadTable name [target])
      (s.setMapped (nameField name) (some d)) (.ok ())
      (s.setMapped (nameField name) (some { d with inactive := some ⟨true, [target]⟩ })) := by
  rcases Dm.exists_fromTargetInfo [target] (List.forall_mem_singleton.mpr htarget)
    (by rw [List.length_singleton]; decide) with ⟨dmData, hdata⟩
  have hlength : dmData.data.data.length < 2 ^ 32 := by
    rw [(Dm.fromTargetInfo_data hdata).2, List.flatMap_singleton, Dm.length_record]
    exact htarget
  rw [Dm.DMControl.loadTable, Prog.bind_eq, hdata, Prog.ofExcept, Prog.bind, Prog.bind_eq]
  refine command_ends_unit hfits hlength fun ioHdr hflags hname =>
    ⟨d, by rw [hname, Host.setMapped_self], ?_⟩
  rw [hname, hflags, Host.setMapped_setMapped]
  rfl

theorem resumeDevice_ends (hfits : (Dm.utf8 name).length < 128) :
    ((hostShared ι tidy).comap DeviceCall.dm).Ends i (Dm.DMControl.resumeDevice name)
      (s.setMapped (nameField name) (some d)) (.ok ())
      (s.setMapped (nameField name)
        (some { d with active := d.inactive <|> d.active, inactive := none })) := by
  rw [Dm.DMControl.resumeDevice, Prog.bind_eq]
  refine command_ends_unit hfits Dm.length_emptyData fun ioHdr hflags hname =>
    ⟨d, by rw [hname, Host.setMapped_self], ?_⟩
  have hresume : ¬ ioHdr.flags &&& Dm.dmSuspendFlag ≠ 0 := by
    rw [hflags]
    decide
  rw [if_neg hresume, hname, Host.setMapped_setMapped]

/-- The device stays as long as something on it is mounted. -/
theorem removeDevice_ends (hfits : (Dm.utf8 name).length < 128)
    (hd : s.mapped (nameField name) = some d) :
    ((hostShared ι tidy).comap DeviceCall.dm).Ends i (Dm.DMControl.removeDevice name) s (.ok ())
      (s.setMapped (nameField name) (some { d with deferredRemove := true })) := by
  rw [Dm.DMControl.removeDevice, Prog.bind_eq]
  refine command_ends_unit hfits Dm.length_emptyData fun ioHdr hflags hname =>
    ⟨d, by rw [hname, hd], Or.inr ⟨?_, by rw [hname]⟩⟩
  rw [hflags]
  decide

/-- A set-up on a host without mapped devices. -/
theorem new_ends {dev : Nat} (hfits : (Dm.utf8 name).length < 128) (htarget : Dm.Fits target)
    (hmake : makeTarget (.ok 512) (loopPath dev) p.verityInfo = .ok target)
    (hnone : ∀ name, s.mapped name = none) :
    ((hostShared ι tidy).comap DeviceCall.dm).Ends i
      (Dm.VerityDevice.new name (loopPath dev) p.verityInfo) s (.ok (firstDevice name))
      (s.setMapped (nameField name) (some ⟨0, none, some ⟨true, [target]⟩, false, some i⟩)) := by
  have hcreate : ((hostShared ι tidy).comap DeviceCall.dm).Ends i
      (Dm.DMControl.createDevice name) s (.ok (firstDevice name))
      (s.setMapped (nameField name) (some ⟨0, none, none, false, some i⟩)) :=
    createDevice_ends hfits hnone
  have hload : ((hostShared ι tidy).comap DeviceCall.dm).Ends i
      (Dm.DMControl.loadTable name [target])
      (s.setMapped (nameField name) (some ⟨0, none, none, false, some i⟩)) (.ok ())
      (s.setMapped (nameField name) (some ⟨0, some ⟨true, [target]⟩, none, false, some i⟩)) :=
    loadTable_ends hfits htarget
  have hresume : ((hostShared ι tidy).comap DeviceCall.dm).Ends i
      (Dm.DMControl.resumeDevice name)
      (s.setMapped (nameField name) (some ⟨0, some ⟨true, [target]⟩, none, false, some i⟩)) (.ok ())
      (s.setMapped (nameField name) (some ⟨0, none, some ⟨true, [target]⟩, false, some i⟩)) :=
    resumeDevice_ends hfits
  have hsetup : ((hostShared ι tidy).comap DeviceCall.dm).Ends i
      (Dm.VerityDevice.setup name [target]) s (.ok (firstDevice name))
      (s.setMapped (nameField name) (some ⟨0, none, some ⟨true, [target]⟩, false, some i⟩)) := by
    rw [Dm.VerityDevice.setup, Prog.bind_eq]
    refine Shared.Ends.bind (Shared.Ends.attempt hcreate) ?_
    refine Shared.Ends.bind (a := .ok (firstDevice name)) (Shared.Ends.attempt ?_) Shared.Ends.done
    refine Shared.Ends.bind (Shared.Ends.mapError hload) ?_
    exact Shared.Ends.bind (Shared.Ends.mapError hresume) Shared.Ends.done
  have hopen : ((hostShared ι tidy).comap DeviceCall.dm).Ends i Dm.DMControl.open_ s (.ok ()) s :=
    Shared.Ends.mapError (r := .ok ()) (Shared.Ends.call rfl Shared.Ends.done)
  have hsize : ((hostShared ι tidy).comap DeviceCall.dm).Ends i
      (Prog.ask (DmCall.sectorSize (loopPath dev)) : Prog DmCall Error _) s (.ok (.ok 512)) s :=
    Shared.Ends.call rfl Shared.Ends.done
  have hmade : ((hostShared ι tidy).comap DeviceCall.dm).Ends i
      (Prog.ofExcept (makeTarget (.ok 512) (loopPath dev) p.verityInfo) : Prog DmCall Error _) s
      (.ok target) s := by
    rw [hmake]
    exact Shared.Ends.done
  rw [Dm.VerityDevice.new, Prog.bind_eq]
  exact Shared.Ends.bind hopen (Shared.Ends.bind hsize (Shared.Ends.bind hmade hsetup))

variable {pkgHash10 : String → String}

/-- A call about the mount point or the loop device, answered with the values left as they
    are. -/
theorem pass_ends {l : Locals} {β : Type} {c : DeviceCall β} {a : β}
    (hc : Served tidy i s c (t, a)) : (hostShared ι tidy).Ends i (pass l c) s (.ok (a, l)) t :=
  Shared.Ends.call hc Shared.Ends.done

/-- A host without devices. -/
def Host.blank : Host ι := ⟨fun _ => none, ∅, fun _ => none, []⟩

/-- It, with a loop device that the task has open. -/
def Host.attached (i : ι) (p : PackageFs cfg) : Host ι :=
  { Host.blank.setLoop 0
      (some ⟨p.pkgfs.path, p.pkgfs.pkgfsOffset, p.pkgfs.length, false, some i⟩) with
    handles := {(i, 0)} }

/-- With the base layer mounted, and neither of the devices dropped. -/
def Host.layered (i : ι) (p : PackageFs cfg) (name : String) (target : DMTargetInfo) : Host ι :=
  { (Host.attached i p).setMapped (nameField name)
      (some ⟨0, none, some ⟨true, [target]⟩, false, some i⟩) with
    mounts := [⟨p.pkgfs.mountPoint, .base, some 0, some i⟩] }

/-- With both of them dropped. -/
def Host.mounted (i : ι) (p : PackageFs cfg) (name : String) (target : DMTargetInfo) : Host ι where
  loops := Function.update (fun _ => none) 0
    (some ⟨p.pkgfs.path, p.pkgfs.pkgfsOffset, p.pkgfs.length, true, some i⟩)
  handles := ∅
  mapped := Function.update (fun _ => none) (nameField name)
    (some ⟨0, none, some ⟨true, [target]⟩, true, some i⟩)
  mounts := [⟨p.pkgfs.mountPoint, .base, some 0, some i⟩]

theorem mounted_mapped_iff {n : Bytes} :
    (Host.mounted i p name target).mapped n = some d ↔
      n = nameField name ∧ d = ⟨0, none, some ⟨true, [target]⟩, true, some i⟩ := by
  by_cases hn : n = nameField name
  · simp [Host.mounted, hn, eq_comm]
  · simp [Host.mounted, hn]

theorem mounted_loops_iff {dev : Nat} {l : LoopDevice ι} :
    (Host.mounted i p name target).loops dev = some l ↔
      dev = 0 ∧ l = ⟨p.pkgfs.path, p.pkgfs.pkgfsOffset, p.pkgfs.length, true, some i⟩ := by
  by_cases hdev : dev = 0
  · simp [Host.mounted, hdev, eq_comm]
  · simp [Host.mounted, hdev]

theorem mountPkgfs_ends (hcfg : cfg.overlayEnabled = false)
    (hfits : (Dm.utf8 (verityName pkgHash10 p.packageName "0")).length < 128)
    (htarget : Dm.Fits target)
    (hmake : makeTarget (.ok 512) (loopPath 0) p.verityInfo = .ok target) :
    (hostShared ι tidy).Ends i
      ((mountPkgfs p.packageName p.pkgfs).expand (carry pkgHash10 p) ⟨none, none⟩) Host.blank
      (.ok (.ok (), ⟨some 0, some (firstDevice (verityName pkgHash10 p.packageName "0"))⟩))
      (Host.layered i p (verityName pkgHash10 p.packageName "0") target) := by
  generalize hname : verityName pkgHash10 p.packageName "0" = name at hfits
  have hattach : (hostShared ι tidy).Ends i (carry pkgHash10 p ⟨none, none⟩
      (.attach p.pkgfs.path p.pkgfs.pkgfsOffset p.pkgfs.length)) Host.blank
      (.ok (.ok (), ⟨some 0, none⟩)) (Host.attached i p) := by
    refine Shared.Ends.call (t := Host.attached i p) (a := (.ok 0 : Except Error Nat)) ⟨rfl, ?_⟩
      Shared.Ends.done
    simp [Host.attached, Host.blank]
  have hpath : (hostShared ι tidy).Ends i (carry pkgHash10 p ⟨some 0, none⟩ .loopPath)
      (Host.attached i p) (.ok (some (loopPath 0), ⟨some 0, none⟩)) (Host.attached i p) :=
    pass_ends ⟨rfl, fun path hpath => (Option.some.inj hpath).symm⟩
  have hverity : (hostShared ι tidy).Ends i
      (carry pkgHash10 p ⟨some 0, none⟩ (.verityDevice (loopPath 0))) (Host.attached i p)
      (.ok (.ok (Dm.VerityDevice.devnode (firstDevice name)), ⟨some 0, some (firstDevice name)⟩))
      ((Host.attached i p).setMapped (nameField name)
        (some ⟨0, none, some ⟨true, [target]⟩, false, some i⟩)) := by
    refine Shared.Ends.bind (a := "0") (Shared.Ends.call rfl Shared.Ends.done) ?_
    rw [hname]
    exact Shared.Ends.bind (Shared.Ends.attempt (Shared.Ends.lift
      (new_ends hfits htarget hmake fun _ => rfl))) Shared.Ends.done
  have hsource : ((Host.attached i p).setMapped (nameField name)
      (some ⟨0, none, some ⟨true, [target]⟩, false, some i⟩)).Resolves
      (Dm.VerityDevice.devnode (firstDevice name)) (some 0) := by
    rw [devnode_firstDevice]
    exact Or.inl ⟨nameField name, _, Host.setMapped_self .., Option.some_ne_none _, rfl, rfl⟩
  have hbase : (hostShared ι tidy).Ends i
      (pass ⟨some 0, some (firstDevice name)⟩ (.mounting p.pkgfs.mountPoint
        (.mount .base (Dm.VerityDevice.devnode (firstDevice name)) p.pkgfs.fstype none))) _
      (.ok (.ok (), ⟨some 0, some (firstDevice name)⟩)) (Host.layered i p name target) :=
    pass_ends ⟨some 0, hsource, rfl⟩
  refine Shared.Ends.bind (pass_ends (a := false) rfl) ?_
  refine Shared.Ends.bind hattach (Shared.Ends.bind hpath (Shared.Ends.bind hverity ?_))
  refine Shared.Ends.bind (pass_ends (a := true) rfl) (Shared.Ends.bind hbase ?_)
  rw [hcfg]
  exact Shared.Ends.done

/-- On a host without devices a mount can come to its end. -/
theorem mount_ends (hcfg : cfg.overlayEnabled = false)
    (hfits : (Dm.utf8 (verityName pkgHash10 p.packageName "0")).length < 128)
    (htarget : Dm.Fits target)
    (hmake : makeTarget (.ok 512) (loopPath 0) p.verityInfo = .ok target) :
    (hostShared ι tidy).Ends i (p.mountTask pkgHash10) Host.blank (.ok ())
      (Host.mounted i p (verityName pkgHash10 p.packageName "0") target) := by
  have hmount : (hostShared ι tidy).Ends i _ Host.blank _ (Host.layered i p _ target) :=
    mountPkgfs_ends hcfg hfits htarget hmake
  generalize verityName pkgHash10 p.packageName "0" = name at hfits hmount ⊢
  have hremove : (hostShared ι tidy).Ends i (dropVerity (some (firstDevice name)))
      (Host.layered i p name target) (.ok ())
      ((Host.layered i p name target).setMapped (nameField name)
        (some ⟨0, none, some ⟨true, [target]⟩, true, some i⟩)) :=
    Shared.Ends.bind (Shared.Ends.attempt (Shared.Ends.lift
      (removeDevice_ends hfits (Host.setMapped_self ..)))) Shared.Ends.done
  have hloop : ((Host.layered i p name target).setMapped (nameField name)
      (some ⟨0, none, some ⟨true, [target]⟩, true, some i⟩)).loops 0 =
      some ⟨p.pkgfs.path, p.pkgfs.pkgfsOffset, p.pkgfs.length, false, some i⟩ := by
    simp [Host.layered, Host.attached, Host.setMapped]
  have hdetach : (hostShared ι tidy).Ends i (dropLoop (some 0))
      ((Host.layered i p name target).setMapped (nameField name)
        (some ⟨0, none, some ⟨true, [target]⟩, true, some i⟩)) (.ok ())
      (Host.mounted i p name target) := by
    refine Shared.Ends.call (a := (.ok () : Except Error Unit)) ⟨_, hloop, rfl⟩
      (Shared.Ends.call (a := ()) ?_ Shared.Ends.done)
    simp [hostShared, Served, servedLoop, Host.mounted, Host.layered, Host.attached, Host.blank,
      Host.setLoop, Host.setMapped]
  have hdrop : (hostShared ι tidy).Ends i (dropLocals ⟨some 0, some (firstDevice name)⟩)
      (Host.layered i p name target) (.ok ()) (Host.mounted i p name target) :=
    Shared.Ends.bind hremove hdetach
  have honce : (hostShared ι tidy).Ends i (p.mount pkgHash10) Host.blank (.ok ())
      (Host.mounted i p name target) :=
    Shared.Ends.bind hmount (Shared.Ends.bind hdrop Shared.Ends.done)
  exact Shared.Ends.mapError (r := .ok ())
    (Shared.Ends.bind (Shared.Ends.attempt honce) Shared.Ends.done)

end Alone

section Runs

/-- Before the first task is started nothing is one's. -/
structure Boot (s : Host ι) : Prop where
  handles : s.handles = ∅
  loops : ∀ dev l, s.loops dev = some l → l.attachedBy = none
  created : ∀ name d, s.mapped name = some d → d.createdBy = none
  mounted : ∀ e ∈ s.mounts, e.mountedBy = none
  minors : ∀ name name' d d', s.mapped name = some d → s.mapped name' = some d' →
    d.minor = d'.minor → name = name'
  inUse : ∀ minor, s.InUse minor → ∃ name d, s.mapped name = some d ∧ d.minor = minor

/-- What a task is started as. -/
def Starts (pkgHash10 : String → String) (pkg : ι → PackageFs cfg) (i : ι)
    (p : Devices Unit) : Prop :=
  p = (pkg i).mountTask pkgHash10 ∨ p = (pkg i).unmountTask

/-- The layer is read through a device of its own with the signed table in effect, and that
    over a loop device on the part of the package file. -/
def ReadThrough (p : PackageFs cfg) (s : Host ι) (e : MountEntry ι) : Prop :=
  e.target = p.pkgfs.mountPoint ∧
  ∃ name d, s.mapped name = some d ∧ e.device = some d.minor ∧
    (∀ name' d', s.mapped name' = some d' → d'.minor = d.minor → name' = name) ∧
  ∃ dev size target, d.active = some ⟨true, [target]⟩ ∧
    makeTarget (.ok size) (loopPath dev) p.verityInfo = .ok target ∧
    Dm.targetDevices target = [utf8Bytes (loopPath dev), utf8Bytes (loopPath dev)] ∧
  ∃ l, s.loops dev = some l ∧ l.backingFile = p.pkgfs.path ∧ l.offset = p.pkgfs.pkgfsOffset ∧
    l.length = p.pkgfs.length

variable {pkgHash10 : String → String} {pkg : ι → PackageFs cfg} {tidy : Prop} {s : Host ι}

theorem Boot.inv (h : Boot s) : Inv pkg s := by
  refine ⟨h.minors, h.inUse, fun name d i hd hi => ?_, fun e he i hi => ?_⟩
  · rw [h.created name d hd] at hi
    cases hi
  · rw [h.mounted e he] at hi
    cases hi

theorem Boot.knows (h : Boot s) (i : ι) (p : PackageFs cfg) :
    Knows tidy i p none none none s := by
  refine ⟨fun dev => ?_, fun dev hdev => (by cases hdev), fun name d hd => (by cases hd),
    fun _ dev l hl hi => ?_, fun _ name d hd hi => ?_⟩
  · rw [h.handles]
    exact iff_of_false (Set.notMem_empty _) (by simp)
  · rw [h.loops dev l hl] at hi
    cases hi
  · rw [h.created name d hd] at hi
    cases hi

theorem Inv.readThrough (h : Inv pkg s) {e : MountEntry ι} (he : e ∈ s.mounts) {i : ι}
    (hi : e.mountedBy = some i) (hlayer : e.layer = .base) : ReadThrough (pkg i) s e := by
  rcases h.layers e he i hi hlayer with
    ⟨htarget, name, d, ⟨readonly, targets⟩, hdevice, hname, hcreated, hactive⟩
  rcases h.tables name d i hname hcreated _ (Or.inr hactive) with
    ⟨hreadonly, dev, size, target, htargets, hmake, l, hl, hof⟩
  dsimp only at hreadonly htargets
  rw [hreadonly, htargets] at hactive
  exact ⟨htarget, name, d, hname, hdevice,
    fun name' d' hd' heq => h.minors name' name d' d hd' hname heq, dev, size, target, hactive,
    hmake, Dm.targetDevices_makeTarget (pkg i).numbered hmake, l, hl, hof.backingFile, hof.offset,
    hof.length⟩

theorem boot_blank : Boot (Host.blank : Host ι) where
  handles := rfl
  loops _ _ h := by cases h
  created _ _ h := by cases h
  mounted _ h := by cases h
  minors _ _ _ _ h := by cases h
  inUse _ h := by
    rcases h with ⟨e, he, -⟩
    cases he

variable [DecidableEq ι] {P : Pool ι DeviceCall Error Unit (Host ι)}

/-- What is known of each task in every run. -/
theorem sound_of_reaches (hs : Boot s)
    (hrun : Pool.Reaches (hostShared ι tidy) (Starts pkgHash10 pkg) (Pool.initial s) P) :
    Pool.Sound (discipline pkg tidy) (fun i => Knows tidy i (pkg i) none none none)
      (fun i _ => Knows tidy i (pkg i) none none none) P := by
  refine Pool.sound_of_reaches (fun i => knows_stable (pkg i) none none none)
    (fun i _ => knows_stable (pkg i) none none none) (fun i p hp => ?_) hs.inv
    (fun i => hs.knows i (pkg i)) hrun
  rcases hp with rfl | rfl
  · exact mountTask_triple
  · exact unmountTask_triple

/-- Every base layer a task has mounted is read through its chain, in every run of mounts
    and unmounts side by side, of which any may be killed. -/
theorem verified_chain (hs : Boot s)
    (hrun : Pool.Reaches (hostShared ι tidy) (Starts pkgHash10 pkg) (Pool.initial s) P) :
    ∀ e ∈ P.state.mounts, ∀ i, e.mountedBy = some i → e.layer = .base →
      ReadThrough (pkg i) P.state e :=
  fun _ he _ hi hlayer => (sound_of_reaches hs hrun).inv.readThrough he hi hlayer

/-- A package without an overlay. -/
def plainPackage : PackageFs ⟨"", "/mnt"⟩ where
  packageName := "p"
  pkgfs := ⟨"/p.ssam", "/mnt/p", "", "erofs", 4096, 8192, fun h => absurd h (by decide)⟩
  verityInfo := ⟨8192, 4096, "1 4096 4096 2 1 sha256 00 -", 0⟩
  numbered := ⟨1, "4096 4096 2 1 sha256 00 -", by decide⟩

/-- Its target on the first loop device. -/
def plainTarget : DMTargetInfo :=
  ⟨0, 16, "verity", "1 /dev/loop0 /dev/loop0 4096 4096 2 1 sha256 00 -"⟩

theorem makeTarget_plain :
    makeTarget (.ok 512) (loopPath 0) plainPackage.verityInfo = .ok plainTarget := by
  decide

/-- The host after the mount of that package. -/
def plainHost : Host Unit :=
  Host.mounted () plainPackage (verityName (fun _ => "00") plainPackage.packageName "0") plainTarget

theorem plain_reaches (tidy : Prop) :
    Pool.Reaches (hostShared Unit tidy) (Starts (fun _ => "00") fun _ => plainPackage)
      (Pool.initial Host.blank)
      ⟨plainHost, Function.update (fun _ => .fresh) () (.ended (.ok ()))⟩ :=
  Pool.reaches_of_ends rfl (Or.inl rfl)
    (mount_ends (by decide) (by decide) (by decide) makeTarget_plain)

/-- The base layer of that package, in the run that mounts it. -/
theorem verified_chain_plain :
    ReadThrough plainPackage plainHost ⟨"/mnt/p", .base, some 0, some ()⟩ :=
  verified_chain boot_blank (plain_reaches False) _ List.mem_cons_self () rfl rfl

/-- Where what is to be removed is removed and no task is killed, the devices that are left
    when no task runs are those in use: a mapped device has something mounted on it, and a
    loop device has a mapped device over it. -/
theorem devices_in_use (hs : Boot s)
    (hrun : Pool.Reaches (hostShared ι True) (Starts pkgHash10 pkg) (Pool.initial s) P)
    (hidle : ∀ i, P.task i = .fresh ∨ ∃ r, P.task i = .ended r) (hsettled : Settled P.state) :
    (∀ name d i, P.state.mapped name = some d → d.createdBy = some i → P.state.InUse d.minor) ∧
    (∀ dev l i, P.state.loops dev = some l → l.attachedBy = some i →
      ∃ name d, P.state.mapped name = some d ∧ d.Over dev) := by
  have hknows (i : ι) : Knows True i (pkg i) none none none P.state := by
    have hknown := (sound_of_reaches hs hrun).known i
    rcases hidle i with h | ⟨r, h⟩
    · rwa [h] at hknown
    · rwa [h] at hknown
  constructor
  · intro name d i hd hi
    refine hsettled.mapped name d hd (Bool.eq_true_of_not_eq_false fun hkept => ?_)
    rcases (hknows i).noDevice trivial name d hd hi hkept with ⟨d', hd'⟩
    cases hd'
  · intro dev l i hl hi
    have hclear : l.autoclear = true := Bool.eq_true_of_not_eq_false fun hkept => by
      cases (hknows i).noLoop trivial dev l hl hi hkept
    rcases hsettled.loops dev l hl hclear with ⟨j, hj⟩ | hover
    · cases ((hknows j).handles dev).mp hj
    · exact hover

theorem plainHost_settled : Settled plainHost := by
  constructor
  · intro name d hd _
    rcases mounted_mapped_iff.mp hd with ⟨-, rfl⟩
    exact ⟨_, List.mem_singleton_self _, rfl⟩
  · intro dev l hl _
    rcases mounted_loops_iff.mp hl with ⟨rfl, -⟩
    refine Or.inr ⟨_, _, mounted_mapped_iff.mpr ⟨rfl, rfl⟩, _, Or.inr rfl, plainTarget,
      List.mem_cons_self, ?_⟩
    rw [Dm.targetDevices_makeTarget plainPackage.numbered makeTarget_plain]
    exact List.mem_cons_self

/-- Its devices, once the mount has come to its end. -/
theorem devices_in_use_plain :
    plainHost.InUse 0 ∧ ∃ name d, plainHost.mapped name = some d ∧ d.Over 0 := by
  have h := devices_in_use boot_blank (plain_reaches True) (fun i => Or.inr ⟨_, rfl⟩)
    plainHost_settled
  exact ⟨h.1 _ _ () (mounted_mapped_iff.mpr ⟨rfl, rfl⟩) rfl,
    h.2 0 _ () (mounted_loops_iff.mpr ⟨rfl, rfl⟩) rfl⟩

end Runs

end Mount

end Ssam
