import Ssam.Mount.Host

/-!
# What a Task Knows of Its Devices

What each call of a task leaves of the devices it has: the loop device it has open, and
the mapped device it has created and not removed. Other tasks make their steps between
any two calls, and change neither. A set-up of a verity device leaves it with the signed
table in effect, or no device.

## Main definitions

* `Knows`: What a task knows of the devices it has.
* `Made`: The device of a set-up, as far as it is.

## Theorems

* `served_point`: A call about the mount point.
* `served_attach`, `served_detach`, `served_close`: The calls about a loop device.
* `served_create`, `served_load`, `served_resume`, `served_remove`: The commands.
* `new_triple`: The set-up of a verity device.
-/

namespace Ssam

namespace Mount

open Lib Package
open Dm (DMDevice DmCall DmIoctl DmOpcode DmFailure nameField)

variable {ι : Type} {cfg : MountConfig}

/-- What a task knows of the devices it has: the loop device it has open, the one it has not
    detached yet, and the mapped device it has not removed. Where the host is tidy these are
    all of its devices that are there to stay. -/
structure Knows (tidy : Prop) (i : ι) (p : PackageFs cfg) (opened kept : Option Nat)
    (made : Option (Bytes × MappedDevice ι)) (s : Host ι) : Prop where
  handles : ∀ dev, (i, dev) ∈ s.handles ↔ opened = some dev
  loop : ∀ dev, opened = some dev → ∃ l, s.loops dev = some l ∧ l.Of i p
  mapped : ∀ name d, made = some (name, d) → s.mapped name = some d ∧ d.createdBy = some i ∧
    d.deferredRemove = false
  noLoop : tidy → ∀ dev l, s.loops dev = some l → l.attachedBy = some i → l.autoclear = false →
    kept = some dev
  noDevice : tidy → ∀ name d, s.mapped name = some d → d.createdBy = some i →
    d.deferredRemove = false → ∃ d', made = some (name, d')

section Task

variable {pkg : ι → PackageFs cfg} {tidy : Prop}
  {i : ι} {p : PackageFs cfg} {opened kept : Option Nat} {made : Option (Bytes × MappedDevice ι)}
  {s t u : Host ι}

theorem Knows.of_rely (h : Knows tidy i p opened kept made s) (hst : Rely i s t) :
    Knows tidy i p opened kept made t := by
  refine ⟨fun dev => (hst.handles dev).trans (h.handles dev), fun dev hdev => ?_,
    fun name d hd => ?_,
    fun htidy dev l hl hi => h.noLoop htidy dev l (hst.attached dev l hl hi) hi,
    fun htidy name d hd hi => h.noDevice htidy name d (hst.created name d hd hi) hi⟩
  · rcases h.loop dev hdev with ⟨l, hl, hof⟩
    exact ⟨l, hst.loops dev l ((h.handles dev).mpr hdev) hl hof.attachedBy, hof⟩
  · rcases h.mapped name d hd with ⟨hname, hi, hdeferred⟩
    exact ⟨hst.mapped name d hname hi hdeferred, hi, hdeferred⟩

theorem knows_stable (p : PackageFs cfg) (opened kept : Option Nat)
    (made : Option (Bytes × MappedDevice ι)) :
    (discipline pkg tidy).Stable i (Knows tidy i p opened kept made) :=
  fun _ _ h hst _ => h.of_rely hst

/-- Only what is mounted has changed. -/
theorem Knows.of_mounts (h : Knows tidy i p opened kept made s) (mounts : List (MountEntry ι)) :
    Knows tidy i p opened kept made { s with mounts := mounts } :=
  h.of_rely (Rely.of_mounts i s mounts)

section Point

/-- A base layer is only mounted from the device, if there is one. -/
def BaseOn (made : Option (Bytes × MappedDevice ι)) {β : Type} : Syscall β → Prop
  | .mount .base source _ _ => ∃ name d, made = some (name, d) ∧ d.active ≠ none ∧
      Dm.VerityDevice.devNode d.minor = source
  | _ => True

/-- The device a task mounts its base layer from is the one it has made. -/
theorem resolves_made (h : Knows tidy i p opened kept made s) {name : Bytes}
    {d : MappedDevice ι} (hmade : made = some (name, d)) {device : Option Nat}
    (hdevice : s.Resolves (Dm.VerityDevice.devNode d.minor) device) : device = some d.minor := by
  rcases h.mapped name d hmade with ⟨hname, -, -⟩
  rcases hdevice with ⟨name', d', hname', -, hnode, hdevice⟩ | ⟨-, hnone⟩
  · rw [hdevice, Dm.devNode_injective hnode]
  · exact absurd rfl (hnone name d hname)

theorem inv_mounted (hinv : Inv pkg s) {e : MountEntry ι}
    (hdevice : ∀ minor, e.device = some minor → ∃ name d, s.mapped name = some d ∧ d.minor = minor)
    (hlayer : ∀ i, e.mountedBy = some i → e.layer = .base →
      e.target = (pkg i).pkgfs.mountPoint ∧ ∃ name d table, e.device = some d.minor ∧
        s.mapped name = some d ∧ d.createdBy = some i ∧ d.active = some table) :
    Inv pkg { s with mounts := e :: s.mounts } := by
  refine ⟨hinv.minors, fun minor hminor => ?_, hinv.tables, fun e' he' => ?_⟩
  · rcases hminor with ⟨e', he', hminor⟩
    rcases List.mem_cons.mp he' with rfl | he'
    · exact hdevice minor hminor
    · exact hinv.inUse minor ⟨e', he', hminor⟩
  · rcases List.mem_cons.mp he' with rfl | he'
    · exact hlayer
    · exact hinv.layers e' he'

theorem inv_unmounted (hinv : Inv pkg s) {mounts : List (MountEntry ι)} (h : mounts ⊆ s.mounts) :
    Inv pkg { s with mounts := mounts } :=
  ⟨hinv.minors, fun minor hminor => hinv.inUse minor (Host.InUse.of_mounts h hminor), hinv.tables,
    fun e he => hinv.layers e (h he)⟩

/-- A call about the mount point of the task's package file system. -/
theorem served_point (h : Knows tidy i (pkg i) opened kept made s) (hinv : Inv pkg s) {β : Type}
    {c : Syscall β} (hc : BaseOn made c) {a : β}
    (hserved : servedPoint i s (pkg i).pkgfs.mountPoint c (u, a)) :
    (discipline pkg tidy).Keeps i s u ∧ Knows tidy i (pkg i) opened kept made u := by
  have hsame (hu : u = s) : (discipline pkg tidy).Keeps i s u ∧
      Knows tidy i (pkg i) opened kept made u := by
    rw [hu]
    exact ⟨(discipline pkg tidy).keeps_refl i hinv, h⟩
  have hmounts {mounts : List (MountEntry ι)} (hu : u = { s with mounts := mounts })
      (hinv' : Inv pkg { s with mounts := mounts }) :
      (discipline pkg tidy).Keeps i s u ∧ Knows tidy i (pkg i) opened kept made u := by
    rw [hu]
    exact ⟨⟨hinv', fun j _ => Rely.of_mounts j s mounts⟩, h.of_mounts mounts⟩
  cases c with
  | mount layer source fstype data =>
      cases a with
      | error e => exact hsame hserved
      | ok a =>
          rcases hserved with ⟨device, hdevice, hu⟩
          refine hmounts hu (inv_mounted hinv (fun minor hminor => ?_) fun j hj hlayer => ?_)
          · rcases hdevice with ⟨name, d, hname, -, -, heq⟩ | ⟨heq, -⟩
            · dsimp only at hminor
              rw [heq, Option.some.injEq] at hminor
              exact ⟨name, d, hname, hminor⟩
            · dsimp only at hminor
              rw [heq] at hminor
              cases hminor
          · -- The layer is the base, so it comes from the device of the task.
            dsimp only at hj hlayer
            cases Option.some.inj hj
            subst hlayer
            rcases hc with ⟨name, d, hmade, hactive, rfl⟩
            rcases h.mapped name d hmade with ⟨hname, hi, -⟩
            rcases Option.ne_none_iff_exists'.mp hactive with ⟨table, htable⟩
            exact ⟨rfl, name, d, table, resolves_made h hmade hdevice, hname, hi, htable⟩
  | unmount site =>
      cases a with
      | error e => exact hsame hserved
      | ok a =>
          rcases hserved with ⟨before, e, after, hs, -, -, hu⟩
          refine hmounts hu (inv_unmounted hinv ?_)
          rw [hs]
          exact ((List.sublist_cons_self e after).append_left before).subset
  | isExactMount _ => exact hsame hserved
  | attach _ _ _ => exact hsame hserved
  | loopPath => exact hsame hserved
  | verityDevice _ => exact hsame hserved
  | targetExists _ => exact hsame hserved
  | createDirAll _ => exact hsame hserved

end Point

section Loop

/-- A loop device is attached and opened. -/
theorem served_attach (h : Knows tidy i p none none none s) (hinv : Inv pkg s)
    {r : Except Error Nat}
    (hserved : servedLoop tidy i s (.attach p.pkgfs.path p.pkgfs.pkgfsOffset p.pkgfs.length)
      (u, r)) :
    (discipline pkg tidy).Keeps i s u ∧
      Knows tidy i p r.toOption r.toOption none u := by
  cases r with
  | error e =>
      rw [show u = s from hserved]
      exact ⟨(discipline pkg tidy).keeps_refl i hinv, h⟩
  | ok dev =>
      rcases hserved with ⟨hfree, rfl⟩
      have hnone {l : LoopDevice ι} (hl : s.loops dev = some l) : False := by
        rw [hfree] at hl
        cases hl
      refine ⟨⟨?_, fun j hj => ?_⟩, fun n => ?_, fun n hn => ?_, fun name d hd => ?_,
        fun htidy n l hl hi hclear => ?_, fun htidy => h.noDevice htidy⟩
      · have hset : Inv pkg (s.setLoop dev (some ⟨p.pkgfs.path, p.pkgfs.pkgfsOffset,
            p.pkgfs.length, false, some i⟩)) :=
          Inv.setLoop hinv fun l' _ _ hl' => (hnone hl').elim
        exact ⟨hset.minors, hset.inUse, hset.tables, hset.layers⟩
      · refine (Rely.setLoop (fun l hl => (hnone hl).elim) fun l hl => ?_).trans
          (Rely.of_handles _ fun n => ?_)
        · cases hl
          exact fun heq => hj (Option.some.inj heq).symm
        · rw [Set.mem_insert_iff, Prod.mk.injEq]
          exact or_iff_right fun heq => hj heq.1
      · rw [Set.mem_insert_iff, Prod.mk.injEq, h.handles n]
        simp only [true_and, reduceCtorEq, or_false, Except.toOption, Option.some.injEq, eq_comm]
      · cases Option.some.inj hn
        exact ⟨_, s.setLoop_self dev _, rfl, rfl, rfl, rfl⟩
      · cases hd
      · by_cases hn : n = dev
        · rw [hn]
          rfl
        · have hl' : s.loops n = some l := (s.setLoop_of_ne hn _).symm.trans hl
          cases h.noLoop htidy n l hl' hi hclear

/-- It is detached, and then closed. -/
theorem served_detach {dev : Nat} (h : Knows tidy i p (some dev) (some dev) made s)
    (hinv : Inv pkg s) {r : Except Error Unit}
    (hserved : servedLoop tidy i s (.detach dev) (u, r)) :
    (discipline pkg tidy).Keeps i s u ∧ Knows tidy i p (some dev) none made u := by
  rcases h.loop dev rfl with ⟨l, hl, hof⟩
  cases r with
  | error e =>
      rcases hserved with ⟨rfl, hnone⟩
      refine ⟨(discipline pkg tidy).keeps_refl i hinv, h.handles, h.loop, h.mapped,
        fun htidy => ?_, h.noDevice⟩
      rw [hnone htidy] at hl
      cases hl
  | ok a =>
      rcases hserved with ⟨l', hl', rfl⟩
      rw [hl, Option.some.injEq] at hl'
      subst hl'
      refine ⟨⟨Inv.setLoop hinv fun l' j q hl' hofl' => ?_, fun j hj => ?_⟩, h.handles,
        fun n hn => ?_, h.mapped, fun htidy n l' hl' hi hclear => ?_, h.noDevice⟩
      · rw [hl, Option.some.injEq] at hl'
        rw [← hl'] at hofl'
        exact ⟨hofl'.backingFile, hofl'.offset, hofl'.length, hofl'.attachedBy⟩
      · have hother : l.attachedBy ≠ some j := by
          rw [hof.attachedBy]
          exact fun heq => hj (Option.some.inj heq).symm
        refine Rely.setLoop (fun l' hl' => ?_) fun l' hl' => ?_
        · rw [hl, Option.some.injEq] at hl'
          rwa [← hl']
        · cases hl'
          exact hother
      · cases Option.some.inj hn
        exact ⟨_, s.setLoop_self dev _, hof.backingFile, hof.offset, hof.length, hof.attachedBy⟩
      · by_cases hn : n = dev
        · rw [hn, s.setLoop_self, Option.some.injEq] at hl'
          rw [← hl'] at hclear
          cases hclear
        · rw [s.setLoop_of_ne hn] at hl'
          cases h.noLoop htidy n l' hl' hi hclear
          exact absurd rfl hn

theorem served_close {dev : Nat} (h : Knows tidy i p (some dev) none made s) (hinv : Inv pkg s)
    {a : Unit} (hserved : servedLoop tidy i s (.close dev) (u, a)) :
    (discipline pkg tidy).Keeps i s u ∧ Knows tidy i p none none made u := by
  cases hserved
  refine ⟨⟨⟨hinv.minors, hinv.inUse, hinv.tables, hinv.layers⟩, fun j hj =>
    Rely.of_handles _ fun n => ?_⟩, fun n => ?_, fun n hn => ?_, h.mapped, h.noLoop, h.noDevice⟩
  · exact and_iff_left fun heq => hj (congrArg Prod.fst heq)
  · constructor
    · rintro ⟨hn, hne⟩
      cases (h.handles n).mp hn
      exact absurd rfl hne
    · exact fun hn => absurd hn (by simp)
  · cases hn

end Loop

section Mapped

variable {name : Bytes} {d d' : MappedDevice ι}

/-- The task creates a device or changes its own. -/
theorem keeps_setMapped (hinv : Inv pkg s) (hi : d.createdBy = some i)
    (hminor : ∀ name' d', s.mapped name' = some d' → d'.minor = d.minor → name' = name)
    (htables : ∀ table, d.HasTable table → Backed i (pkg i) s.loops table)
    (hold : ∀ d', s.mapped name = some d' → d.minor = d'.minor ∧ d'.createdBy = some i ∧
      (d'.active ≠ none → d.active ≠ none)) :
    (discipline pkg tidy).Keeps i s (s.setMapped name (some d)) := by
  have hother {j : ι} (hj : j ≠ i) : some i ≠ some j := fun heq => hj (Option.some.inj heq).symm
  refine ⟨hinv.setMapped hminor (fun j hj => ?_) fun d' hd' => ?_, fun j hj =>
    Rely.setMapped (fun d' hd' => ?_) fun d' hd' => ?_⟩
  · rw [hi] at hj
    cases hj
    exact htables
  · rcases hold d' hd' with ⟨heq, hi', hactive⟩
    exact ⟨heq, hi.trans hi'.symm, hactive⟩
  · rw [(hold d' hd').2.1]
    exact hother hj
  · cases hd'
    rw [hi]
    exact hother hj

/-- The device a task has made, after it has changed it. -/
theorem Knows.setMapped (h : Knows tidy i p opened kept made s)
    (hmade : ∀ name' d', made = some (name', d') → name' = name) (hi : d.createdBy = some i)
    (hdeferred : d.deferredRemove = false) :
    Knows tidy i p opened kept (some (name, d)) (s.setMapped name (some d)) := by
  refine ⟨h.handles, h.loop, fun n d' hd' => ?_, h.noLoop, fun htidy n d' hd' hi' hdeferred' => ?_⟩
  · cases hd'
    exact ⟨s.setMapped_self name _, hi, hdeferred⟩
  · by_cases hn : n = name
    · exact ⟨d, by rw [hn]⟩
    · rw [s.setMapped_of_ne hn] at hd'
      rcases h.noDevice htidy n d' hd' hi' hdeferred' with ⟨d'', hd''⟩
      exact absurd (hmade n d'' hd'') hn

/-- A device a task has made and asked to be removed is no longer one it has. -/
theorem Knows.removed (h : Knows tidy i p opened kept (some (name, d)) s)
    {d' : Option (MappedDevice ι)} (hdeferred : ∀ d₁, d' = some d₁ → d₁.deferredRemove = true) :
    Knows tidy i p opened kept none (s.setMapped name d') := by
  refine ⟨h.handles, h.loop, fun n d₁ hd₁ => ?_, h.noLoop, fun htidy n d₁ hd₁ hi hkept => ?_⟩
  · cases hd₁
  · by_cases hn : n = name
    · rw [hn, s.setMapped_self] at hd₁
      rw [hdeferred d₁ hd₁] at hkept
      cases hkept
    · rw [s.setMapped_of_ne hn] at hd₁
      rcases h.noDevice htidy n d₁ hd₁ hi hkept with ⟨d₂, hd₂⟩
      cases hd₂
      exact absurd rfl hn

/-- A device is created. -/
theorem served_create {ioHdr : DmIoctl} {targets : List DMTargetInfo}
    {r : Except DmFailure UInt64} (h : Knows tidy i p opened kept none s) (hinv : Inv pkg s)
    (hserved : servedIoctl tidy i s ioHdr targets .devCreate (u, r)) :
    (discipline pkg tidy).Keeps i s u ∧
      Prog.branch (fun dev u => ∃ d, Knows tidy i p opened kept (some (ioHdr.name, d)) u ∧
          d.minor = (Dm.DeviceNum.fromKdevT dev).minor.toNat)
        (fun _ u => Knows tidy i p opened kept none u) r u := by
  cases r with
  | error e =>
      rw [show u = s from hserved]
      exact ⟨(discipline pkg tidy).keeps_refl i hinv, h⟩
  | ok dev =>
      rcases hserved with ⟨hfree, num, hmajor, hminor, hnew, rfl, rfl⟩
      refine ⟨keeps_setMapped hinv rfl (fun n d' hd' heq => absurd heq (hnew n d' hd'))
        (fun table htable => ?_) fun d' hd' => ?_, ⟨num.minor.toNat, none, none, false, some i⟩,
        h.setMapped (fun _ _ hmade => by cases hmade) rfl rfl, ?_⟩
      · rcases htable with htable | htable <;> cases htable
      · rw [hfree] at hd'
        cases hd'
      · rw [(Dm.fromKdevT_asKdevT_iff num).mpr ⟨hmajor, hminor⟩]

/-- It is given a table. -/
theorem served_load {ioHdr : DmIoctl} {targets : List DMTargetInfo}
    {r : Except DmFailure UInt64} (h : Knows tidy i (pkg i) opened kept (some (ioHdr.name, d)) s)
    (hinv : Inv pkg s)
    (hbacked : Backed i (pkg i) s.loops ⟨ioHdr.flags &&& Dm.dmReadonlyFlag ≠ 0, targets⟩)
    (hserved : servedIoctl tidy i s ioHdr targets .tableLoad (u, r)) :
    (discipline pkg tidy).Keeps i s u ∧
      ∃ d', Knows tidy i (pkg i) opened kept (some (ioHdr.name, d')) u ∧ d'.minor = d.minor ∧
        (r.toBool → d'.inactive ≠ none) := by
  rcases h.mapped ioHdr.name d rfl with ⟨hname, hi, hdeferred⟩
  cases r with
  | error e =>
      rw [show u = s from hserved]
      exact ⟨(discipline pkg tidy).keeps_refl i hinv, d, h, rfl, fun hr => by cases hr⟩
  | ok dev =>
      rcases hserved with ⟨d', hd', rfl⟩
      rw [hname, Option.some.injEq] at hd'
      subst hd'
      refine ⟨keeps_setMapped hinv hi (fun n d' hd' heq => hinv.minors n _ d' d hd' hname heq)
        (fun table htable => ?_) fun d' hd' => ?_, _,
        h.setMapped (fun _ _ hmade => by cases hmade; rfl) hi hdeferred, rfl,
        fun _ => Option.some_ne_none _⟩
      · rcases htable with htable | htable
        · cases htable
          exact hbacked
        · exact hinv.tables _ d i hname hi table (Or.inr htable)
      · rw [hname, Option.some.injEq] at hd'
        subst hd'
        exact ⟨rfl, hi, id⟩

/-- It is resumed with the table it was given. -/
theorem served_resume {ioHdr : DmIoctl} (hflags : ioHdr.flags = Dm.dmReadonlyFlag)
    {targets : List DMTargetInfo} {r : Except DmFailure UInt64}
    (h : Knows tidy i (pkg i) opened kept (some (ioHdr.name, d)) s) (hinv : Inv pkg s)
    (hinactive : d.inactive ≠ none)
    (hserved : servedIoctl tidy i s ioHdr targets .devSuspend (u, r)) :
    (discipline pkg tidy).Keeps i s u ∧
      ∃ d', Knows tidy i (pkg i) opened kept (some (ioHdr.name, d')) u ∧ d'.minor = d.minor ∧
        (r.toBool → d'.active ≠ none) := by
  rcases h.mapped ioHdr.name d rfl with ⟨hname, hi, hdeferred⟩
  cases r with
  | error e =>
      rw [show u = s from hserved]
      exact ⟨(discipline pkg tidy).keeps_refl i hinv, d, h, rfl, fun hr => by cases hr⟩
  | ok dev =>
      rcases hserved with ⟨d', hd', hu⟩
      rw [hname, Option.some.injEq] at hd'
      subst hd'
      have hresume : ¬ ioHdr.flags &&& Dm.dmSuspendFlag ≠ 0 := by
        rw [hflags]
        decide
      rw [if_neg hresume] at hu
      subst hu
      rcases Option.ne_none_iff_exists'.mp hinactive with ⟨table, htable⟩
      have hactive : (d.inactive <|> d.active) = some table := by
        rw [htable]
        rfl
      refine ⟨keeps_setMapped hinv hi (fun n d' hd' heq => hinv.minors n _ d' d hd' hname heq)
        (fun table' htable' => ?_) fun d' hd' => ?_, _,
        h.setMapped (fun _ _ hmade => by cases hmade; rfl) hi hdeferred, rfl, fun _ => ?_⟩
      · rcases htable' with htable' | htable'
        · cases htable'
        · dsimp only at htable'
          rw [hactive] at htable'
          cases htable'
          exact hinv.tables _ d i hname hi table (Or.inl htable)
      · rw [hname, Option.some.injEq] at hd'
        subst hd'
        refine ⟨rfl, hi, fun _ => ?_⟩
        dsimp only
        rw [hactive]
        exact Option.some_ne_none table
      · dsimp only
        rw [hactive]
        exact Option.some_ne_none table

/-- It is removed, or is to go when nothing is mounted on it. -/
theorem served_remove {ioHdr : DmIoctl} {targets : List DMTargetInfo}
    {r : Except DmFailure UInt64}
    (h : Knows tidy i (pkg i) opened kept (some (ioHdr.name, d)) s) (hinv : Inv pkg s)
    (hserved : servedIoctl tidy i s ioHdr targets .devRemove (u, r)) :
    (discipline pkg tidy).Keeps i s u ∧ Knows tidy i (pkg i) opened kept none u := by
  rcases h.mapped ioHdr.name d rfl with ⟨hname, hi, hdeferred⟩
  have hother {j : ι} (hj : j ≠ i) : d.createdBy ≠ some j := by
    rw [hi]
    exact fun heq => hj (Option.some.inj heq).symm
  cases r with
  | error e =>
      rcases hserved with ⟨rfl, hnone⟩
      refine ⟨(discipline pkg tidy).keeps_refl i hinv, h.handles, h.loop,
        fun n d' hd' => (by cases hd'), h.noLoop, fun htidy => ?_⟩
      rw [hnone htidy] at hname
      cases hname
  | ok dev =>
      rcases hserved with ⟨d', hd', ⟨hfree, rfl⟩ | ⟨-, rfl⟩⟩
      · rw [hname, Option.some.injEq] at hd'
        subst hd'
        refine ⟨⟨hinv.removed hname hfree, fun j hj => Rely.setMapped (fun d' hd' => ?_)
          fun d' hd' => by cases hd'⟩, h.removed fun d' hd' => by cases hd'⟩
        rw [hname, Option.some.injEq] at hd'
        subst hd'
        exact hother hj
      · rw [hname, Option.some.injEq] at hd'
        subst hd'
        refine ⟨keeps_setMapped hinv hi (fun n d' hd' heq => hinv.minors n _ d' d hd' hname heq)
          (fun table htable => hinv.tables _ d i hname hi table htable) fun d' hd' => ?_,
          h.removed fun d' hd' => by cases hd'; rfl⟩
        rw [hname, Option.some.injEq] at hd'
        subst hd'
        exact ⟨rfl, hi, id⟩

end Mapped

section SetUp

/-- The task has made the device, which is as far as `stage` says. -/
def Made (tidy : Prop) (i : ι) (p : PackageFs cfg) (opened kept : Option Nat) (device : DMDevice)
    (stage : MappedDevice ι → Prop) (s : Host ι) : Prop :=
  (Dm.utf8 device.deviceName).length < 128 ∧
    ∃ d, Knows tidy i p opened kept (some (nameField device.deviceName, d)) s ∧
      d.minor = device.devNo.minor.toNat ∧ stage d

theorem made_stable (p : PackageFs cfg) (opened kept : Option Nat) (device : DMDevice)
    (stage : MappedDevice ι → Prop) :
    (discipline pkg tidy).Stable i (Made tidy i p opened kept device stage) := by
  rintro s t ⟨hfits, d, h, hminor, hstage⟩ hst -
  exact ⟨hfits, d, h.of_rely hst, hminor, hstage⟩

/-- A command fails before it is sent, or is answered. -/
theorem command_triple {op : DmOpcode} {name : String} {flags : UInt32} {dmData : Dm.DMData}
    {targets : List DMTargetInfo} {P err : Host ι → Prop} {ok : UInt64 → Host ι → Prop}
    (hP : (discipline pkg tidy).Stable i P)
    (hok : ∀ dev, (discipline pkg tidy).Stable i (ok dev))
    (herr : (discipline pkg tidy).Stable i err)
    (hfail : ∀ e, Dm.genIoHdr (some name) none flags dmData = .error e → ∀ s, P s → err s)
    (hc : ∀ ioHdr s u r, ioHdr.flags = flags → ioHdr.name = nameField name →
      (Dm.utf8 name).length < 128 → P s → Inv pkg s → servedIoctl tidy i s ioHdr targets op (u, r) →
      (discipline pkg tidy).Keeps i s u ∧ Prog.branch ok (fun _ => err) r u) :
    ((discipline pkg tidy).comap DeviceCall.dm).Triple i P
      (Dm.DMControl.command op name flags dmData targets) (Prog.branch ok fun _ => err) := by
  rw [Dm.DMControl.command]
  cases hhdr : Dm.genIoHdr (some name) none flags dmData with
  | error e => exact Discipline.Triple.done hP.comap fun s h => hfail e hhdr s h
  | ok ioHdr =>
      rcases Dm.genIoHdr_named hhdr with ⟨hflags, hname, hfits⟩
      have hsent : ((discipline pkg tidy).comap DeviceCall.dm).Triple i P
          (Prog.try_ (DmCall.ioctl op ioHdr targets)) (Prog.branch ok fun _ => err) := by
        refine Discipline.Triple.try_ hP.comap (fun r => ?_) fun s u r hs hinv hserved => ?_
        · cases r with
          | ok dev => exact (hok dev).comap
          | error e => exact herr.comap
        · rcases hc ioHdr s u r hflags hname hfits hs hinv hserved with ⟨hkeeps, hr⟩
          exact ⟨⟨hkeeps.inv, hkeeps.rely⟩, hr⟩
      refine Discipline.Triple.mapError (hsent.mono (fun _ h => h) fun r s h => ?_)
      cases r <;> exact h

theorem createDevice_triple (name : String) :
    ((discipline pkg tidy).comap DeviceCall.dm).Triple i (Knows tidy i p opened kept none)
      (Dm.DMControl.createDevice name)
      (Prog.branch (fun device s => device.deviceName = name ∧
        Made tidy i p opened kept device (fun _ => True) s)
        fun _ => Knows tidy i p opened kept none) := by
  have hstable (device : DMDevice) : (discipline pkg tidy).Stable i
      (Made tidy i p opened kept device fun _ => True) := made_stable p opened kept device _
  have hcommand : ((discipline pkg tidy).comap DeviceCall.dm).Triple i
      (Knows tidy i p opened kept none)
      (Dm.DMControl.command .devCreate name Dm.dmReadonlyFlag .emptyData [])
      (Prog.branch (fun dev =>
        Made tidy i p opened kept ⟨Dm.DeviceNum.fromKdevT dev, name⟩ fun _ => True)
        fun _ => Knows tidy i p opened kept none) := by
    refine command_triple (knows_stable p opened kept none) (fun dev => hstable _)
      (knows_stable p opened kept none) (fun _ _ _ h => h)
      fun ioHdr s u r _ hname hfits h hinv hserved => ?_
    rcases served_create h hinv hserved with ⟨hkeeps, hr⟩
    refine ⟨hkeeps, ?_⟩
    cases r with
    | error e => exact hr
    | ok dev =>
        rcases hr with ⟨d, hd, hminor⟩
        rw [hname] at hd
        exact ⟨hfits, d, hd, hminor, trivial⟩
  rw [Dm.DMControl.createDevice, Prog.bind_eq]
  exact hcommand.bind fun dev => Discipline.Triple.done (hstable _).comap fun s h => ⟨rfl, h⟩

/-- A command on a device the task has made, of whose answer only the kind matters. -/
theorem changed_triple {op : DmOpcode} {flags : UInt32} {dmData : Dm.DMData}
    {targets : List DMTargetInfo} {device : DMDevice} {before after : MappedDevice ι → Prop}
    (hc : ∀ ioHdr d s u r, ioHdr.flags = flags →
      Knows tidy i p opened kept (some (ioHdr.name, d)) s → before d → Inv pkg s →
      servedIoctl tidy i s ioHdr targets op (u, r) →
      (discipline pkg tidy).Keeps i s u ∧
        ∃ d', Knows tidy i p opened kept (some (ioHdr.name, d')) u ∧ d'.minor = d.minor ∧
          (r.toBool → after d')) :
    ((discipline pkg tidy).comap DeviceCall.dm).Triple i
      (Made tidy i p opened kept device before)
      (Dm.DMControl.command op device.deviceName flags dmData targets)
      (Prog.branch (fun _ => Made tidy i p opened kept device after)
        fun _ => Made tidy i p opened kept device fun _ => True) := by
  refine command_triple (made_stable p opened kept device _)
    (fun _ => made_stable p opened kept device _)
    (made_stable p opened kept device _) (fun _ _ s h => ?_)
    fun ioHdr s u r hflags hname _ h hinv hserved => ?_
  · rcases h with ⟨hfits, d, hd, hminor, -⟩
    exact ⟨hfits, d, hd, hminor, trivial⟩
  · rcases h with ⟨hfits, d, hd, hminor, hbefore⟩
    rw [← hname] at hd
    rcases hc ioHdr d s u r hflags hd hbefore hinv hserved with ⟨hkeeps, d', hd', hminor', hafter⟩
    refine ⟨hkeeps, ?_⟩
    rw [hname] at hd'
    cases r with
    | ok dev => exact ⟨hfits, d', hd', hminor'.trans hminor, hafter rfl⟩
    | error e => exact ⟨hfits, d', hd', hminor'.trans hminor, trivial⟩

variable {dev : Nat} {size : UInt32} {target : DMTargetInfo} {device : DMDevice}

/-- The table of the package file system, on the loop device the task has open. -/
theorem backed_of_knows (h : Knows tidy i p (some dev) kept made s)
    (htarget : makeTarget (.ok size) (loopPath dev) p.verityInfo = .ok target) {flags : UInt32}
    (hflags : flags = Dm.dmReadonlyFlag) :
    Backed i p s.loops ⟨flags &&& Dm.dmReadonlyFlag ≠ 0, [target]⟩ := by
  have hreadonly : Dm.dmReadonlyFlag &&& Dm.dmReadonlyFlag ≠ 0 := by decide
  rw [hflags]
  exact ⟨decide_eq_true hreadonly, dev, size, target, rfl, htarget, h.loop dev rfl⟩

theorem loadTable_triple
    (htarget : makeTarget (.ok size) (loopPath dev) (pkg i).verityInfo = .ok target) :
    ((discipline pkg tidy).comap DeviceCall.dm).Triple i
      (Made tidy i (pkg i) (some dev) kept device fun _ => True)
      (Dm.DMControl.loadTable device.deviceName [target])
      (Prog.branch (fun _ => Made tidy i (pkg i) (some dev) kept device (·.inactive ≠ none))
        fun _ => Made tidy i (pkg i) (some dev) kept device fun _ => True) := by
  have hstable (stage : MappedDevice ι → Prop) : (discipline pkg tidy).Stable i
      (Made tidy i (pkg i) (some dev) kept device stage) := made_stable _ _ _ device stage
  rw [Dm.DMControl.loadTable, Prog.bind_eq]
  cases hdata : Dm.DMData.fromTargetInfo [target] with
  | error e => exact Discipline.Triple.done (hstable _).comap fun s h => h
  | ok dmData =>
      have hcommand : ((discipline pkg tidy).comap DeviceCall.dm).Triple i
          (Made tidy i (pkg i) (some dev) kept device fun _ => True)
          (Dm.DMControl.command .tableLoad device.deviceName Dm.dmReadonlyFlag dmData [target])
          (Prog.branch (fun _ => Made tidy i (pkg i) (some dev) kept device (·.inactive ≠ none))
            fun _ => Made tidy i (pkg i) (some dev) kept device fun _ => True) :=
        changed_triple fun ioHdr d s u r hflags h _ hinv hserved =>
          served_load h hinv (backed_of_knows h htarget hflags) hserved
      rw [Prog.ofExcept, Prog.bind, Prog.bind_eq]
      refine Discipline.Triple.bind (Discipline.Triple.mapError (hcommand.mono (fun _ h => h) ?_))
        fun _ => Discipline.Triple.done (hstable _).comap fun s h => h
      intro r s h
      cases r <;> exact h

theorem resumeDevice_triple :
    ((discipline pkg tidy).comap DeviceCall.dm).Triple i
      (Made tidy i (pkg i) opened kept device (·.inactive ≠ none))
      (Dm.DMControl.resumeDevice device.deviceName)
      (Prog.branch (fun _ => Made tidy i (pkg i) opened kept device (·.active ≠ none))
        fun _ => Made tidy i (pkg i) opened kept device fun _ => True) := by
  have hcommand : ((discipline pkg tidy).comap DeviceCall.dm).Triple i
      (Made tidy i (pkg i) opened kept device (·.inactive ≠ none))
      (Dm.DMControl.command .devSuspend device.deviceName Dm.dmReadonlyFlag .emptyData [])
      (Prog.branch (fun _ => Made tidy i (pkg i) opened kept device (·.active ≠ none))
        fun _ => Made tidy i (pkg i) opened kept device fun _ => True) :=
    changed_triple fun ioHdr d s u r hflags h hinactive hinv hserved =>
      served_resume hflags h hinv hinactive hserved
  have hstable : (discipline pkg tidy).Stable i
      (Made tidy i (pkg i) opened kept device (·.active ≠ none)) := made_stable _ _ _ device _
  rw [Dm.DMControl.resumeDevice, Prog.bind_eq]
  refine Discipline.Triple.bind (Discipline.Triple.mapError (hcommand.mono (fun _ h => h) ?_))
    fun _ => Discipline.Triple.done hstable.comap fun s h => h
  intro r s h
  cases r <;> exact h

/-- The device is removed, or it is not: the task has it no longer. -/
theorem removeDevice_triple (stage : MappedDevice ι → Prop) :
    ((discipline pkg tidy).comap DeviceCall.dm).Triple i
      (Made tidy i (pkg i) opened kept device stage)
      (Dm.DMControl.removeDevice device.deviceName)
      fun _ => Knows tidy i (pkg i) opened kept none := by
  have hstable : (discipline pkg tidy).Stable i (Knows tidy i (pkg i) opened kept none) :=
    knows_stable (pkg i) opened kept none
  have hcommand : ((discipline pkg tidy).comap DeviceCall.dm).Triple i
      (Made tidy i (pkg i) opened kept device stage)
      (Dm.DMControl.command .devRemove device.deviceName Dm.dmDeferredRemove .emptyData [])
      (Prog.branch (fun _ => Knows tidy i (pkg i) opened kept none)
        fun _ => Knows tidy i (pkg i) opened kept none) := by
    refine command_triple (made_stable (pkg i) opened kept device _) (fun _ => hstable) hstable
      (fun e he s h => ?_) fun ioHdr s u r _ hname _ h hinv hserved => ?_
    · -- The name has been in a header before.
      rcases Dm.exists_genIoHdr_named h.1 Dm.dmDeferredRemove Dm.length_emptyData with ⟨ioHdr, hhdr⟩
      rw [hhdr] at he
      cases he
    · rcases h with ⟨-, d, hd, -, -⟩
      rw [← hname] at hd
      rcases served_remove hd hinv hserved with ⟨hkeeps, hknows⟩
      refine ⟨hkeeps, ?_⟩
      cases r <;> exact hknows
  rw [Dm.DMControl.removeDevice, Prog.bind_eq]
  refine Discipline.Triple.bind (Discipline.Triple.mapError (hcommand.mono (fun _ h => h) ?_))
    fun _ => Discipline.Triple.done hstable.comap fun s h => h
  intro r s h
  cases r <;> exact h

/-- A set-up leaves the device with its table in effect, or no device. -/
theorem setup_triple (name : String)
    (htarget : makeTarget (.ok size) (loopPath dev) (pkg i).verityInfo = .ok target) :
    ((discipline pkg tidy).comap DeviceCall.dm).Triple i
      (Knows tidy i (pkg i) (some dev) kept none) (Dm.VerityDevice.setup name [target])
      (Prog.branch (fun device => Made tidy i (pkg i) (some dev) kept device (·.active ≠ none))
        fun _ => Knows tidy i (pkg i) (some dev) kept none) := by
  have hmade (device : DMDevice) (stage : MappedDevice ι → Prop) :
      (discipline pkg tidy).Stable i (Made tidy i (pkg i) (some dev) kept device stage) :=
    made_stable _ _ _ device stage
  have hknows : (discipline pkg tidy).Stable i (Knows tidy i (pkg i) (some dev) kept none) :=
    knows_stable (pkg i) (some dev) kept none
  have hsame (s u : Host ι) (h : Knows tidy i (pkg i) (some dev) kept none s) (hinv : Inv pkg s)
      (hu : u = s) : ((discipline pkg tidy).comap DeviceCall.dm).Keeps i s u ∧
        Knows tidy i (pkg i) (some dev) kept none u := by
    rw [hu]
    exact ⟨⟨hinv, fun j _ => Rely.refl j s⟩, h⟩
  rw [Dm.VerityDevice.setup, Prog.bind_eq]
  refine Discipline.Triple.bind (M := Prog.branch
    (fun device s => device.deviceName = name ∧
      Made tidy i (pkg i) (some dev) kept device (fun _ => True) s)
    fun _ => Knows tidy i (pkg i) (some dev) kept none)
    (Discipline.Triple.attempt (createDevice_triple name)) fun r => ?_
  cases r with
  | error e =>
      -- Nothing was created, and nothing is removed: the devices are only listed.
      dsimp only
      rw [Dm.VerityDevice.createFailed]
      split
      · refine Discipline.Triple.bind (M := fun _ => Knows tidy i (pkg i) (some dev) kept none)
          (Discipline.Triple.try_ hknows.comap (fun r => by cases r <;> exact hknows.comap)
            fun s u r h hinv hserved => ?_) fun devList => ?_
        · rcases hsame s u h hinv hserved with ⟨hkeeps, hu⟩
          cases r <;> exact ⟨hkeeps, hu⟩
        · split <;> exact Discipline.Triple.done hknows.comap fun _ h => h
      · exact Discipline.Triple.done hknows.comap fun _ h => h
  | ok device =>
      refine Discipline.Triple.of_imp ?_
      rintro rfl
      refine Discipline.Triple.onError
        (M := fun _ => Made tidy i (pkg i) (some dev) kept device fun _ => True)
        (fun device => (hmade device _).comap) (fun _ => hknows.comap) ?_
        fun _ => removeDevice_triple _
      refine Discipline.Triple.bind
        (Discipline.Triple.context (loadTable_triple htarget)) fun _ => ?_
      refine Discipline.Triple.bind (Discipline.Triple.context resumeDevice_triple) fun _ => ?_
      exact Discipline.Triple.done (hmade device _).comap fun _ h => h

theorem new_triple (name : String) :
    ((discipline pkg tidy).comap DeviceCall.dm).Triple i
      (Knows tidy i (pkg i) (some dev) kept none)
      (Dm.VerityDevice.new name (loopPath dev) (pkg i).verityInfo)
      (Prog.branch (fun device => Made tidy i (pkg i) (some dev) kept device (·.active ≠ none))
        fun _ => Knows tidy i (pkg i) (some dev) kept none) := by
  have hknows : (discipline pkg tidy).Stable i (Knows tidy i (pkg i) (some dev) kept none) :=
    knows_stable (pkg i) (some dev) kept none
  have hsame (s u : Host ι) (h : Knows tidy i (pkg i) (some dev) kept none s) (hinv : Inv pkg s)
      (hu : u = s) : ((discipline pkg tidy).comap DeviceCall.dm).Keeps i s u ∧
        Knows tidy i (pkg i) (some dev) kept none u := by
    rw [hu]
    exact ⟨⟨hinv, fun j _ => Rely.refl j s⟩, h⟩
  rw [Dm.VerityDevice.new, Prog.bind_eq]
  refine Discipline.Triple.bind (M := fun _ => Knows tidy i (pkg i) (some dev) kept none)
    (Discipline.Triple.context (Discipline.Triple.try_ hknows.comap
      (fun r => by cases r <;> exact hknows.comap) fun s u r h hinv hserved => ?_)) fun _ => ?_
  · rcases hsame s u h hinv hserved with ⟨hkeeps, hu⟩
    cases r <;> exact ⟨hkeeps, hu⟩
  · refine Discipline.Triple.bind (M := fun _ => Knows tidy i (pkg i) (some dev) kept none)
      (Discipline.Triple.ask hknows.comap (fun _ => hknows.comap)
        fun s u a h hinv hserved => hsame s u h hinv hserved) fun sectorSize => ?_
    cases htarget : makeTarget sectorSize (loopPath dev) (pkg i).verityInfo with
    | error e => exact Discipline.Triple.done hknows.comap fun _ h => h
    | ok target =>
        cases sectorSize with
        | error e => cases htarget
        | ok size =>
            rw [Prog.ofExcept, Prog.bind_eq, Prog.bind]
            exact setup_triple name htarget

end SetUp

end Task

end Mount

end Ssam
