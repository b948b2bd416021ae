import Ssam.Daemon.Volumes
import Ssam.Volume.IdSupply

/-!
# The File System with its Quotas

A package may declare how much it stores. Its data directory then has a project id, and the
file system keeps a record for each id with the limit of what is in the project. The calls
of the volume manager are carried out here on the directories and on the records.

The directories and the records are two maps. A creation or a removal is about one directory
and one id, and whatever else is on the file system stays (`About`). What it does to the
directories is what it does to them without records.

## Main definitions

* `DqBlk`, `QuotaValid`: The record of an id, and what of it a call sets.
* `QuotaFs`: The file system with its quotas.
* `onStart`, `handleAcquireVolume`, `handlePurgeVolume`, `handleGetQuotaInfo`: The actor.
* `About`: The calls about one directory and one id.

## Theorems

* `beside_of_only`: What is about one directory and one id leaves the others alone.
* `handleAcquireVolume_agrees`, `handlePurgeVolume_agrees`: The messages, on either disk.
* `createWith_spec`: What a creation that succeeds leaves.
-/

namespace Ssam

namespace Daemon

open Lib Manager Volume Function

/-- The quotas of a file system. -/
inductive QuotaType where
  | user
  | group
  | project
  deriving DecidableEq

/-- What is switched on of the quotas: the usage is counted, and the limits are enforced. -/
inductive FsQuotaStateFlag where
  | acct (t : QuotaType)
  | enfd (t : QuotaType)
  deriving DecidableEq

/-- The record of an id. The limits of blocks are in kilobytes. -/
structure DqBlk where
  bhardlimit : Nat
  bsoftlimit : Nat
  curspace : Nat
  ihardlimit : Nat
  isoftlimit : Nat
  curinodes : Nat
  btime : Nat
  itime : Nat
  deriving DecidableEq

/-- A record without limits. -/
def DqBlk.blank : DqBlk := ⟨0, 0, 0, 0, 0, 0, 0, 0⟩

/-- Which fields of a record are set. -/
structure QuotaValid where
  blimits : Bool
  space : Bool
  ilimits : Bool
  inodes : Bool
  btime : Bool
  itime : Bool

/-- The record with the fields of another one that are set. -/
def DqBlk.setQuota (old new : DqBlk) (valid : QuotaValid) : DqBlk where
  bhardlimit := if valid.blimits then new.bhardlimit else old.bhardlimit
  bsoftlimit := if valid.blimits then new.bsoftlimit else old.bsoftlimit
  curspace := if valid.space then new.curspace else old.curspace
  ihardlimit := if valid.ilimits then new.ihardlimit else old.ihardlimit
  isoftlimit := if valid.ilimits then new.isoftlimit else old.isoftlimit
  curinodes := if valid.inodes then new.curinodes else old.curinodes
  btime := if valid.btime then new.btime else old.btime
  itime := if valid.itime then new.itime else old.itime

/-- The record with other limits of blocks. -/
def DqBlk.setBlockLimits (old : DqBlk) (softLimitKb hardLimitKb : Nat) : DqBlk :=
  old.setQuota { DqBlk.blank with bhardlimit := hardLimitKb, bsoftlimit := softLimitKb }
    ⟨true, false, false, false, false, false⟩

/-- How much may be stored, `none` if there is no limit. -/
def DqBlk.cap (record : DqBlk) : Option Nat :=
  if record.bhardlimit = 0 then none else some record.bhardlimit

/-- The file system: the data root, the records of the projects and what is switched on. -/
structure QuotaFs where
  root : DataRoot
  records : Nat → DqBlk
  flags : FsQuotaStateFlag → Bool

/-- Answer a call. Limits are set in the record of the id. -/
def QuotaFs.serve (k : DirKernel) {α : Type} (fs : QuotaFs) : DirCall α → QuotaFs × α
  | .setBlockLimits id softLimit hardLimit =>
      match k.setBlockLimits with
      | .error e => (fs, .error e)
      | .ok () =>
          let record := (fs.records id).setBlockLimits softLimit hardLimit
          ({ fs with records := update fs.records id record }, .ok ())
  | c => ({ fs with root := (k.serve fs.root c).1 }, (k.serve fs.root c).2)

/-- What is answered while the actor starts. -/
structure StartAnswers where
  /-- The mount point of the data root. -/
  findmnt : Except Error String
  /-- The type of the file system there. -/
  mountEntry : Except Error String
  getQstat : Except Error Unit
  getStatus : Except Error Unit
  quotaOn : Except Error Unit

/-- The handle of the quotas, if the file system has any. -/
def ext4QuotaNew (answers : StartAnswers) (fs : QuotaFs) : Except Error Unit := do
  let vfstype ← answers.mountEntry
  ensure (vfstype = "ext4") s!"Unsupported filesystem type: {vfstype}"
  answers.getQstat
  ensure (fs.flags (.acct .project)) "Quota is not enabled"
  .ok ()

/-- Have the limits enforced. -/
def enforce (answers : StartAnswers) (fs : QuotaFs) : QuotaFs × Except Error Unit :=
  match answers.getStatus with
  | .error e => (fs, .error e)
  | .ok () =>
      if fs.flags (.enfd .project) then (fs, .ok ())
      else
        match answers.quotaOn with
        | .error e => (fs, .error e)
        | .ok () => ({ fs with flags := update fs.flags (.enfd .project) true }, .ok ())

/-- Start the actor. It does not start if the limits cannot be enforced, and goes without
    quotas if there are none. -/
def onStart (dataRoot : String) (answers : StartAnswers) (scan : Scan) (fs : QuotaFs) :
    QuotaFs × Option VolumeManager :=
  match answers.findmnt.bind fun _ => ext4QuotaNew answers fs with
  | .error _ => (fs, some ⟨.new false dataRoot fs.root scan, ∅⟩)
  | .ok () =>
      match enforce answers fs with
      | (fs', .error _) => (fs', none)
      | (fs', .ok ()) => (fs', some ⟨.new true dataRoot fs'.root scan, ∅⟩)

/-- What is told of the quota of a package. -/
structure QuotaInformation where
  enabled : Bool
  limit : Nat
  deriving DecidableEq

namespace VolumeManager

def handleAcquireVolume (mgr : VolumeManager) (k : DirKernel) (fs : QuotaFs)
    (volumeMeta : PackageVolumeMetadata) : QuotaFs × VolumeManager :=
  let created := mgr.dataDirectories.createDataDirectory (dataMetaOf volumeMeta)
  let run := created.2.eval (QuotaFs.serve k) fs
  (run.1, ⟨created.1, mgr.volumes.insert volumeMeta.packageName run.2.toOption⟩)

def handlePurgeVolume (mgr : VolumeManager) (k : DirKernel) (fs : QuotaFs) (name : String) :
    QuotaFs × VolumeManager :=
  match mgr.volumes.get name with
  | some (some dataDirectory) =>
      let removed := mgr.dataDirectories.removeDataDirectory dataDirectory
      ((removed.2.eval (QuotaFs.serve k) fs).1, ⟨removed.1, mgr.volumes.erase name⟩)
  | _ => (fs, ⟨mgr.dataDirectories, mgr.volumes.erase name⟩)

def handleGetQuotaInfo (mgr : VolumeManager) (name : String) : Option Nat := do
  let dataDirectory ← (← mgr.volumes.get name)
  (← dataDirectory.quotaInfo).blockLimit

/-- The quota in what is told of a package. -/
def quotaInformation (mgr : VolumeManager) (name : String) : QuotaInformation :=
  match mgr.handleGetQuotaInfo name with
  | some limit => ⟨true, limit⟩
  | none => ⟨false, 0⟩

end VolumeManager

/-- What is said of a volume, as it is made of a package file. -/
structure VolumeMetadata (dataRoot : String) extends PackageVolumeMetadata where
  dataDir_eq : dataDir = joinPath dataRoot packageName
  safe : isSafePathSegment packageName = true

/-- Whatever is said of a volume is said so. -/
theorem exists_volumeMetadata {F : Type} {dataRoot : String} {packageName : F → String}
    {info : PackageFileInfo F} {path : Path} {file : F} {volumeMeta : PackageVolumeMetadata}
    (h : packageVolumeMetadata dataRoot packageName info path file = .ok volumeMeta) :
    ∃ m : VolumeMetadata dataRoot, m.toPackageVolumeMetadata = volumeMeta := by
  rcases packageVolumeMetadata_eq_ok h with ⟨hname, hdir, hsafe⟩
  exact ⟨⟨volumeMeta, by rw [hdir, hname], by rw [hname]; exact hsafe⟩, rfl⟩

section Frames

variable {k : DirKernel} {path : String} {id : Option Nat}

/-- The call is about the directory at `path` and the record of `id`. -/
def About (path : String) (id : Option Nat) : {β : Type} → DirCall β → Prop
  | _, .makeDirectory p => p = path
  | _, .setFlags p _ => p = path
  | _, .setXattr p _ => p = path
  | _, .removeDirAll p => p = path
  | _, .setBlockLimits i _ _ => id = some i
  | _, _ => True

/-- The other directories and records are as they were. -/
structure Beside (path : String) (id : Option Nat) (fs fs' : QuotaFs) : Prop where
  root : ∀ q, q ≠ path → fs'.root q = fs.root q
  records : ∀ i, id ≠ some i → fs'.records i = fs.records i
  flags : fs'.flags = fs.flags

theorem Beside.refl (path : String) (id : Option Nat) (fs : QuotaFs) : Beside path id fs fs :=
  ⟨fun _ _ => rfl, fun _ _ => rfl, rfl⟩

/-- Another root, the same but for the one directory. -/
theorem Beside.withRoot {fs fs' : QuotaFs} (h : Beside path id fs fs') {root : DataRoot}
    (hroot : ∀ q, q ≠ path → root q = fs'.root q) : Beside path id fs { fs' with root := root } :=
  ⟨fun q hq => (hroot q hq).trans (h.root q hq), h.records, h.flags⟩

theorem onDir_of_ne {α : Type} {root : DataRoot} {p : String} {outcome : Except Error Unit}
    {act : DirAttr → DataRoot × α} {q : String} (h : ∀ attr, (act attr).1 q = root q) :
    (onDir root p outcome act).1 q = root q := by
  unfold onDir
  cases outcome with
  | error e => rfl
  | ok u =>
      cases root p with
      | none => rfl
      | some attr => exact h attr

/-- A call about one directory and one id leaves the others alone. -/
theorem beside_serve {fs fs' : QuotaFs} {β : Type} {c : DirCall β} (hc : About path id c)
    (h : Beside path id fs fs') : Beside path id fs (fs'.serve k c).1 := by
  have hother {q : String} (hq : q ≠ path) {p : String} (hp : p = path) (attr : Option DirAttr) :
      update fs'.root p attr q = fs'.root q := by
    rw [hp, update_of_ne hq]
  cases c with
  | makeDirectory p =>
      refine h.withRoot fun q hq => ?_
      simp only [DirKernel.serve]
      cases k.makeDirectory with
      | error e => rfl
      | ok u => exact hother hq hc _
  | openDir p => exact h.withRoot fun q _ => onDir_of_ne fun _ => rfl
  | getFlags p => exact h.withRoot fun q _ => onDir_of_ne fun _ => rfl
  | setFlags p inherit => exact h.withRoot fun q hq => onDir_of_ne fun _ => hother hq hc _
  | getXattr p => exact h.withRoot fun q _ => onDir_of_ne fun _ => rfl
  | setXattr p projid => exact h.withRoot fun q hq => onDir_of_ne fun _ => hother hq hc _
  | setBlockLimits i softLimit hardLimit =>
      simp only [QuotaFs.serve]
      cases k.setBlockLimits with
      | error e => exact h
      | ok u =>
          refine ⟨h.root, fun j hj => ?_, h.flags⟩
          have hne : j ≠ i := by
            rintro rfl
            exact hj hc
          exact (update_of_ne hne _ _).trans (h.records j hj)
  | makeDataDir srcPath => exact h.withRoot fun _ _ => rfl
  | removeDirAll p => exact h.withRoot fun q hq => onDir_of_ne fun _ => hother hq hc _

/-- A program about one directory and one id leaves the others alone. -/
theorem beside_of_only {α : Type} {p : DirProg α} (hp : p.Only (About path id)) (fs : QuotaFs) :
    Beside path id fs (p.eval (QuotaFs.serve k) fs).1 :=
  Prog.eval_of_only (QuotaFs.serve k) (fun _ _ hc h => beside_serve hc h) hp
    (Beside.refl path id fs)

theorem about_setProjectQuotaInner (id : Option Nat) (path : String) (enabled : Bool)
    (projid : Nat) : (setProjectQuotaInner path enabled projid).Only (About path id) := by
  have hinherit : (setProjInheritance path enabled).Only (About path id) := by
    refine Prog.only_bind (Prog.only_try_ trivial) fun current => ?_
    dsimp only
    split
    · trivial
    · exact Prog.only_context (Prog.only_try_ rfl)
  have hprojid : (setProjid path projid).Only (About path id) := by
    refine Prog.only_bind (Prog.only_try_ trivial) fun _ => ?_
    split
    · exact Prog.only_try_ rfl
    · trivial
  refine Prog.only_bind (Prog.only_context (Prog.only_try_ trivial)) fun _ => ?_
  exact Prog.only_bind (Prog.only_context hinherit) fun _ => Prog.only_context hprojid

theorem about_setBlockLimit (dir : DataDirectory) (enabled : Bool) :
    (dir.setBlockLimit enabled).Only (About dir.path (dir.quotaInfo.map QuotaInfo.id)) := by
  unfold DataDirectory.setBlockLimit
  cases dir.quotaInfo with
  | none => trivial
  | some quota =>
      refine Prog.only_bind (Prog.only_context (Prog.only_context ?_)) fun _ => ?_
      · exact about_setProjectQuotaInner _ _ _ _
      · exact Prog.only_context (Prog.only_context (Prog.only_try_ rfl))

theorem about_makeDataDirs (id : Option Nat) (path : String) (dirs : List String) :
    (makeDataDirs path dirs).Only (About path id) := by
  induction dirs with
  | nil => trivial
  | cons dir dirs ih =>
      rw [makeDataDirs]
      dsimp only
      split
      · exact Prog.only_bind
          (Prog.only_context (Prog.only_context (Prog.only_try_ trivial))) fun _ => ih
      · trivial

theorem about_ensureDataDirs (id : Option Nat) (dir : DataDirectory) :
    dir.ensureDataDirs.Only (About dir.path id) := by
  unfold DataDirectory.ensureDataDirs
  cases dir.dataDirs with
  | none => trivial
  | some dirs => exact about_makeDataDirs id dir.path dirs

/-- A creation is about the directory it creates and the id it is given. -/
theorem about_createWith (dirMeta : DataDirMetadata) (quotaInfo : Option QuotaInfo) :
    (createWith dirMeta quotaInfo).Only (About dirMeta.path (quotaInfo.map QuotaInfo.id)) := by
  refine Prog.only_bind (Prog.only_context (Prog.only_context
    (Prog.only_context (Prog.only_try_ rfl)))) fun _ => ?_
  let dir : DataDirectory := ⟨dirMeta.path, parseDataDirs dirMeta.dataDirs, quotaInfo⟩
  refine Prog.only_bind (Prog.only_context (about_setBlockLimit dir true)) fun _ => ?_
  exact Prog.only_bind (Prog.only_context (about_ensureDataDirs _ dir)) fun _ => trivial

theorem about_removeDataDirectory (mgr : DataDirectoryManager) (dir : DataDirectory) :
    (mgr.removeDataDirectory dir).2.Only (About dir.path (dir.quotaInfo.map QuotaInfo.id)) :=
  Prog.only_bind (Prog.only_attempt (about_setBlockLimit dir false)) fun _ =>
    Prog.only_context (Prog.only_try_ rfl)

end Frames

section Creation

variable {k : DirKernel} {fs : QuotaFs} {path : String}

/-- The data root is answered for as it is without records. -/
theorem serve_root (k : DirKernel) (fs : QuotaFs) {β : Type} (c : DirCall β) :
    ((QuotaFs.serve k fs c).1.root, (QuotaFs.serve k fs c).2) = k.serve fs.root c := by
  cases c with
  | setBlockLimits id softLimit hardLimit =>
      simp only [QuotaFs.serve, DirKernel.serve]
      cases k.setBlockLimits <;> rfl
  | _ => rfl

/-- What a program does to the data root it does on any file system, and ends as it does there. -/
theorem eval_root (k : DirKernel) {α : Type} (p : DirProg α) (fs : QuotaFs) :
    ((p.eval (QuotaFs.serve k) fs).1.root, (p.eval (QuotaFs.serve k) fs).2) =
      p.eval k.serve fs.root :=
  Prog.eval_sim (QuotaFs.serve k) QuotaFs.root (fun s c => serve_root k s c) p fs

/-- Acquiring a volume does with the records what it does with the trees of the disk. -/
theorem handleAcquireVolume_agrees {B : Type} (k : DiskKernel) {disk : Disk B} (mgr : VolumeManager)
    (volumeMeta : PackageVolumeMetadata) (h : disk.root = fs.root) :
    (mgr.handleAcquireVolume k.toDirKernel fs volumeMeta).1.root =
        (mgr.acquireVolume k disk volumeMeta).1.root ∧
      (mgr.handleAcquireVolume k.toDirKernel fs volumeMeta).2 =
        (mgr.acquireVolume k disk volumeMeta).2 := by
  let p := (mgr.dataDirectories.createDataDirectory (dataMetaOf volumeMeta)).2
  have heq := (eval_root k.toDirKernel p fs).trans
    ((congrArg _ h.symm).trans (Volume.eval_root k p disk).symm)
  refine ⟨(Prod.mk.inj heq).1, ?_⟩
  exact congrArg (fun r : Except Error DataDirectory => (⟨_, mgr.volumes.insert _ r.toOption⟩ :
    VolumeManager)) (Prod.mk.inj heq).2

/-- And so does purging one. -/
theorem handlePurgeVolume_agrees {B : Type} (k : DiskKernel) {disk : Disk B} (mgr : VolumeManager)
    (name : String) (h : disk.root = fs.root) :
    (mgr.handlePurgeVolume k.toDirKernel fs name).1.root =
        (mgr.purgeVolume k disk name).1.root ∧
      (mgr.handlePurgeVolume k.toDirKernel fs name).2 = (mgr.purgeVolume k disk name).2.1 := by
  unfold VolumeManager.handlePurgeVolume VolumeManager.purgeVolume
  rcases mgr.volumes.get name with _ | _ | dir
  · exact ⟨h.symm, rfl⟩
  · exact ⟨h.symm, rfl⟩
  · let p := (mgr.dataDirectories.removeDataDirectory dir).2
    have heq := (eval_root k.toDirKernel p fs).trans
      ((congrArg _ h.symm).trans (Volume.eval_root k p disk).symm)
    exact ⟨(Prod.mk.inj heq).1, rfl⟩

/-- A call about no id changes no record. -/
theorem serve_of_about_none {β : Type} {c : DirCall β} (h : About path none c) (fs : QuotaFs) :
    QuotaFs.serve k fs c = ({ fs with root := (k.serve fs.root c).1 }, (k.serve fs.root c).2) := by
  cases c with
  | setBlockLimits id softLimit hardLimit => cases h
  | _ => rfl

/-- What a program about no id does is told by what it does to the data root. -/
theorem wp_serve_of_only {α : Type} {p : DirProg α} (hp : p.Only (About path none))
    {Q : Except Error α → QuotaFs → Prop} (fs : QuotaFs)
    (h : Prog.wp k.serve (fun _ _ => True) (fun r root => Q r { fs with root := root }) p fs.root) :
    Prog.wp (QuotaFs.serve k) (fun _ _ => True) Q p fs := by
  induction p generalizing fs with
  | done r => exact h
  | call c next ih =>
      rw [Prog.wp_call, serve_of_about_none hp.1]
      exact ⟨trivial, ih _ (hp.2 _) _ h.2⟩

theorem returns_createWith (dirMeta : DataDirMetadata) (quotaInfo : Option QuotaInfo) :
    (createWith dirMeta quotaInfo).Returns fun dir =>
      dir.path = dirMeta.path ∧ dir.quotaInfo = quotaInfo :=
  Prog.returns_bind _ fun _ => Prog.returns_bind _ fun _ => Prog.returns_bind _ fun _ => ⟨rfl, rfl⟩

/-- A creation that succeeds leaves the directory with its id, and the limit in the record
    of the id. -/
theorem createWith_spec (k : DirKernel) (fs : QuotaFs) (dirMeta : DataDirMetadata)
    {quota : QuotaInfo} (hid : quota.id < 2 ^ 32) {dir : DataDirectory}
    (hok : ((createWith dirMeta (some quota)).eval (QuotaFs.serve k) fs).2 = .ok dir) :
    let fs' := ((createWith dirMeta (some quota)).eval (QuotaFs.serve k) fs).1
    fs'.root dirMeta.path = some ⟨true, quota.id⟩ ∧
      (fs'.records quota.id).bhardlimit = quota.blockLimit.getD 0 := by
  refine Prog.eval_of_wp (QuotaFs.serve k) (G := fun _ _ => True)
    (Q := fun r t => ∀ dir, r = .ok dir → t.root dirMeta.path = some ⟨true, quota.id⟩ ∧
      (t.records quota.id).bhardlimit = quota.blockLimit.getD 0) ?_ dir hok
  simp only [createWith, Prog.bind_eq, Prog.wp_bind, Prog.wp_context, makeDirectory, Prog.wp_try_,
    QuotaFs.serve, DirKernel.serve, true_and]
  cases hmk : k.makeDirectory with
  | error e => exact fun dir h => by cases h
  | ok u =>
      simp only [Prog.branch_ok, Prog.wp_bind, Prog.wp_context, DataDirectory.setBlockLimit,
        Prog.bind_eq, QuotaInfo.setProjectQuota, if_true]
      refine wp_serve_of_only (about_setProjectQuotaInner none _ _ _) _ ?_
      -- A step that fails leaves nothing to be shown.
      refine setProjectQuotaInner_wp (update_self _ _ _) hid (fun e _ dir h => by cases h)
        (fun e _ _ dir h => by cases h) fun _ _ => ?_
      simp only [Prog.branch_ok, Prog.wp_context, QuotaInfo.setBlockLimits, Prog.wp_try_,
        QuotaFs.serve, true_and]
      cases hlimits : k.setBlockLimits with
      | error e => exact fun dir h => by cases h
      | ok u =>
          simp only [Prog.branch_ok, Prog.wp_bind, Prog.wp_context]
          refine wp_serve_of_only (about_ensureDataDirs none _) _ (ensureDataDirs_wp _ fun r => ?_)
          cases r with
          | error e => exact fun dir h => by cases h
          | ok u =>
              refine fun dir _ => ⟨update_self _ _ _, ?_⟩
              dsimp only
              rw [update_self]
              rfl

end Creation

end Daemon

end Ssam
