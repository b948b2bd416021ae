import Ssam.Daemon.QuotaFs

/-!
# The Storage Limits of the Packages

What the daemon tells of the limit of a package it does not read off the file system: it is
the number that was declared when the volume was acquired. So whether the limit that is told
is the one in force depends on nothing else changing the directory or the record in between,
and in particular on no other package having the same id.

The ids of the packages are apart as long as those are that a start reads off the
directories, and that is all there is to it: with one id read off two directories, two
messages are enough for two packages that are each told a limit and have one between them.

A limit of zero is told as one and is none.

## Main definitions

* `Inv`: Every volume has the quota that it was given.
* `Limited`: Every limit that is told is in force.
* `ReadsApart`: No id is read off the directories of two packages.

## Theorems

* `Inv.handleAcquireVolume`, `Inv.handlePurgeVolume`: The messages keep the quotas.
* `step_sound`: Every step keeps them.
* `limits_enforced_iff`: The limits are in force exactly if the ids are read apart.
-/

namespace Ssam

namespace Daemon

open Lib Manager Volume Function

section Invariant

variable {dataRoot : String} {m : ProjectMap} {fs fs' : QuotaFs} {mgr : VolumeManager}

/-- No two packages have an id in common that a quota can have. -/
def Apart (dataRoot : String) (m : ProjectMap) : Prop :=
  ∀ p q id, isSafePathSegment p = true → isSafePathSegment q = true → id ≤ maxProjectId →
    m.get (joinPath dataRoot p) = some id → m.get (joinPath dataRoot q) = some id → p = q

/-- The directory has the quota, and the record of the id its limit. -/
structure HasQuota (fs : QuotaFs) (m : ProjectMap) (path : String) (quota : QuotaInfo) : Prop where
  id_le : quota.id ≤ maxProjectId
  mapped : m.get path = some quota.id
  root : fs.root path = some ⟨true, quota.id⟩
  hardlimit : (fs.records quota.id).bhardlimit = quota.blockLimit.getD 0

/-- The ids can be told apart and the limits are enforced. -/
structure IdsKept (dataRoot : String) (fs : QuotaFs) (m : ProjectMap) : Prop where
  enforced : fs.flags (.enfd .project) = true
  positive : ∀ path id, m.get path = some id → id ≠ 0
  apart : Apart dataRoot m

/-- Every volume with a data directory has the quota that it was given. -/
structure Inv (dataRoot : String) (fs : QuotaFs) (mgr : VolumeManager) : Prop where
  ids : mgr.dataDirectories.quotaRoot = true → IdsKept dataRoot fs mgr.dataDirectories.projectMap
  volumes : ∀ name dir, mgr.volumes.get name = some (some dir) →
    isSafePathSegment name = true ∧ dir.path = joinPath dataRoot name ∧
      ∀ quota, dir.quotaInfo = some quota → mgr.dataDirectories.quotaRoot = true ∧
        HasQuota fs mgr.dataDirectories.projectMap dir.path quota

/-- The id of a path is one it had, or one above all. -/
theorem projectId_cases (m : ProjectMap) (path : String) :
    m.get path = some (m.projectId path) ∨ m.projectId path = m.nextId := by
  unfold ProjectMap.projectId
  cases m.get path with
  | none => exact Or.inr rfl
  | some id => exact Or.inl rfl

theorem Apart.getProjectId (h : Apart dataRoot m) (path : String) :
    Apart dataRoot (m.getProjectId path) := by
  -- A path that has the id of another one had it before.
  have hone {p q : String} {id : Nat} (hp : isSafePathSegment p = true)
      (hq : isSafePathSegment q = true) (hid : id ≤ maxProjectId)
      (hpath : joinPath dataRoot p = path) (hpid : m.projectId path = id)
      (hqid : m.get (joinPath dataRoot q) = some id) : p = q := by
    rcases projectId_cases m path with hget | hnext
    · exact h p q id hp hq hid (by rw [hpath, hget, hpid]) hqid
    · exact absurd (hnext.symm.trans hpid) (Nat.ne_of_gt (ProjectMap.lt_nextId hqid))
  intro p q id hp hq hid hpid hqid
  rw [ProjectMap.get_getProjectId] at hpid hqid
  by_cases hpp : joinPath dataRoot p = path
  · rw [if_pos hpp] at hpid
    by_cases hqp : joinPath dataRoot q = path
    · exact joinPath_inj (hpp.trans hqp.symm)
    · rw [if_neg hqp] at hqid
      exact hone hp hq hid hpp (Option.some.inj hpid) hqid
  · rw [if_neg hpp] at hpid
    by_cases hqp : joinPath dataRoot q = path
    · rw [if_pos hqp] at hqid
      exact (hone hq hp hid hqp (Option.some.inj hqid) hpid).symm
    · rw [if_neg hqp] at hqid
      exact h p q id hp hq hid hpid hqid

theorem Apart.erase (h : Apart dataRoot m) (path : String) :
    Apart dataRoot (m.erase path) := by
  have hget {p : String} {id : Nat} (hp : HashMap.get (m.erase path) p = some id) :
      m.get p = some id := by
    rw [HashMap.get_erase] at hp
    split at hp
    · cases hp
    · exact hp
  exact fun p q id hp hq hid hpid hqid => h p q id hp hq hid (hget hpid) (hget hqid)

theorem IdsKept.getProjectId (h : IdsKept dataRoot fs m) (hflags : fs'.flags = fs.flags)
    (path : String) : IdsKept dataRoot fs' (m.getProjectId path) where
  enforced := by rw [hflags]; exact h.enforced
  positive q id hq := by
    rw [ProjectMap.get_getProjectId] at hq
    by_cases hqp : q = path
    · rw [if_pos hqp] at hq
      rcases projectId_cases m path with hget | hnext
      · exact h.positive path id (hget.trans hq)
      · rw [← Option.some.inj hq, hnext]
        exact Nat.succ_ne_zero _
    · rw [if_neg hqp] at hq
      exact h.positive q id hq
  apart := h.apart.getProjectId path

theorem IdsKept.erase (h : IdsKept dataRoot fs m) (hflags : fs'.flags = fs.flags) (path : String) :
    IdsKept dataRoot fs' (m.erase path) where
  enforced := by rw [hflags]; exact h.enforced
  positive q id hq := by
    rw [HashMap.get_erase] at hq
    split at hq
    · cases hq
    · exact h.positive q id hq
  apart := h.apart.erase path

/-- A quota is kept by what is about another directory and another id. -/
theorem HasQuota.beside {path other : String} {id : Option Nat} {quota : QuotaInfo}
    {m' : ProjectMap} (h : HasQuota fs m path quota) (hbeside : Beside other id fs fs')
    (hpath : path ≠ other) (hid : id ≠ some quota.id) (hmap : m'.get path = m.get path) :
    HasQuota fs' m' path quota where
  id_le := h.id_le
  mapped := hmap.trans h.mapped
  root := (hbeside.root path hpath).trans h.root
  hardlimit := by rw [hbeside.records quota.id hid]; exact h.hardlimit

/-- What is about one package keeps the volumes of the others. -/
theorem Inv.others (h : Inv dataRoot fs mgr) (dirs : DataDirectoryManager) {name : String}
    {id : Option Nat} (hbeside : Beside (joinPath dataRoot name) id fs fs')
    (hroot : dirs.quotaRoot = mgr.dataDirectories.quotaRoot)
    (hmap : ∀ path, path ≠ joinPath dataRoot name →
      dirs.projectMap.get path = mgr.dataDirectories.projectMap.get path)
    (hid : ∀ n i, isSafePathSegment n = true → n ≠ name → i ≤ maxProjectId →
      mgr.dataDirectories.projectMap.get (joinPath dataRoot n) = some i → id ≠ some i)
    {n : String} (hn : n ≠ name) {dir : DataDirectory}
    (hdir : mgr.volumes.get n = some (some dir)) :
    isSafePathSegment n = true ∧ dir.path = joinPath dataRoot n ∧
      ∀ quota, dir.quotaInfo = some quota → dirs.quotaRoot = true ∧
        HasQuota fs' dirs.projectMap dir.path quota := by
  rcases h.volumes n dir hdir with ⟨hsafe, hpath, hquota⟩
  refine ⟨hsafe, hpath, fun quota hq => ?_⟩
  rcases hquota quota hq with ⟨hquotas, hhas⟩
  have hne : dir.path ≠ joinPath dataRoot name := fun heq =>
    hn (joinPath_inj (hpath.symm.trans heq))
  refine ⟨hroot.trans hquotas, hhas.beside hbeside hne ?_ (hmap _ hne)⟩
  exact hid n quota.id hsafe hn hhas.id_le (by rw [← hpath]; exact hhas.mapped)

/-- Acquiring a volume keeps the quotas, whatever fails. -/
theorem Inv.handleAcquireVolume (h : Inv dataRoot fs mgr) (k : DirKernel)
    (volumeMeta : VolumeMetadata dataRoot) :
    Inv dataRoot (mgr.handleAcquireVolume k fs volumeMeta.toPackageVolumeMetadata).1
      (mgr.handleAcquireVolume k fs volumeMeta.toPackageVolumeMetadata).2 := by
  have hpath : (dataMetaOf volumeMeta.toPackageVolumeMetadata).path =
      joinPath dataRoot volumeMeta.packageName := volumeMeta.dataDir_eq
  rw [VolumeManager.handleAcquireVolume, createDataDirectory_eq]
  generalize dataMetaOf volumeMeta.toPackageVolumeMetadata = dirMeta at hpath
  by_cases hquotas : mgr.dataDirectories.quotaRoot = true
  swap
  · -- Without quotas there is none to keep.
    rw [if_neg hquotas]
    refine ⟨fun hq => absurd hq hquotas, fun n dir hget => ?_⟩
    rw [HashMap.get_insert] at hget
    by_cases hn : n = volumeMeta.packageName
    · rw [if_pos hn] at hget
      have hok := toOption_eq_some.mp (Option.some.inj hget)
      rcases Prog.eval_of_returns _ (returns_createWith dirMeta none) hok with ⟨hp, hnone⟩
      rw [hn]
      refine ⟨volumeMeta.safe, hp.trans hpath, fun quota hq => ?_⟩
      exact absurd (hq.symm.trans hnone) (Option.some_ne_none quota)
    · rw [if_neg hn] at hget
      rcases h.volumes n dir hget with ⟨hsafe, hp, hq⟩
      exact ⟨hsafe, hp, fun quota hquota => absurd (hq quota hquota).1 hquotas⟩
  rw [if_pos hquotas]
  have hids := h.ids hquotas
  let dirs : DataDirectoryManager := { mgr.dataDirectories with
    projectMap := mgr.dataDirectories.projectMap.getProjectId dirMeta.path }
  have hself : dirs.projectMap.get dirMeta.path =
      some (mgr.dataDirectories.projectMap.projectId dirMeta.path) :=
    (ProjectMap.get_getProjectId _ _ _).trans (if_pos rfl)
  have hmap (path : String) (hne : path ≠ joinPath dataRoot volumeMeta.packageName) :
      dirs.projectMap.get path = mgr.dataDirectories.projectMap.get path :=
    (ProjectMap.get_getProjectId _ _ _).trans (if_neg (by rw [hpath]; exact hne))
  by_cases hid : mgr.dataDirectories.projectMap.projectId dirMeta.path ≤ maxProjectId
  swap
  · -- The id is none a quota can have, and no call is made.
    rw [if_neg hid, Prog.eval_fail]
    refine ⟨fun _ => hids.getProjectId rfl _, fun n dir hget => ?_⟩
    rw [HashMap.get_insert] at hget
    by_cases hn : n = volumeMeta.packageName
    · rw [if_pos hn] at hget
      cases hget
    · rw [if_neg hn] at hget
      exact h.others dirs (Beside.refl _ none fs) rfl hmap
        (fun _ i _ _ _ _ => (Option.some_ne_none i).symm) hn hget
  rw [if_pos hid]
  let quota : QuotaInfo := ⟨mgr.dataDirectories.projectMap.projectId dirMeta.path,
    dirMeta.storageLimit⟩
  have hbeside := beside_of_only (k := k) (about_createWith dirMeta (some quota)) fs
  refine ⟨fun _ => hids.getProjectId hbeside.flags _, fun n dir hget => ?_⟩
  rw [HashMap.get_insert] at hget
  by_cases hn : n = volumeMeta.packageName
  · rw [if_pos hn] at hget
    have hok := toOption_eq_some.mp (Option.some.inj hget)
    rcases Prog.eval_of_returns _ (returns_createWith dirMeta (some quota)) hok with ⟨hp, hq⟩
    rcases createWith_spec k fs dirMeta (Nat.lt_of_le_of_lt hid (by decide)) hok with
      ⟨hroot, hlimit⟩
    rw [hn]
    refine ⟨volumeMeta.safe, hp.trans hpath, fun quota' hquota' => ⟨hquotas, ?_⟩⟩
    rw [hp, ← Option.some.inj (hq.symm.trans hquota')]
    exact ⟨hid, hself, hroot, hlimit⟩
  · rw [if_neg hn] at hget
    rw [hpath] at hbeside
    refine h.others dirs hbeside rfl hmap (fun n' i hsafe hn' hi hget' heq => ?_) hn hget
    -- The id it is given is that of no other package.
    refine hn' ((hids.apart.getProjectId dirMeta.path) n' volumeMeta.packageName i hsafe
      volumeMeta.safe hi (ProjectMap.getProjectId_of_get hget') ?_)
    rw [← hpath]
    exact hself.trans heq

/-- Purging a volume keeps the quotas of the others, whatever fails. -/
theorem Inv.handlePurgeVolume (h : Inv dataRoot fs mgr) (k : DirKernel) (name : String) :
    Inv dataRoot (mgr.handlePurgeVolume k fs name).1 (mgr.handlePurgeVolume k fs name).2 := by
  have hvolumes {n : String} {dir : DataDirectory}
      (hget : HashMap.get (mgr.volumes.erase name) n = some (some dir)) :
      n ≠ name ∧ mgr.volumes.get n = some (some dir) := by
    rw [HashMap.get_erase] at hget
    by_cases hn : n = name
    · rw [if_pos hn] at hget
      cases hget
    · rw [if_neg hn] at hget
      exact ⟨hn, hget⟩
  have hnothing : Inv dataRoot fs ⟨mgr.dataDirectories, mgr.volumes.erase name⟩ :=
    ⟨h.ids, fun n dir hget => h.volumes n dir (hvolumes hget).2⟩
  unfold VolumeManager.handlePurgeVolume
  rcases hdir : mgr.volumes.get name with _ | _ | dir
  · exact hnothing
  · exact hnothing
  · dsimp only
    rcases h.volumes name dir hdir with ⟨hsafe, hpath, hquota⟩
    have hbeside := beside_of_only (k := k) (about_removeDataDirectory mgr.dataDirectories dir) fs
    refine ⟨fun hq => (h.ids hq).erase hbeside.flags dir.path, fun n dir' hget => ?_⟩
    rcases hvolumes hget with ⟨hn, hget⟩
    rw [hpath] at hbeside
    refine h.others (mgr.dataDirectories.removeDataDirectory dir).1 hbeside rfl (fun path hne => ?_)
      (fun n' i hsafe' hn' hi hget' heq => ?_) hn hget
    · rw [← hpath] at hne
      exact HashMap.get_erase_ne _ hne
    · rcases Option.map_eq_some_iff.mp heq with ⟨quota, hq, rfl⟩
      rcases hquota quota hq with ⟨hquotas, hhas⟩
      exact hn' ((h.ids hquotas).apart n' name _ hsafe' hsafe hi hget' (by
        rw [← hpath]
        exact hhas.mapped))

end Invariant

/-- The file system, and the actor if it runs. -/
structure QuotaState where
  fs : QuotaFs
  manager : Option VolumeManager

/-- What happens to the actor. -/
inductive VolumeEvent (dataRoot : String) where
  | start (answers : StartAnswers) (scan : Scan)
  | acquire (volumeMeta : VolumeMetadata dataRoot) (k : DirKernel)
  | purge (name : String) (k : DirKernel)

def volumeStep (dataRoot : String) (s : QuotaState) : VolumeEvent dataRoot → Option QuotaState
  | .start answers scan =>
      let started := onStart dataRoot answers scan s.fs
      some ⟨started.1, started.2⟩
  | .acquire volumeMeta k =>
      s.manager.map fun mgr =>
        let done := mgr.handleAcquireVolume k s.fs volumeMeta.toPackageVolumeMetadata
        ⟨done.1, some done.2⟩
  | .purge name k =>
      s.manager.map fun mgr =>
        let done := mgr.handlePurgeVolume k s.fs name
        ⟨done.1, some done.2⟩

section Runs

variable {dataRoot : String}

/-- The limit that is told of package `name` is in force, and of it alone. -/
structure Enforced (dataRoot : String) (fs : QuotaFs) (mgr : VolumeManager) (name : String)
    (limit : Nat) : Prop where
  enforced : fs.flags (.enfd .project) = true
  capped : ∃ id, activeProjid fs.root (joinPath dataRoot name) = some id ∧
    (fs.records id).cap = if limit = 0 then none else some limit
  own : ∀ other otherLimit, other ≠ name → mgr.quotaInformation other = ⟨true, otherLimit⟩ →
    activeProjid fs.root (joinPath dataRoot other) ≠ activeProjid fs.root (joinPath dataRoot name)

/-- Every limit that is told is in force. -/
def Limited (dataRoot : String) (s : QuotaState) : Prop :=
  ∀ mgr ∈ s.manager, ∀ name limit, mgr.quotaInformation name = ⟨true, limit⟩ →
    Enforced dataRoot s.fs mgr name limit

/-- The actor starts, and with quotas. -/
def WithQuotas (answers : StartAnswers) (fs : QuotaFs) : Prop :=
  (answers.findmnt.bind fun _ => ext4QuotaNew answers fs) = .ok () ∧ (enforce answers fs).2 = .ok ()

/-- A start with quotas does not read one id that can be used off the directories of two
    packages. -/
def ReadsApart (dataRoot : String) (s : QuotaState) : VolumeEvent dataRoot → Prop
  | .start answers scan => WithQuotas answers s.fs →
      ∀ p q id, isSafePathSegment p = true → isSafePathSegment q = true → id ≤ maxProjectId →
        scan.Reads (joinPath dataRoot p) → scan.Reads (joinPath dataRoot q) →
        activeProjid s.fs.root (joinPath dataRoot p) = some id →
        activeProjid s.fs.root (joinPath dataRoot q) = some id → p = q
  | .acquire _ _ => True
  | .purge _ _ => True

/-- It is no start. -/
def VolumeEvent.IsMessage : VolumeEvent dataRoot → Prop
  | .start _ _ => False
  | .acquire _ _ => True
  | .purge _ _ => True

/-- Every volume has its quota, if the actor runs. -/
def Sound (dataRoot : String) (s : QuotaState) : Prop :=
  ∀ mgr ∈ s.manager, Inv dataRoot s.fs mgr

theorem quotaInformation_eq {mgr : VolumeManager} {name : String} {limit : Nat} :
    mgr.quotaInformation name = ⟨true, limit⟩ ↔
      ∃ dir quota, mgr.volumes.get name = some (some dir) ∧ dir.quotaInfo = some quota ∧
        quota.blockLimit = some limit := by
  have hinfo : mgr.quotaInformation name = ⟨true, limit⟩ ↔
      mgr.handleGetQuotaInfo name = some limit := by
    unfold VolumeManager.quotaInformation
    cases mgr.handleGetQuotaInfo name with
    | none => exact iff_of_false (by intro h; cases h) (by intro h; cases h)
    | some l =>
        dsimp only
        rw [QuotaInformation.mk.injEq, Option.some.injEq]
        exact and_iff_right rfl
  rw [hinfo]
  simp only [VolumeManager.handleGetQuotaInfo, Option.bind_eq_bind, Option.bind_eq_some_iff]
  constructor
  · rintro ⟨_, hget, dir, rfl, quota, hquota, hlimit⟩
    exact ⟨dir, quota, hget, hquota, hlimit⟩
  · rintro ⟨dir, quota, hget, hquota, hlimit⟩
    exact ⟨_, hget, dir, rfl, quota, hquota, hlimit⟩

theorem cap_eq {record : DqBlk} {limit : Nat} (h : record.bhardlimit = limit) :
    record.cap = if limit = 0 then none else some limit := by
  rw [DqBlk.cap, h]

/-- With the quotas kept every limit that is told is in force. -/
theorem Sound.limited {s : QuotaState} (h : Sound dataRoot s) : Limited dataRoot s := by
  intro mgr hmgr name limit htold
  -- The active id of a package whose limit is told is the one of its quota.
  have hactive {n : String} {l : Nat} (hn : mgr.quotaInformation n = ⟨true, l⟩) :
      ∃ quota, isSafePathSegment n = true ∧ mgr.dataDirectories.quotaRoot = true ∧
        HasQuota s.fs mgr.dataDirectories.projectMap (joinPath dataRoot n) quota ∧
        activeProjid s.fs.root (joinPath dataRoot n) = some quota.id ∧
        quota.blockLimit = some l := by
    rcases quotaInformation_eq.mp hn with ⟨dir, quota, hget, hquota, hlimit⟩
    rcases (h mgr hmgr).volumes n dir hget with ⟨hsafe, hpath, hall⟩
    rcases hall quota hquota with ⟨hquotas, hhas⟩
    rw [hpath] at hhas
    refine ⟨quota, hsafe, hquotas, hhas, ?_, hlimit⟩
    rw [activeProjid, hhas.root]
    refine activeProjid_eq_some.mpr ⟨rfl, ?_, rfl⟩
    exact ((h mgr hmgr).ids hquotas).positive _ _ hhas.mapped
  rcases hactive htold with ⟨quota, hsafe, hquotas, hhas, hid, hlimit⟩
  have hids := (h mgr hmgr).ids hquotas
  refine ⟨hids.enforced, ⟨quota.id, hid, cap_eq ?_⟩, fun other l hne hother heq => ?_⟩
  · rw [hhas.hardlimit, hlimit, Option.getD_some]
  · rcases hactive hother with ⟨quota', hsafe', -, hhas', hid', -⟩
    have hsame : quota'.id = quota.id := by
      rw [← Option.some.injEq, ← hid', heq, hid]
    refine hne (hids.apart other name quota'.id hsafe' hsafe hhas'.id_le hhas'.mapped ?_)
    rw [hsame]
    exact hhas.mapped

/-- A start has the limits enforced if it goes with quotas, and changes nothing else. -/
theorem enforce_eq_ok {answers : StartAnswers} {fs : QuotaFs}
    (h : (enforce answers fs).2 = .ok ()) :
    (enforce answers fs).1.root = fs.root ∧
      (enforce answers fs).1.flags (.enfd .project) = true := by
  unfold enforce at h ⊢
  cases hstatus : answers.getStatus with
  | error e => simp only [hstatus, reduceCtorEq] at h
  | ok u =>
      dsimp only
      by_cases hon : fs.flags (.enfd .project) = true
      · rw [if_pos hon]
        exact ⟨rfl, hon⟩
      · simp only [hstatus, if_neg hon] at h
        rw [if_neg hon]
        cases hq : answers.quotaOn with
        | error e => simp only [hq, reduceCtorEq] at h
        | ok u =>
            dsimp only
            exact ⟨rfl, update_self _ _ _⟩

/-- How the actor starts. -/
theorem onStart_cases (dataRoot : String) (answers : StartAnswers) (scan : Scan) (fs : QuotaFs) :
    WithQuotas answers fs ∧ (onStart dataRoot answers scan fs).2 =
        some ⟨.new true dataRoot fs.root scan, ∅⟩ ∧
        (onStart dataRoot answers scan fs).1 = (enforce answers fs).1 ∨
      ¬ WithQuotas answers fs ∧ ∀ mgr ∈ (onStart dataRoot answers scan fs).2,
        mgr.dataDirectories.quotaRoot = false ∧ mgr.volumes = ∅ := by
  unfold onStart WithQuotas
  cases hnew : answers.findmnt.bind fun _ => ext4QuotaNew answers fs with
  | error e =>
      refine Or.inr ⟨fun h => (by cases h.1), fun mgr hmgr => ?_⟩
      rw [← Option.some.inj hmgr]
      exact ⟨rfl, rfl⟩
  | ok u =>
      dsimp only
      have hok : (enforce answers fs).2 = .ok () → (enforce answers fs).1.root = fs.root ∧
          (enforce answers fs).1.flags (.enfd .project) = true := enforce_eq_ok
      generalize enforce answers fs = enforced at hok
      rcases enforced with ⟨fs', e | u⟩
      · exact Or.inr ⟨fun h => (by cases h.2), fun mgr hmgr => by cases hmgr⟩
      · refine Or.inl ⟨⟨rfl, rfl⟩, ?_, rfl⟩
        rw [← (hok rfl).1]

/-- A step keeps the quotas of all volumes, a start if it reads the ids apart. -/
theorem step_sound {s t : QuotaState} {e : VolumeEvent dataRoot} (h : Sound dataRoot s)
    (hapart : ReadsApart dataRoot s e) (hstep : volumeStep dataRoot s e = some t) :
    Sound dataRoot t := by
  intro mgr hmgr
  cases e with
  | start answers scan =>
      rw [← Option.some.inj hstep] at hmgr ⊢
      have hempty {mgr : VolumeManager} (hvol : mgr.volumes = ∅) (name : String)
          {dir : DataDirectory} (hget : mgr.volumes.get name = some (some dir)) : False := by
        rw [hvol] at hget
        cases hget
      rcases onStart_cases dataRoot answers scan s.fs with
        ⟨hquotas, hstarted, hfs⟩ | ⟨-, hnone⟩
      · have heq : mgr = ⟨.new true dataRoot s.fs.root scan, ∅⟩ :=
          Option.some.inj (hmgr.symm.trans hstarted)
        subst heq
        refine ⟨fun _ => ⟨?_, fun path id hget => ?_, ?_⟩, fun name dir hget => ?_⟩
        · dsimp only
          rw [hfs]
          exact (enforce_eq_ok hquotas.2).2
        · -- An id that is active is none of the root project.
          have hid := ((new_get dataRoot path id).mp hget).2
          rcases Option.bind_eq_some_iff.mp hid with ⟨attr, -, hattr⟩
          rcases activeProjid_eq_some.mp hattr with ⟨-, hzero, hsame⟩
          rw [← hsame]
          exact hzero
        · intro p q id hp hq hid hpid hqid
          rcases (new_get dataRoot _ id).mp hpid with ⟨hpreads, hpid⟩
          rcases (new_get dataRoot _ id).mp hqid with ⟨hqreads, hqid⟩
          exact hapart hquotas p q id hp hq hid hpreads hqreads hpid hqid
        · exact (hempty rfl name hget).elim
      · rcases hnone mgr hmgr with ⟨hroot, hvol⟩
        refine ⟨fun hq => absurd (hroot.symm.trans hq) Bool.false_ne_true, fun name dir hget => ?_⟩
        exact (hempty hvol name hget).elim
  | acquire volumeMeta k =>
      rcases Option.map_eq_some_iff.mp hstep with ⟨mgr', hmgr', rfl⟩
      rw [← Option.some.inj hmgr]
      exact (h mgr' hmgr').handleAcquireVolume k volumeMeta
  | purge name k =>
      rcases Option.map_eq_some_iff.mp hstep with ⟨mgr', hmgr', rfl⟩
      rw [← Option.some.inj hmgr]
      exact (h mgr' hmgr').handlePurgeVolume k name

/-- The volume of a package that declares no directories and a limit. -/
def volumeOf (dataRoot : String) {name : String} (hsafe : isSafePathSegment name = true)
    (limit : Nat) : VolumeMetadata dataRoot :=
  ⟨⟨name, joinPath dataRoot name, none, some limit⟩, rfl, hsafe⟩

/-- Where nothing fails the volume of a package with an id has a quota with this id. -/
theorem acquire_fine (mgr : VolumeManager) (hquotas : mgr.dataDirectories.quotaRoot = true)
    {name : String} (hsafe : isSafePathSegment name = true) {id : Nat} (hid : id ≤ maxProjectId)
    (hget : mgr.dataDirectories.projectMap.get (joinPath dataRoot name) = some id) (fs : QuotaFs)
    (limit : Nat) :
    ∃ fs' dir, mgr.handleAcquireVolume .fine fs
        (volumeOf dataRoot hsafe limit).toPackageVolumeMetadata =
          (fs', ⟨mgr.dataDirectories, mgr.volumes.insert name (some dir)⟩) ∧
      dir.quotaInfo = some ⟨id, some limit⟩ ∧
      fs'.root (joinPath dataRoot name) = some ⟨true, id⟩ ∧
      ∀ q, q ≠ joinPath dataRoot name → fs'.root q = fs.root q := by
  let dirMeta : DataDirMetadata := ⟨name, joinPath dataRoot name, none, some limit⟩
  have hprojid : mgr.dataDirectories.projectMap.projectId dirMeta.path = id := by
    rw [ProjectMap.projectId, hget, Option.getD_some]
  have hmap : mgr.dataDirectories.projectMap.getProjectId dirMeta.path =
      mgr.dataDirectories.projectMap := by
    rw [ProjectMap.getProjectId, hget]
  have hcreate : mgr.dataDirectories.createDataDirectory dirMeta =
      (mgr.dataDirectories, createWith dirMeta (some ⟨id, some limit⟩)) := by
    rw [createDataDirectory_eq, if_pos hquotas, hprojid, if_pos hid, hmap]
  have hlt : id < 2 ^ 32 := Nat.lt_of_le_of_lt hid (by decide)
  -- Every call goes well, so the creation does.
  have hcreated : Created .fine fs.root true dirMeta :=
    ⟨rfl, fun _ => ⟨rfl, rfl, Or.inr rfl, ⟨rfl, rfl⟩, rfl⟩,
      fun dir hdir => absurd hdir List.not_mem_nil⟩
  have hlts : ∀ quota ∈ (some ⟨id, some limit⟩ : Option QuotaInfo), quota.id < 2 ^ 32 := by
    intro quota hquota
    rw [← Option.some.inj hquota]
    exact hlt
  rcases (createWith_ok_iff hlts).mpr hcreated with ⟨dir, hdir⟩
  have hok : ((createWith dirMeta (some ⟨id, some limit⟩)).eval (QuotaFs.serve .fine) fs).2 =
      .ok dir := by
    rw [← hdir, ← eval_root]
  have hspec := createWith_spec .fine fs dirMeta hlt hok
  have hinfo := Prog.eval_of_returns _ (returns_createWith _ _) hok
  have hbeside := beside_of_only (k := .fine) (about_createWith dirMeta (some ⟨id, some limit⟩)) fs
  have hmeta : dataMetaOf (volumeOf dataRoot hsafe limit).toPackageVolumeMetadata = dirMeta := rfl
  rw [VolumeManager.handleAcquireVolume, hmeta, hcreate]
  generalize (createWith dirMeta (some ⟨id, some limit⟩)).eval (QuotaFs.serve .fine) fs = run at *
  refine ⟨run.1, dir, ?_, hinfo.2, hspec.1, hbeside.root⟩
  dsimp only
  rw [hok]
  rfl

/-- With one id read off two directories two messages are enough for two packages with one
    limit between them. -/
theorem exists_not_limited {s t : QuotaState} {e : VolumeEvent dataRoot}
    (hapart : ¬ ReadsApart dataRoot s e) (hstep : volumeStep dataRoot s e = some t) :
    ∃ ms u, (∀ m ∈ ms, VolumeEvent.IsMessage m) ∧ exec (volumeStep dataRoot) t ms = some u ∧
      ¬ Limited dataRoot u := by
  cases e with
  | acquire volumeMeta k => exact absurd trivial hapart
  | purge name k => exact absurd trivial hapart
  | start answers scan =>
      simp only [ReadsApart, not_forall] at hapart
      rcases hapart with ⟨hquotas, p, q, id, hp, hq, hid, hpreads, hqreads, hpid, hqid, hne⟩
      rcases onStart_cases dataRoot answers scan s.fs with ⟨-, hstarted, -⟩ | ⟨hnone, -⟩
      swap
      · exact absurd hquotas hnone
      let dirs := DataDirectoryManager.new true dataRoot s.fs.root scan
      have hget {n : String} (hreads : scan.Reads (joinPath dataRoot n))
          (hactive : activeProjid s.fs.root (joinPath dataRoot n) = some id) :
          dirs.projectMap.get (joinPath dataRoot n) = some id :=
        (new_get dataRoot _ id).mpr ⟨hreads, hactive⟩
      have ht : t = ⟨(onStart dataRoot answers scan s.fs).1, some ⟨dirs, ∅⟩⟩ := by
        rw [← Option.some.inj hstep, hstarted]
      have hzero : id ≠ 0 := by
        rcases Option.bind_eq_some_iff.mp hpid with ⟨attr, -, hattr⟩
        rw [← (activeProjid_eq_some.mp hattr).2.2]
        exact (activeProjid_eq_some.mp hattr).2.1
      rcases acquire_fine ⟨dirs, ∅⟩ rfl hp hid (hget hpreads hpid) t.fs 1 with
        ⟨fs₁, dirp, hacquirep, hquotap, hrootp, -⟩
      let volumes : HashMap String (Option DataDirectory) := ∅
      let volumesp : HashMap String (Option DataDirectory) := volumes.insert p (some dirp)
      rcases acquire_fine ⟨dirs, volumesp⟩ rfl hq hid (hget hqreads hqid) fs₁ 2 with
        ⟨fs₂, dirq, hacquireq, hquotaq, hrootq, hotherq⟩
      let mgr : VolumeManager := ⟨dirs, volumesp.insert q (some dirq)⟩
      refine ⟨[.acquire (volumeOf dataRoot hp 1) .fine, .acquire (volumeOf dataRoot hq 2) .fine],
        ⟨fs₂, some mgr⟩, ?_, ?_, fun hlimited => ?_⟩
      · intro m hm
        rcases List.mem_cons.mp hm with rfl | hm
        · trivial
        · rw [List.mem_singleton.mp hm]
          trivial
      · rw [ht] at hacquirep ⊢
        simp only [exec_cons, exec_nil, volumeStep, Option.map_some, Option.bind_some]
        rw [hacquirep]
        dsimp only
        rw [hacquireq]
      · -- Both are told a limit, and both directories have the one id.
        have htoldp : mgr.quotaInformation p = ⟨true, 1⟩ := by
          refine quotaInformation_eq.mpr ⟨dirp, _, ?_, hquotap, rfl⟩
          exact (HashMap.get_insert_ne volumesp _ hne).trans (HashMap.get_insert_self volumes _ _)
        have htoldq : mgr.quotaInformation q = ⟨true, 2⟩ :=
          quotaInformation_eq.mpr ⟨dirq, _, HashMap.get_insert_self volumesp _ _, hquotaq, rfl⟩
        have hactive {path : String} (hroot : fs₂.root path = some ⟨true, id⟩) :
            activeProjid fs₂.root path = some id := by
          rw [activeProjid, hroot]
          exact activeProjid_eq_some.mpr ⟨rfl, hzero, rfl⟩
        have hrootp' : fs₂.root (joinPath dataRoot p) = some ⟨true, id⟩ :=
          (hotherq _ fun heq => hne (joinPath_inj heq)).trans hrootp
        refine (hlimited mgr rfl q 2 htoldq).own p 1 hne htoldp ?_
        rw [hactive hrootp', hactive hrootq]

/-- In a run of starts and messages, whatever fails, every start reads the ids of the packages
    apart exactly if, wherever the run is left and whatever messages follow, every limit that
    is told is in force. -/
theorem limits_enforced_iff (dataRoot : String) (fs : QuotaFs) (es : List (VolumeEvent dataRoot)) :
    Along (volumeStep dataRoot) (ReadsApart dataRoot) ⟨fs, none⟩ es ↔
      ∀ ds rest ms, es = ds ++ rest → (∀ m ∈ ms, VolumeEvent.IsMessage m) →
        Always (volumeStep dataRoot) (Limited dataRoot) ⟨fs, none⟩ (ds ++ ms) := by
  have hnone : Sound dataRoot ⟨fs, none⟩ := by
    intro mgr hmgr
    cases hmgr
  constructor
  · rintro h ds rest ms rfl hms
    -- No message reads an id.
    have hmessages : ∀ s, Along (volumeStep dataRoot) (ReadsApart dataRoot) s ms := by
      refine fun s => along_mono (P := fun _ => True) (fun s m _ hm => ?_)
        (always_of_invariant (fun _ _ _ _ _ => trivial) (fun _ h => h) trivial ms)
        (along_of_forall hms s)
      cases m with
      | start answers scan => exact absurd hm not_false
      | acquire volumeMeta k => trivial
      | purge name k => trivial
    exact always_mono (fun _ hs => hs.limited) (always_of_along
      (fun _ _ _ hs hapart hstep => step_sound hs hapart hstep) hnone
      (along_append.mpr ⟨(along_append.mp h).1, fun t _ => hmessages t⟩))
  · refine fun h => along_iff_forall_append.mpr fun ds e rest s t hes hds hstep => ?_
    by_contra hapart
    rcases exists_not_limited hapart hstep with ⟨ms, u, hms, hu, hnot⟩
    refine hnot (always_exec (h (ds ++ [e]) rest ms ?_ hms) ?_)
    · rw [hes, List.append_assoc]
      rfl
    · rw [List.append_assoc, exec_append, hds]
      simp only [List.singleton_append, Option.bind_some, exec_cons, hstep]
      exact hu

end Runs

end Daemon

end Ssam
