import Ssam.Manager.Store
import Ssam.Volume.Disk

/-!
# The Volume Manager

The actor that has the volumes of the packages, and with each its data directory.

A volume whose data directory could not be created is a volume without one, and the
package runs without. Purging a volume removes the data directory the volume has, so
of a volume that has none, or that is not known, nothing is removed.

## Main definitions

* `dataDirMetadata`, `packageVolumeMetadata`: What a package file says of its volume.
* `VolumeManager`: The volumes, and what is known of the data directories.
* `acquireVolume`, `purgeVolume`: The two messages.
* `Named`: Every data directory has the name of its package.

## Theorems

* `packageVolumeMetadata_eq_ok`: The data directory of a package is named as the package.
* `Named.acquireVolume`, `Named.purgeVolume`: Both messages keep the names.
* `grows_acquireVolume`: Acquiring a volume takes nothing away.
* `purgeVolume_cases`: What a purge comes to.
-/

namespace Ssam

namespace Daemon

open Lib Manager Volume Function

/-- What a package file says of its volume. -/
structure PackageFileInfo (F : Type) where
  /-- The image of the package can be described. -/
  pkgfsMetadata : Path → F → Except Error Unit
  containerDataDirs : F → Option String
  containerStorageLimit : F → Option Int

variable {F B : Type}

/-- The limit as a number that is not negative. -/
def storageLimitOf : Option Int → Except Error (Option Nat)
  | none => .ok none
  | some limit =>
      if 0 ≤ limit then .ok (some limit.toNat)
      else .error ["out of range integral type conversion attempted"]

/-- What a package says of its data directory, which is named as the package is. -/
def dataDirMetadata (dataRoot packageName : String) (info : PackageFileInfo F) (file : F) :
    Except Error DataDirMetadata := do
  ensure (isSafePathSegment packageName) s!"Unsafe package name rejected: {packageName}"
  let storageLimit ← context "storage_limit value is invalid"
    (storageLimitOf (info.containerStorageLimit file))
  .ok ⟨packageName, joinPath dataRoot packageName, info.containerDataDirs file, storageLimit⟩

def packageVolumeMetadata (dataRoot : String) (packageName : F → String)
    (info : PackageFileInfo F) (path : Path) (file : F) :
    Except Error PackageVolumeMetadata := do
  info.pkgfsMetadata path file
  let dataMeta ← dataDirMetadata dataRoot (packageName file) info file
  .ok ⟨packageName file, dataMeta.path, dataMeta.dataDirs, dataMeta.storageLimit⟩

/-- The data directory of a package is named as the package. -/
theorem packageVolumeMetadata_eq_ok {dataRoot : String} {packageName : F → String}
    {info : PackageFileInfo F} {path : Path} {file : F} {volumeMeta : PackageVolumeMetadata}
    (h : packageVolumeMetadata dataRoot packageName info path file = .ok volumeMeta) :
    volumeMeta.packageName = packageName file ∧
      volumeMeta.dataDir = joinPath dataRoot (packageName file) ∧
      isSafePathSegment (packageName file) = true := by
  rcases except_bind_eq_ok.mp h with ⟨_, -, h⟩
  rcases except_bind_eq_ok.mp h with ⟨dataMeta, hdata, h⟩
  rcases ensure_bind_eq_ok.mp hdata with ⟨hsafe, hdata⟩
  rcases except_bind_eq_ok.mp hdata with ⟨limit, -, hdata⟩
  rw [← Except.ok.inj h, ← Except.ok.inj hdata]
  exact ⟨rfl, rfl, hsafe⟩

/-- The data directory a package asks for with its volume. -/
def dataMetaOf (volumeMeta : PackageVolumeMetadata) : DataDirMetadata :=
  ⟨volumeMeta.packageName, volumeMeta.dataDir, volumeMeta.dataDirs, volumeMeta.storageLimit⟩

/-- The volumes by the names of the packages, each with its data directory if it has
    one. -/
structure VolumeManager where
  dataDirectories : DataDirectoryManager
  volumes : HashMap String (Option DataDirectory)

namespace VolumeManager

/-- Acquire the volume of a package. A data directory that could not be created is
    only logged. -/
def acquireVolume (mgr : VolumeManager) (k : DiskKernel) (disk : Disk B)
    (volumeMeta : PackageVolumeMetadata) : Disk B × VolumeManager :=
  let created := mgr.dataDirectories.createDataDirectory (dataMetaOf volumeMeta)
  let run := created.2.eval k.serve disk
  (run.1, ⟨created.1, mgr.volumes.insert volumeMeta.packageName run.2.toOption⟩)

/-- Purge the volume of a package: the disk after, the manager, and how it ends. -/
def purgeVolume (mgr : VolumeManager) (k : DiskKernel) (disk : Disk B) (name : String) :
    Disk B × VolumeManager × Except Error Unit :=
  let volumes : HashMap String (Option DataDirectory) := mgr.volumes.erase name
  match mgr.volumes.get name with
  | some (some dataDirectory) =>
      let removed := mgr.dataDirectories.removeDataDirectory dataDirectory
      let run := removed.2.eval k.serve disk
      (run.1, ⟨removed.1, volumes⟩,
        context s!"Failed to remove data directory for package: {name}" run.2)
  | _ => (disk, ⟨mgr.dataDirectories, volumes⟩, .ok ())

end VolumeManager

/-- Every volume that has a data directory has the one named as its package. -/
def Named (dataRoot : String) (mgr : VolumeManager) : Prop :=
  ∀ n dir, mgr.volumes.get n = some (some dir) → dir.path = joinPath dataRoot n

theorem grows_acquireVolume (mgr : VolumeManager) (k : DiskKernel) (disk : Disk B)
    (volumeMeta : PackageVolumeMetadata) :
    Grows disk (mgr.acquireVolume k disk volumeMeta).1 :=
  grows_createDataDirectory k mgr.dataDirectories (dataMetaOf volumeMeta) disk

/-- A data directory that has been created is the one asked for. -/
theorem path_of_createDataDirectory {k : DiskKernel} {mgr : DataDirectoryManager}
    {dirMeta : DataDirMetadata} {disk : Disk B} {dir : DataDirectory}
    (h : ((mgr.createDataDirectory dirMeta).2.eval k.serve disk).2 = .ok dir) :
    dir.path = dirMeta.path := by
  have hreturns : (mgr.createDataDirectory dirMeta).2.Returns
      fun dir => dir.path = dirMeta.path := by
    unfold DataDirectoryManager.createDataDirectory
    dsimp only
    split
    · split
      · exact Prog.returns_bind _ fun _ => Prog.returns_bind _ fun _ =>
          Prog.returns_bind _ fun _ => rfl
      · trivial
    · exact Prog.returns_bind _ fun _ => Prog.returns_bind _ fun _ =>
        Prog.returns_bind _ fun _ => rfl
  exact Prog.eval_of_returns k.serve hreturns h

/-- The data directory of a volume that was acquired, if it has one, is the one asked
    for. -/
theorem path_of_acquireVolume {mgr : VolumeManager} {k : DiskKernel} {disk : Disk B}
    {volumeMeta : PackageVolumeMetadata} {dir : DataDirectory}
    (h : (mgr.acquireVolume k disk volumeMeta).2.volumes.get volumeMeta.packageName =
      some (some dir)) :
    dir.path = volumeMeta.dataDir := by
  have hget := (HashMap.get_insert_self _ _ _).symm.trans h
  exact path_of_createDataDirectory (toOption_eq_some.mp (Option.some.inj hget))

/-- A volume acquired under the name of its package keeps the names. -/
theorem Named.acquireVolume {dataRoot : String} {mgr : VolumeManager} (h : Named dataRoot mgr)
    (k : DiskKernel) (disk : Disk B) {volumeMeta : PackageVolumeMetadata}
    (hmeta : volumeMeta.dataDir = joinPath dataRoot volumeMeta.packageName) :
    Named dataRoot (mgr.acquireVolume k disk volumeMeta).2 := by
  intro n dir hget
  by_cases hn : n = volumeMeta.packageName
  · rw [hn] at hget
    rw [hn, path_of_acquireVolume hget]
    exact hmeta
  · have hget' : HashMap.get (mgr.volumes.insert volumeMeta.packageName _) n = some (some dir) :=
      hget
    rw [HashMap.get_insert, if_neg hn] at hget'
    exact h n dir hget'

/-- What a purge comes to. -/
inductive Purged (mgr : VolumeManager) (k : DiskKernel) (disk : Disk B) (name : String) :
    Disk B × VolumeManager × Except Error Unit → Prop
  /-- The volume is not known, or has no data directory. -/
  | nothing (hnone : ∀ dir, mgr.volumes.get name ≠ some (some dir)) :
      Purged mgr k disk name
        (disk, ⟨mgr.dataDirectories, mgr.volumes.erase name⟩, .ok ())
  | removed (dir : DataDirectory) (hget : mgr.volumes.get name = some (some dir))
      (disk' : Disk B) (r : Except Error Unit)
      (htrees : disk'.trees = update disk.trees dir.path (k.left (disk.trees dir.path)))
      (hok : r = .ok () → k.removeDirAll = .ok ()) :
      Purged mgr k disk name (disk',
        ⟨{ mgr.dataDirectories with
            projectMap := mgr.dataDirectories.projectMap.erase dir.path },
          mgr.volumes.erase name⟩, r)

theorem purgeVolume_cases (mgr : VolumeManager) (k : DiskKernel) (disk : Disk B) (name : String) :
    Purged mgr k disk name (mgr.purgeVolume k disk name) := by
  unfold VolumeManager.purgeVolume
  rcases hget : mgr.volumes.get name with _ | _ | dir
  · exact Purged.nothing fun dir h => absurd (hget.symm.trans h) (by simp only [reduceCtorEq,
      not_false_eq_true])
  · exact Purged.nothing fun dir h => absurd (hget.symm.trans h) (by simp only [reduceCtorEq,
      Option.some.injEq, not_false_eq_true])
  · rcases trees_removeDataDirectory k mgr.dataDirectories dir disk with ⟨htrees, hok⟩
    exact Purged.removed dir hget _ _ htrees fun h => hok (context_eq_ok.mp h)

theorem Named.purgeVolume {dataRoot : String} {mgr : VolumeManager} (h : Named dataRoot mgr)
    (k : DiskKernel) (disk : Disk B) (name : String) :
    Named dataRoot (mgr.purgeVolume k disk name).2.1 := by
  have herase : ∀ mgr' : VolumeManager, mgr'.volumes = mgr.volumes.erase name →
      Named dataRoot mgr' := by
    intro mgr' hmgr' n dir hget
    rw [hmgr'] at hget
    have hget' : HashMap.get (mgr.volumes.erase name) n = some (some dir) := hget
    rw [HashMap.get_erase] at hget'
    by_cases hn : n = name
    · rw [if_pos hn] at hget'
      exact absurd hget'.symm (Option.some_ne_none _)
    · rw [if_neg hn] at hget'
      exact h n dir hget'
  have hcases := purgeVolume_cases mgr k disk name
  generalize mgr.purgeVolume k disk name = purged at hcases
  cases hcases with
  | nothing hnone => exact herase _ rfl
  | removed dir hget disk' r htrees hok => exact herase _ rfl

end Daemon

end Ssam
