import Ssam.Daemon.Volumes
import Ssam.Manager.Install

/-!
# The Daemon and its Calls

What the daemon works on, the package files and the data directories together, and
what the calls its messages make do to it.

The calls of a message are answered one after another, each as the kernel has it for
this call, so that of two calls alike one may fail and the other not. The calls on
package files are carried out as before; those on data directories, which were mere
answers there, now change the disk.

## Main definitions

* `DaemonEnv`: The configuration, with the data root.
* `World`: Package files, data directories and volumes.
* `Call`: A call of the daemon.
* `serve`: A call carried out.
* `leavesData`, `addsData`, `makesPackage`, `within`: What kinds of calls there are.

## Theorems

* `data_of_leavesData`, `data_of_only`: Calls that leave the data alone.
* `grows_of_addsData`: A call that adds to the data.
* `keeps_of_within`: A call on one data directory keeps the others.
-/

namespace Ssam

namespace Daemon

open Lib Manager Volume Function

/-- The configuration of the daemon, and what it makes of a package file. Making a
    package of a file comes after its volume has been acquired. -/
structure DaemonEnv (C F V : Type) extends Env C F V where
  dataRoot : String
  info : PackageFileInfo F
  volumeMetadata_eq : volumeMetadata = packageVolumeMetadata dataRoot packageName info

/-- What the daemon works on. -/
structure World (C B : Type) where
  files : Files C
  disk : Disk B
  volumes : VolumeManager
  /-- How many calls have been answered. -/
  calls : Nat

/-- A call of the package manager itself. -/
inductive ManagerCall (C F : Type) : Type → Type where
  | read (path : Path) : ManagerCall C F (Option C)
  | prepareUpgrade (package : Package F) : ManagerCall C F (Except Error Unit)
  | teardown (package : Package F) : ManagerCall C F (Except Error Unit)

/-- A call of the transaction or of the manager. -/
abbrev Call (C F β : Type) : Type := FileCall C F β ⊕ ManagerCall C F β

/-- How one call is answered. -/
structure CallKernel (C : Type) where
  file : FileKernel C
  disk : DiskKernel
  renameDir : Except Error Unit
  /-- The volume manager is reached. -/
  askVolumes : Except Error Unit
  /-- The package is prepared for the upgrade, or torn down. -/
  package : Except Error Unit

/-- Every call is carried out. -/
def CallKernel.fine {C : Type} (unwritten : C) : CallKernel C :=
  ⟨.fine unwritten, .fine, .ok (), .ok (), .ok ()⟩

variable {C F V B : Type}

/-- Rename a data directory. It takes the place of an empty one, not of one with
    anything in it. -/
def moveDir (disk : Disk B) (src dst : String) (outcome : Except Error Unit) :
    Disk B × Except IoError Unit :=
  match disk src, outcome with
  | none, _ => (disk, .error .notFound)
  | some _, .error e => (disk, .error (.other e))
  | some dir, .ok () =>
      if (disk dst).any fun there => !there.tree.isEmpty then
        (disk, .error (.other ["Directory not empty (os error 39)"]))
      else (update (update disk src none) dst (some dir), .ok ())

/-- A call on the package files. -/
def CallKernel.onFiles (k : CallKernel C) (env : DaemonEnv C F V) (w : World C B) {α : Type}
    (c : FileCall C F α) : World C B × α :=
  let served := k.file.serve env.toEnv w.files c
  ({ w with files := served.1 }, served.2)

/-- A call to the volume manager. -/
def CallKernel.askVolumeManager (k : CallKernel C) (w : World C B)
    (handle : World C B × Except Error Unit) : World C B × Except Error Unit :=
  match k.askVolumes with
  | .error e => (w, .error ("Failed to communicate with PackageVolumeManager Actor" :: e))
  | .ok () => handle

/-- Carry a call of the transaction out. -/
def CallKernel.serveFile (k : CallKernel C) (env : DaemonEnv C F V) (w : World C B)
    {α : Type} : FileCall C F α → World C B × α
  | .createTemp dir => k.onFiles env w (.createTemp dir)
  | .copyInto source temp => k.onFiles env w (.copyInto source temp)
  | .persist temp dest => k.onFiles env w (.persist temp dest)
  | .dropTemp temp => k.onFiles env w (.dropTemp temp)
  | .rename src dst => k.onFiles env w (.rename src dst)
  | .removeFile path => k.onFiles env w (.removeFile path)
  | .removeDirAll path =>
      -- The directories of the data are on the disk of the volumes.
      let removed := k.disk.removeTree w.disk path
      ({ w with disk := removed.1 }, removed.2)
  | .renameDir src dst =>
      let renamed := moveDir w.disk src dst k.renameDir
      ({ w with disk := renamed.1 }, renamed.2)
  | .acquireVolume volumeMeta => k.askVolumeManager w <|
      let acquired := w.volumes.acquireVolume k.disk w.disk volumeMeta
      ({ w with disk := acquired.1, volumes := acquired.2 }, .ok ())
  | .purgeVolume name => k.askVolumeManager w <|
      let purged := w.volumes.purgeVolume k.disk w.disk name
      ({ w with disk := purged.1, volumes := purged.2.1 }, purged.2.2)
  | .newPackage path packageFile => k.onFiles env w (.newPackage path packageFile)

/-- Carry a call of the manager out. -/
def CallKernel.serveManager (k : CallKernel C) (w : World C B) {α : Type} :
    ManagerCall C F α → World C B × α
  | .read path => (w, w.files.get path)
  | .prepareUpgrade _ => (w, k.package)
  | .teardown _ => (w, k.package)

/-- Carry a call out, as the kernel has it for this one. -/
def serve (k : Nat → CallKernel C) (env : DaemonEnv C F V) {α : Type} (w : World C B)
    (c : Call C F α) : World C B × α :=
  let served := match c with
    | .inl c => (k w.calls).serveFile env w c
    | .inr c => (k w.calls).serveManager w c
  ({ served.1 with calls := w.calls + 1 }, served.2)

/-- The call has nothing to do with data directories. -/
def leavesData : {β : Type} → Call C F β → Prop
  | _, .inl (.removeDirAll _) => False
  | _, .inl (.renameDir _ _) => False
  | _, .inl (.acquireVolume _) => False
  | _, .inl (.purgeVolume _) => False
  | _, _ => True

/-- The call adds to the data directories at most. A volume is acquired with the data
    directory named as its package. -/
def addsData (dataRoot : String) : {β : Type} → Call C F β → Prop
  | _, .inl (.removeDirAll _) => False
  | _, .inl (.renameDir _ _) => False
  | _, .inl (.acquireVolume volumeMeta) =>
      volumeMeta.dataDir = joinPath dataRoot volumeMeta.packageName
  | _, .inl (.purgeVolume _) => False
  | _, _ => True

/-- The call is one of those that make a package of its file. -/
def makesPackage (dataRoot : String) : {β : Type} → Call C F β → Prop
  | _, .inl (.acquireVolume volumeMeta) =>
      volumeMeta.dataDir = joinPath dataRoot volumeMeta.packageName
  | _, .inl (.newPackage _ _) => True
  | _, .inr (.read _) => True
  | _, _ => False

/-- The call takes data from the directories in `dirs` at most, and purges no volume
    but that of `p`. -/
def within (dataRoot p : String) (dirs : String → Prop) : {β : Type} → Call C F β → Prop
  | _, .inl (.removeDirAll path) => dirs path
  | _, .inl (.renameDir src dst) => dirs src ∧ dirs dst
  | _, .inl (.acquireVolume volumeMeta) =>
      volumeMeta.dataDir = joinPath dataRoot volumeMeta.packageName
  | _, .inl (.purgeVolume name) => name = p
  | _, _ => True

theorem addsData_of_leavesData {dataRoot : String} {β : Type} (c : Call C F β)
    (h : leavesData c) : addsData dataRoot c := by
  rcases c with c | c
  · cases c with
    | removeDirAll path => exact h
    | renameDir src dst => exact h
    | acquireVolume volumeMeta => exact absurd h not_false
    | purgeVolume name => exact h
    | _ => trivial
  · trivial

theorem addsData_of_makesPackage {dataRoot : String} {β : Type} (c : Call C F β)
    (h : makesPackage dataRoot c) : addsData dataRoot c := by
  rcases c with c | c
  · cases c with
    | acquireVolume volumeMeta => exact h
    | newPackage path packageFile => trivial
    | _ => exact absurd h not_false
  · trivial

theorem within_of_addsData {dataRoot p : String} {dirs : String → Prop} {β : Type}
    (c : Call C F β) (h : addsData dataRoot c) : within dataRoot p dirs c := by
  rcases c with c | c
  · cases c with
    | removeDirAll path => exact absurd h not_false
    | renameDir src dst => exact absurd h not_false
    | acquireVolume volumeMeta => exact h
    | purgeVolume name => exact absurd h not_false
    | _ => trivial
  · trivial

section Serve

variable (k : Nat → CallKernel C) (env : DaemonEnv C F V) (w : World C B)

/-- A call that leaves the data alone changes neither the disk nor the volumes. -/
theorem data_of_leavesData {β : Type} {c : Call C F β} (h : leavesData c) :
    (serve k env w c).1.disk = w.disk ∧ (serve k env w c).1.volumes = w.volumes := by
  rcases c with c | c
  · cases c with
    | removeDirAll path => exact absurd h not_false
    | renameDir src dst => exact absurd h not_false
    | acquireVolume volumeMeta => exact absurd h not_false
    | purgeVolume name => exact absurd h not_false
    | _ => exact ⟨rfl, rfl⟩
  · cases c <;> exact ⟨rfl, rfl⟩

/-- So does a whole program of such calls. -/
theorem data_of_only {ε α : Type} {program : Prog (Call C F) ε α}
    (h : program.Only leavesData) :
    (program.eval (serve k env) w).1.disk = w.disk ∧
      (program.eval (serve k env) w).1.volumes = w.volumes :=
  Prog.eval_of_only _ (I := fun s : World C B => s.disk = w.disk ∧ s.volumes = w.volumes)
    (fun s _ hc hs => by
      rcases data_of_leavesData k env s hc with ⟨hdisk, hvolumes⟩
      exact ⟨hdisk.trans hs.1, hvolumes.trans hs.2⟩) h ⟨rfl, rfl⟩

/-- Acquiring a volume, if the volume manager is reached. -/
theorem serve_acquireVolume (volumeMeta : PackageVolumeMetadata) :
    (∃ e, (k w.calls).askVolumes = .error e ∧
        (serve k env w (.inl (.acquireVolume volumeMeta : FileCall C F _))) =
          ({ w with calls := w.calls + 1 },
            .error ("Failed to communicate with PackageVolumeManager Actor" :: e))) ∨
      (k w.calls).askVolumes = .ok () ∧
        (serve k env w (.inl (.acquireVolume volumeMeta : FileCall C F _))) =
          (⟨w.files, (w.volumes.acquireVolume (k w.calls).disk w.disk volumeMeta).1,
            (w.volumes.acquireVolume (k w.calls).disk w.disk volumeMeta).2, w.calls + 1⟩,
            .ok ()) := by
  simp only [serve, CallKernel.serveFile, CallKernel.askVolumeManager]
  cases (k w.calls).askVolumes with
  | error e => exact Or.inl ⟨e, rfl, rfl⟩
  | ok _ => exact Or.inr ⟨rfl, rfl⟩

theorem serve_purgeVolume (name : String) :
    (∃ e, (k w.calls).askVolumes = .error e ∧
        (serve k env w (.inl (.purgeVolume name : FileCall C F _))) =
          ({ w with calls := w.calls + 1 },
            .error ("Failed to communicate with PackageVolumeManager Actor" :: e))) ∨
      (k w.calls).askVolumes = .ok () ∧
        (serve k env w (.inl (.purgeVolume name : FileCall C F _))) =
          (⟨w.files, (w.volumes.purgeVolume (k w.calls).disk w.disk name).1,
            (w.volumes.purgeVolume (k w.calls).disk w.disk name).2.1, w.calls + 1⟩,
            (w.volumes.purgeVolume (k w.calls).disk w.disk name).2.2) := by
  simp only [serve, CallKernel.serveFile, CallKernel.askVolumeManager]
  cases (k w.calls).askVolumes with
  | error e => exact Or.inl ⟨e, rfl, rfl⟩
  | ok _ => exact Or.inr ⟨rfl, rfl⟩

/-- What is left of a directory that is removed. -/
theorem nodeAt_removeDirAll (path rel : String) (node : Node B) :
    (serve k env w (.inl (.removeDirAll path : FileCall C F _))).1.disk.nodeAt path rel =
        some node ↔
      (k w.calls).disk.removeDirAll ≠ .ok () ∧ (k w.calls).disk.spares rel = true ∧
        w.disk.nodeAt path rel = some node := by
  have htrees : Disk.trees (serve k env w (.inl (.removeDirAll path : FileCall C F _))).1.disk =
      update w.disk.trees path ((k w.calls).disk.left (w.disk.trees path)) :=
    trees_removeTree _ _ _
  rw [nodeAt_eq, htrees, update_self, left_eq_some, ← nodeAt_eq]

/-- A renamed directory leaves all others as they are. -/
theorem nodeAt_moveDir {disk : Disk B} {src dst path : String} (hsrc : path ≠ src)
    (hdst : path ≠ dst) (outcome : Except Error Unit) (rel : String) :
    (moveDir disk src dst outcome).1.nodeAt path rel = disk.nodeAt path rel := by
  unfold moveDir
  split
  · rfl
  · rfl
  · next dir hdir =>
      split
      · rfl
      · show (update (update disk src none) dst (some dir) path).bind _ = _
        rw [update_of_ne hdst, update_of_ne hsrc]
        rfl

/-- What a rename that is carried out has moved is at the new place. -/
theorem nodeAt_moved {disk : Disk B} {src dst : String} {outcome : Except Error Unit}
    (h : (moveDir disk src dst outcome).2 = .ok ()) (rel : String) :
    (moveDir disk src dst outcome).1.nodeAt dst rel = disk.nodeAt src rel := by
  unfold moveDir at h ⊢
  split at h
  · exact absurd h (by simp only [reduceCtorEq, not_false_eq_true])
  · exact absurd h (by simp only [reduceCtorEq, not_false_eq_true])
  · next dir hdir =>
      split at h
      · exact absurd h (by simp only [reduceCtorEq, not_false_eq_true])
      · next hfree =>
          rw [if_neg hfree]
          show (update (update disk src none) dst (some dir) dst).bind _ = (disk src).bind _
          rw [update_self, hdir]

/-- One that is not carried out changes nothing, and finds nothing to move if it says
    so. -/
theorem moveDir_error {disk : Disk B} {src dst : String} {outcome : Except Error Unit}
    {e : IoError} (h : (moveDir disk src dst outcome).2 = .error e) :
    (moveDir disk src dst outcome).1 = disk ∧ (e = .notFound → disk src = none) := by
  unfold moveDir at h ⊢
  split at h
  · next hnone => exact ⟨rfl, fun _ => hnone⟩
  · refine ⟨rfl, fun he => ?_⟩
    rw [he] at h
    exact absurd h (by simp only [Except.error.injEq, reduceCtorEq, not_false_eq_true])
  · next dir hdir =>
      split at h
      · next hfull =>
          rw [if_pos hfull]
          refine ⟨rfl, fun he => ?_⟩
          rw [he] at h
          exact absurd h (by simp only [Except.error.injEq, reduceCtorEq, not_false_eq_true])
      · exact absurd h (by simp only [reduceCtorEq, not_false_eq_true])

/-- A call that adds to the data lets the disk grow, and keeps the names. -/
theorem grows_of_addsData {β : Type} {c : Call C F β} (h : addsData env.dataRoot c) :
    Grows w.disk (serve k env w c).1.disk ∧
      (Named env.dataRoot w.volumes → Named env.dataRoot (serve k env w c).1.volumes) := by
  by_cases hleaves : leavesData c
  · rcases data_of_leavesData k env w hleaves with ⟨hdisk, hvolumes⟩
    rw [hdisk, hvolumes]
    exact ⟨Grows.refl _, id⟩
  · rcases c with c | c
    · cases c with
      | removeDirAll path => exact absurd h not_false
      | renameDir src dst => exact absurd h not_false
      | purgeVolume name => exact absurd h not_false
      | acquireVolume volumeMeta =>
          rcases serve_acquireVolume k env w volumeMeta with ⟨e, -, hserve⟩ | ⟨-, hserve⟩
          · rw [hserve]
            exact ⟨Grows.refl _, id⟩
          · rw [hserve]
            exact ⟨grows_acquireVolume _ _ _ _, fun hnamed => hnamed.acquireVolume _ _ h⟩
      | _ => exact absurd trivial hleaves
    · exact absurd trivial hleaves

/-- A purge takes data from the directory of its package alone. -/
theorem nodeAt_purgeVolume {dataRoot : String} {mgr : VolumeManager} (hnamed : Named dataRoot mgr)
    (k : DiskKernel) {disk : Disk B} {name path : String} (hpath : path ≠ joinPath dataRoot name)
    (rel : String) :
    (mgr.purgeVolume k disk name).1.nodeAt path rel = disk.nodeAt path rel := by
  have hcases := purgeVolume_cases mgr k disk name
  generalize mgr.purgeVolume k disk name = purged at hcases
  cases hcases with
  | nothing hnone => rfl
  | removed dir hget disk' r htrees hok =>
      refine nodeAt_congr ?_ rel
      rw [htrees, update_of_ne]
      rw [hnamed name dir hget]
      exact hpath

/-- A call within some data directories keeps what is in the others. -/
theorem keeps_of_within {p : String} {dirs : String → Prop} {β : Type} {c : Call C F β}
    (h : within env.dataRoot p dirs c) (hnamed : Named env.dataRoot w.volumes)
    (hp : dirs (joinPath env.dataRoot p)) :
    Named env.dataRoot (serve k env w c).1.volumes ∧
      ∀ path rel node, ¬ dirs path → w.disk.nodeAt path rel = some node →
        (serve k env w c).1.disk.nodeAt path rel = some node := by
  -- A call that only adds keeps everything.
  by_cases hadds : addsData env.dataRoot c
  · rcases grows_of_addsData k env w hadds with ⟨hgrows, hnames⟩
    exact ⟨hnames hnamed, fun path rel node _ hnode => hgrows.keeps path rel node hnode⟩
  · rcases c with c | c
    · cases c with
      | removeDirAll path =>
          refine ⟨hnamed, fun q rel node hq hnode => ?_⟩
          have htrees : Disk.trees (serve k env w (.inl (.removeDirAll path))).1.disk =
              update w.disk.trees path ((k w.calls).disk.left (w.disk.trees path)) :=
            trees_removeTree _ _ _
          -- The removal and the renames are about directories that may be touched.
          have hsame : Disk.trees (serve k env w (.inl (.removeDirAll path))).1.disk q =
              w.disk.trees q := by
            rw [htrees, update_of_ne]
            rintro rfl
            exact hq h
          rw [nodeAt_congr hsame rel, hnode]
      | renameDir src dst =>
          refine ⟨hnamed, fun q rel node hq hnode => ?_⟩
          rw [← hnode]
          refine nodeAt_moveDir ?_ ?_ _ rel
          · rintro rfl
            exact hq h.1
          · rintro rfl
            exact hq h.2
      | purgeVolume name =>
          have hname : name = p := h
          rcases serve_purgeVolume k env w name with ⟨e, -, hserve⟩ | ⟨-, hserve⟩
          · rw [hserve]
            exact ⟨hnamed, fun path rel node _ hnode => hnode⟩
          · rw [hserve]
            refine ⟨hnamed.purgeVolume _ _ name, fun path rel node hq hnode => ?_⟩
            rw [← hnode]
            refine nodeAt_purgeVolume hnamed _ ?_ rel
            rintro rfl
            rw [hname] at hq
            exact hq hp
      | acquireVolume volumeMeta => exact absurd h hadds
      | _ => exact absurd trivial hadds
    · exact absurd trivial hadds

end Serve

end Daemon

end Ssam
