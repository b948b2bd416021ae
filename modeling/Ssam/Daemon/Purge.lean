import Ssam.Daemon.Step
import Ssam.Volume.ProjectIds

/-!
# Purging a Package

What is left of the data of a package that has been removed and purged.

A purge reaches the data directory through the volume of the package. There is nothing
it reaches where the package is a broken one, for which it is not asked for, and where
the volume has no data directory, as after one could not be created. The directory and
its project id then stay while the removal succeeds.

## Main definitions

* `PurgedOk`: A removal with a purge that succeeds.
* `Complete`: Of the data from before no file is left, and the id is forgotten.
* `Reaches`: The purge reaches what there is.
* `Reacquires`: The bundled package that takes the place gets a project id again.

## Theorems

* `disk_restoreBundled`, `projectMap_restoreBundled`: What the bundled package does.
* `removal_cases`: What a removal that succeeds has done.
* `complete_iff`: When a purge is complete.
* `purge_complete_iff`: When all purges of a run are.
* `broken_not_purged`: The data of a broken package stays.
-/

namespace Ssam

namespace Daemon

open Lib Manager Volume Function

variable {C F V B : Type} (env : DaemonEnv C F V)

/-- The package that is brought back acquires the volume of `name`, which gives its
    data directory a project id. `removed` is the file removed before, and `ask` how
    the volume manager is reached. -/
def Reacquires (w : World C B) (store : PackageStore F) (name : String) (removed : Path)
    (ask : Except Error Unit) : Prop :=
  w.volumes.dataDirectories.quotaRoot = true ∧ ask = .ok () ∧
    ∃ bundledPath file volumeMeta, store.getBundledPath name = some bundledPath ∧
      parseContent env.toEnv (update w.files.get removed none bundledPath) = .ok file ∧
      env.packageName file = name ∧ env.volumeMetadata bundledPath file = .ok volumeMeta

/-- A removal with a purge that is carried out to its end and succeeds. -/
structure PurgedOk (d : DaemonState C F B) (e : DaemonEvent C) (store : PackageStore F)
    (n : String) (w' : World C B) : Prop where
  action : e.action = .remove ⟨n, true⟩
  killed : e.killed = none
  running : d.store = some store
  ok : ∃ store', (handleRemovePackage env.toEnv store ⟨n, true⟩).eval (serve e.kernel env)
    d.world = (w', .ok (store', .ok ()))

/-- No file of the data directory from before is left, and its id is forgotten. -/
structure Complete (dataDir : String) (w w' : World C B) : Prop where
  files : ∀ rel b b', w.disk.nodeAt dataDir rel = some (.file b) →
    w'.disk.nodeAt dataDir rel ≠ some (.file b')
  projectId : w'.volumes.dataDirectories.projectMap.get dataDir = none

/-- There is nothing to be purged. -/
structure Bare (dataDir : String) (w : World C B) : Prop where
  files : ∀ rel b, w.disk.nodeAt dataDir rel ≠ some (.file b)
  projectId : w.volumes.dataDirectories.projectMap.get dataDir = none

/-- The purge reaches what there is: the package is no broken one, and its volume has
    a data directory. -/
def Reaches (w : World C B) (store : PackageStore F) (n : String) : Prop :=
  Bare (joinPath env.dataRoot n) w ∨
    store.get n ≠ none ∧ ∃ dir, w.volumes.volumes.get n = some (some dir)

/-- No bundled package that takes the place gets an id for the directory again. -/
def StaysForgotten (k : Nat → CallKernel C) (w : World C B) (store : PackageStore F)
    (n : String) : Prop :=
  match store.get n with
  | some package => ¬ Reacquires env w store n package.path (k (w.calls + 4)).askVolumes
  | none => ∀ info, store.getBroken n = some info →
      ¬ Reacquires env w store n info.packagePath (k (w.calls + 2)).askVolumes

/-- A purge that succeeds is complete. -/
def PurgeComplete (d : DaemonState C F B) (e : DaemonEvent C) : Prop :=
  ∀ store n w', PurgedOk env d e store n w' →
    Complete (joinPath env.dataRoot n) d.world w'

/-- A purge that succeeds reaches what there is, and nothing brings an id back. -/
def PurgeReaches (d : DaemonState C F B) (e : DaemonEvent C) : Prop :=
  ∀ store n w', PurgedOk env d e store n w' →
    Reaches env d.world store n ∧ StaysForgotten env e.kernel d.world store n

variable {env} {k : Nat → CallKernel C}

/-- Acquiring a volume gives its data directory an id where there are quotas. -/
theorem projectMap_acquireVolume (mgr : VolumeManager) (k : DiskKernel) (disk : Disk B)
    (volumeMeta : PackageVolumeMetadata) (path : String) :
    (mgr.acquireVolume k disk volumeMeta).2.dataDirectories.projectMap.get path = none ↔
      mgr.dataDirectories.projectMap.get path = none ∧
        ¬ (mgr.dataDirectories.quotaRoot = true ∧ volumeMeta.dataDir = path) := by
  have hcreated : (mgr.acquireVolume k disk volumeMeta).2.dataDirectories =
      (mgr.dataDirectories.createDataDirectory (dataMetaOf volumeMeta)).1 := rfl
  rw [hcreated, DataDirectoryManager.createDataDirectory]
  by_cases hquota : mgr.dataDirectories.quotaRoot = true
  · simp only [hquota, if_true, true_and]
    have hget := ProjectMap.get_getProjectId mgr.dataDirectories.projectMap
      (dataMetaOf volumeMeta).path path
    rw [hget]
    by_cases hpath : path = (dataMetaOf volumeMeta).path
    · rw [if_pos hpath]
      exact ⟨fun h => absurd h (Option.some_ne_none _), fun h => absurd hpath.symm h.2⟩
    · rw [if_neg hpath]
      exact (and_iff_left fun h => hpath h.symm).symm
  · simp only [hquota, Bool.false_eq_true, if_false, false_and, not_false_eq_true, and_true]

/-- What making a package does to the ids. -/
theorem projectMap_createPackage (w : World C B) (bundledPath : Path) (file : F) (path : String) :
    ((transaction (createPackage env.toEnv bundledPath file)).eval (serve k env)
        w).1.volumes.dataDirectories.projectMap.get path = none ↔
      w.volumes.dataDirectories.projectMap.get path = none ∧
        ¬ (w.volumes.dataDirectories.quotaRoot = true ∧ (k w.calls).askVolumes = .ok () ∧
          ∃ volumeMeta, env.volumeMetadata bundledPath file = .ok volumeMeta ∧
            volumeMeta.dataDir = path) := by
  cases hmeta : env.volumeMetadata bundledPath file with
  | error e =>
      -- The volume is acquired and the package made, in this order.
      have hrun : (transaction (createPackage env.toEnv bundledPath file) :
          DaemonProg C F (Package F)) =
            .done (.error ("Failed to create volume metadata" :: e)) := by
        rw [createPackage, hmeta]
        rfl
      rw [hrun, Prog.eval_done]
      refine (and_iff_left ?_).symm
      rintro ⟨-, -, volumeMeta, hok, -⟩
      exact absurd hok (by simp only [reduceCtorEq, not_false_eq_true])
  | ok volumeMeta =>
      have hrun : (transaction (createPackage env.toEnv bundledPath file) :
          DaemonProg C F (Package F)) =
          (Prog.try_ (.inl (.acquireVolume volumeMeta))).bind fun _ =>
            Prog.try_ (.inl (.newPackage bundledPath file)) := by
        rw [createPackage, hmeta]
        exact transaction_bind (Prog.try_ (.acquireVolume volumeMeta)) _
      have hexists : (∃ m, Except.ok (ε := Error) volumeMeta = .ok m ∧ m.dataDir = path) ↔
          volumeMeta.dataDir = path :=
        ⟨fun ⟨m, hm, hdir⟩ => by rw [Except.ok.inj hm]; exact hdir, fun h => ⟨_, rfl, h⟩⟩
      rw [hrun, Prog.eval_bind, Prog.eval_try_, hexists]
      rcases serve_acquireVolume k env w volumeMeta with ⟨e, hask, hserve⟩ | ⟨hask, hserve⟩
      · rw [hserve]
        refine (and_iff_left ?_).symm
        rintro ⟨-, hok, -⟩
        exact absurd (hask.symm.trans hok) (by simp only [reduceCtorEq, not_false_eq_true])
      · rw [hserve]
        refine (projectMap_acquireVolume _ _ _ _ path).trans ?_
        rw [hask]
        simp only [true_and]

variable (env k) in
/-- The bundled package that takes the place lets the disk grow at most. -/
theorem disk_restoreBundled (w : World C B) (store : PackageStore F) (name : String) :
    Grows w.disk ((restoreBundled env.toEnv store name).eval (serve k env) w).1.disk :=
  Prog.eval_of_only _ (I := fun s : World C B => Grows w.disk s.disk)
    (fun s _ hc hs => hs.trans (grows_of_addsData k env s hc).1)
    (only_restoreBundled env store name) (Grows.refl _)

/-- What becomes of the entry of a package does not touch the world. -/
theorem world_settleEntry (store : PackageStore F) (name : String)
    (r : Except Error (Package F)) (w : World C B) :
    ((match r with
      | .ok restored => pure (store.insert name restored)
      | .error _ => pure (store.remove name) : DaemonProg C F _).eval (serve k env) w).1 = w := by
  cases r with
  | ok restored => rfl
  | error e => rfl

/-- Recovering a package is reading its file and making the package of it. -/
theorem world_tryRecover (w : World C B) (store : PackageStore F) (name : String) (path : Path) :
    ((tryRecover env.toEnv store name path).eval (serve k env) w).1 =
      match parseContent env.toEnv (w.files.get path) with
      | .error _ => { w with calls := w.calls + 1 }
      | .ok file => ((transaction (createPackage env.toEnv path file)).eval (serve k env)
          { w with calls := w.calls + 1 }).1 := by
  have hread : serve k env w (.inr (.read path)) =
      ({ w with calls := w.calls + 1 }, w.files.get path) := rfl
  rw [tryRecover, Prog.bind_eq, Prog.eval_bind, Prog.eval_attempt]
  refine (world_settleEntry store name _ _).trans ?_
  rw [recoverPackage, Prog.bind_eq, Prog.eval_bind, Prog.eval_ask, hread]
  dsimp only
  rw [Prog.bind_eq, Prog.eval_bind, Prog.eval_done]
  cases parseContent env.toEnv (w.files.get path) with
  | error e => rfl
  | ok file =>
      dsimp only [context]
      rw [Prog.context, Prog.eval_mapError]

variable (env k) in
/-- It comes to have an id exactly if it acquires its volume. -/
theorem projectMap_restoreBundled (w : World C B) (store : PackageStore F) (name : String) :
    ((restoreBundled env.toEnv store name).eval (serve k env)
        w).1.volumes.dataDirectories.projectMap.get (joinPath env.dataRoot name) = none ↔
      w.volumes.dataDirectories.projectMap.get (joinPath env.dataRoot name) = none ∧
        ¬ (w.volumes.dataDirectories.quotaRoot = true ∧
          (k (w.calls + 1)).askVolumes = .ok () ∧ ∃ bundledPath file volumeMeta,
            store.getBundledPath name = some bundledPath ∧
            parseContent env.toEnv (w.files.get bundledPath) = .ok file ∧
            env.packageName file = name ∧
            env.volumeMetadata bundledPath file = .ok volumeMeta) := by
  unfold restoreBundled
  cases hpath : store.getBundledPath name with
  | none =>
      refine (and_iff_left ?_).symm
      rintro ⟨-, -, _, _, _, h, -⟩
      exact absurd h.symm (Option.some_ne_none _)
  | some bundledPath =>
      dsimp only
      rw [world_tryRecover]
      cases hparse : parseContent env.toEnv (w.files.get bundledPath) with
      | error e =>
          refine (and_iff_left ?_).symm
          rintro ⟨-, -, _, _, _, hpath', h, -⟩
          rw [← Option.some.inj hpath', hparse] at h
          exact absurd h (by simp only [reduceCtorEq, not_false_eq_true])
      | ok file =>
          refine (projectMap_createPackage _ bundledPath file _).trans ?_
          refine and_congr_right fun _ => not_congr (and_congr_right fun _ =>
            and_congr_right fun _ => ?_)
          constructor
          · -- The volume is that of the name the file was parsed with.
            rintro ⟨volumeMeta, hmeta, hdir⟩
            rcases volumeMetadata_eq_ok env hmeta with ⟨-, hdir', -⟩
            exact ⟨bundledPath, file, volumeMeta, rfl, hparse,
              joinPath_inj (hdir'.symm.trans hdir), hmeta⟩
          · rintro ⟨_, file', volumeMeta, hpath', hfile, hname, hmeta⟩
            rw [← Option.some.inj hpath'] at hfile hmeta
            rw [← Except.ok.inj (hparse.symm.trans hfile)] at hname hmeta
            rcases volumeMetadata_eq_ok env hmeta with ⟨-, hdir, -⟩
            exact ⟨volumeMeta, hmeta, by rw [hdir, hname]⟩

/-- Removing a file leaves the data alone. -/
theorem eval_removeFileIfExists (w : World C B) (path : Path) :
    (transaction (removeFileIfExists path)).eval (serve k env) w =
      ({ w with
          files := (removePackageFile env.toEnv (k w.calls).file w.files path).1
          calls := w.calls + 1 },
        (removePackageFile env.toEnv (k w.calls).file w.files path).2) := by
  have hserve : serve k env w (.inl (.removeFile path)) =
      ({ w with
          files := ((k w.calls).file.serve env.toEnv w.files (.removeFile path)).1
          calls := w.calls + 1 },
        ((k w.calls).file.serve env.toEnv w.files (.removeFile path)).2) := rfl
  rw [transaction, Prog.eval_lift, removePackageFile, removeFileIfExists, Prog.bind_eq,
    Prog.eval_bind, Prog.eval_bind, Prog.eval_ask, Prog.eval_ask, hserve]
  dsimp only
  generalize (k w.calls).file.serve env.toEnv w.files (.removeFile path : FileCall C F _) = served
  rcases served with ⟨files, (_ | e) | _⟩ <;> rfl

/-- The world in which the bundled package takes the place of the one that was removed:
    the file at the path is gone, and the manager has made so many calls. -/
structure FileGone (w : World C B) (path : Path) (calls : Nat) (w' : World C B) : Prop where
  files : w'.files.get = update w.files.get path none
  calls : w'.calls = w.calls + calls

/-- What a removal with a purge has done when it succeeds. -/
inductive Removal (env : DaemonEnv C F V) (k : Nat → CallKernel C) (store : PackageStore F)
    (n : String) (w : World C B) : World C B → Prop
  | package (package : Package F) (w' : World C B) (hstored : store.get n = some package)
      (hpurged : (w.volumes.purgeVolume (k (w.calls + 1)).disk w.disk n).2.2 = .ok ())
      (hdisk : w'.disk = (w.volumes.purgeVolume (k (w.calls + 1)).disk w.disk n).1)
      (hvolumes : w'.volumes = (w.volumes.purgeVolume (k (w.calls + 1)).disk w.disk n).2.1)
      (hgone : FileGone w package.path 3 w') :
      Removal env k store n w
        ((restoreBundled env.toEnv (store.remove n) n).eval (serve k env) w').1
  | broken (info : BrokenPackageInfo) (w' : World C B) (hstored : store.get n = none)
      (hbroken : store.getBroken n = some info) (hdisk : w'.disk = w.disk)
      (hvolumes : w'.volumes = w.volumes) (hgone : FileGone w info.packagePath 1 w') :
      Removal env k store n w
        ((restoreBundled env.toEnv (store.removeBroken n) n).eval (serve k env) w').1

/-- Once the file is gone the bundled package takes its place. -/
theorem removeFileAndRestore_ok {w w' : World C B} {store store' : PackageStore F}
    {n failed : String} {path : Path}
    (h : (removeFileAndRestore env.toEnv store n path failed).eval (serve k env) w =
      (w', .ok (store', .ok ()))) :
    ∃ w₁, w₁.disk = w.disk ∧ w₁.volumes = w.volumes ∧ FileGone w path 1 w₁ ∧
      w' = ((restoreBundled env.toEnv store n).eval (serve k env) w₁).1 := by
  rw [removeFileAndRestore, Prog.bind_eq, Prog.eval_bind, Prog.eval_attempt,
    eval_removeFileIfExists] at h
  rcases removedFile env.toEnv (k w.calls).file w.files path with
    ⟨b, hb, hfiles, -⟩ | ⟨e, he, -⟩
  · rw [hb] at h
    dsimp only at h
    rw [Prog.bind_eq, Prog.eval_bind] at h
    -- The file is gone, or there was none.
    refine ⟨{ w with
      files := (removePackageFile env.toEnv (k w.calls).file w.files path).1
      calls := w.calls + 1 }, rfl, rfl, ⟨hfiles, rfl⟩, ?_⟩
    have hw := congrArg Prod.fst h
    generalize (restoreBundled env.toEnv store n : DaemonProg C F _).eval (serve k env) _ =
      restored at hw ⊢
    rcases restored with ⟨w₁, e | s⟩
    · exact hw.symm
    · exact hw.symm
  · rw [he] at h
    exact absurd (congrArg Prod.snd h) (by
      simp only [Prog.pure_eq, Prog.eval_done, Except.ok.injEq, Prod.mk.injEq, reduceCtorEq,
        and_false, not_false_eq_true])

/-- What a removal that succeeds has done. -/
theorem removal_cases {w w' : World C B} {store store' : PackageStore F} {n : String}
    (h : (removePackage env.toEnv store n true).eval (serve k env) w =
      (w', .ok (store', .ok ()))) : Removal env k store n w w' := by
  -- A removal that returns an error is none of these.
  have hrefuse : ∀ {p : DaemonProg C F (PackageStore F × Except Error Unit)} {s : World C B},
      p.eval (serve k env) s = (w', .ok (store', .ok ())) →
        p.Returns (fun r => r.2 ≠ .ok ()) → False :=
    fun heval hreturns => Prog.eval_of_returns _ hreturns (congrArg Prod.snd heval) rfl
  have hne : ∀ e : Error, (Except.error e : Except Error Unit) ≠ .ok () :=
    fun e => by simp only [ne_eq, reduceCtorEq, not_false_eq_true]
  unfold removePackage at h
  split at h
  · next package hstored =>
      split at h
      · exact (hrefuse h (hne _)).elim
      · have hteardown : serve k env w (.inr (.teardown package)) =
            ({ w with calls := w.calls + 1 }, (k w.calls).package) := rfl
        rw [Prog.bind_eq, Prog.eval_bind, Prog.eval_ask, hteardown] at h
        dsimp only at h
        cases hdown : (k w.calls).package with
        | error e =>
            rw [hdown] at h
            exact (hrefuse h (hne _)).elim
        | ok _ =>
            rw [hdown] at h
            simp only [if_true, Prog.bind_eq, Prog.eval_bind, Prog.eval_ask] at h
            let w₁ : World C B := { w with calls := w.calls + 1 }
            -- The teardown went through, and the purge comes next.
            rcases serve_purgeVolume k env w₁ n with ⟨e, hask, hserve⟩ | ⟨hask, hserve⟩
            · rw [hserve] at h
              exact (hrefuse h (Prog.returns_bind _ fun _ => hne _)).elim
            · rw [hserve] at h
              dsimp only at h
              cases hpurged : (w.volumes.purgeVolume (k (w.calls + 1)).disk w.disk n).2.2 with
              | error e =>
                  rw [hpurged] at h
                  exact (hrefuse h (Prog.returns_bind _ fun _ => hne _)).elim
              | ok _ =>
                  rw [hpurged] at h
                  rcases removeFileAndRestore_ok h with ⟨w₃, hdisk, hvolumes, hgone, hw⟩
                  rw [hw]
                  exact Removal.package package w₃ hstored hpurged hdisk hvolumes
                    ⟨hgone.files, hgone.calls⟩
  · next hstored =>
      split at h
      · next info hbroken =>
          split at h
          · exact (hrefuse h (hne _)).elim
          · rcases removeFileAndRestore_ok h with ⟨w₁, hdisk, hvolumes, hgone, hw⟩
            rw [hw]
            exact Removal.broken info w₁ hstored hbroken hdisk hvolumes hgone
      · exact (hrefuse h (hne _)).elim

/-- Where the data is as before when the bundled package takes the place, it is so
    afterwards. -/
theorem complete_kept {w w₁ : World C B} {store store₁ : PackageStore F} {n : String}
    {path : Path} {calls : Nat} (hdisk : w₁.disk = w.disk)
    (hvolumes : w₁.volumes.dataDirectories = w.volumes.dataDirectories)
    (hgone : FileGone w path calls w₁)
    (hbundled : store₁.getBundledPath n = store.getBundledPath n) :
    Complete (joinPath env.dataRoot n) w
        ((restoreBundled env.toEnv store₁ n).eval (serve k env) w₁).1 ↔
      Bare (joinPath env.dataRoot n) w ∧
        ¬ Reacquires env w store n path (k (w.calls + calls + 1)).askVolumes := by
  have hgrows := disk_restoreBundled env k w₁ store₁ n
  have hmap := projectMap_restoreBundled env k w₁ store₁ n
  rw [hvolumes, hgone.calls, hgone.files, hbundled] at hmap
  rw [hdisk] at hgrows
  constructor
  · intro h
    refine ⟨⟨fun rel b hb => ?_, (hmap.mp h.projectId).1⟩, (hmap.mp h.projectId).2⟩
    exact h.files rel b b hb (hgrows.keeps _ _ _ hb)
  · rintro ⟨hbare, hre⟩
    exact ⟨fun rel b b' hb => absurd hb (hbare.files rel b),
      hmap.mpr ⟨hbare.projectId, hre⟩⟩

/-- A purge that succeeds is complete exactly if it reaches what there is and nothing
    brings the id back. -/
theorem complete_iff {w w' : World C B} {store store' : PackageStore F} {n : String}
    (hnamed : Named env.dataRoot w.volumes)
    (h : (removePackage env.toEnv store n true).eval (serve k env) w =
      (w', .ok (store', .ok ()))) :
    Complete (joinPath env.dataRoot n) w w' ↔
      Reaches env w store n ∧ StaysForgotten env k w store n := by
  have hcases := removal_cases h
  cases hcases with
  | broken info w₁ hstored hbroken hdisk hvolumes hgone =>
      rw [complete_kept hdisk (congrArg VolumeManager.dataDirectories hvolumes) hgone
        (PackageStore.getBundledPath_removeBroken store n n)]
      -- A broken package is not purged, so the volume must have been bare.
      have hreaches : Reaches env w store n ↔ Bare (joinPath env.dataRoot n) w :=
        or_iff_left fun h => h.1 hstored
      have hforgotten : StaysForgotten env k w store n ↔
          ¬ Reacquires env w store n info.packagePath (k (w.calls + 2)).askVolumes := by
        rw [StaysForgotten, hstored]
        refine ⟨fun h => h info hbroken, fun h info' hinfo' => ?_⟩
        rw [← Option.some.inj (hbroken.symm.trans hinfo')]
        exact h
      rw [hreaches, hforgotten]
  | package package w₁ hstored hpurged hdisk hvolumes hgone =>
      have hforgotten : StaysForgotten env k w store n ↔
          ¬ Reacquires env w store n package.path (k (w.calls + 4)).askVolumes := by
        rw [StaysForgotten, hstored]
      rw [hforgotten]
      have hcases := purgeVolume_cases w.volumes (k (w.calls + 1)).disk w.disk n
      generalize w.volumes.purgeVolume (k (w.calls + 1)).disk w.disk n = purged at *
      cases hcases with
      | nothing hnone =>
          have hsame : w₁.volumes.dataDirectories = w.volumes.dataDirectories := by
            rw [hvolumes]
          rw [complete_kept hdisk hsame hgone (PackageStore.getBundledPath_remove store n n)]
          have hreaches : Reaches env w store n ↔ Bare (joinPath env.dataRoot n) w :=
            or_iff_left fun h => h.2.elim hnone
          rw [hreaches]
      | removed dir hget disk' r htrees hok =>
          have hpath : dir.path = joinPath env.dataRoot n := hnamed n dir hget
          have hstored' : store.get n ≠ none := by
            rw [hstored]
            exact Option.some_ne_none package
          -- The volume was purged, so no file of it is left.
          have hempty : ∀ rel b, w₁.disk.nodeAt (joinPath env.dataRoot n) rel ≠
              some (.file b) := by
            intro rel b hb
            have hdisk₁ : w₁.disk = disk' := hdisk
            rw [hdisk₁, nodeAt_eq, htrees, hpath, update_self] at hb
            exact (left_eq_some _).mp hb |>.1 (hok hpurged)
          -- It is recorded again only if the bundled package acquires it.
          have hmap := projectMap_restoreBundled env k w₁ (store.remove n) n
          have hgrows := disk_restoreBundled env k w₁ (store.remove n) n
          have hvolumes₁ : w₁.volumes.dataDirectories = { w.volumes.dataDirectories with
              projectMap := w.volumes.dataDirectories.projectMap.erase dir.path } := by
            rw [hvolumes]
          have hforgets : HashMap.get w₁.volumes.dataDirectories.projectMap
              (joinPath env.dataRoot n) = none := by
            rw [hvolumes₁, ← hpath]
            exact HashMap.get_erase_self _ _
          rw [and_iff_right hforgets, hgone.calls, hgone.files, hvolumes₁,
            PackageStore.getBundledPath_remove] at hmap
          constructor
          · intro h
            exact ⟨Or.inr ⟨hstored', dir, hget⟩, hmap.mp h.projectId⟩
          · rintro ⟨-, hre⟩
            exact ⟨fun rel b b' _ hb' => hempty rel b' (hgrows.adds _ _ _ hb'), hmap.mpr hre⟩

section Runs

variable [LE V] [DecidableLE V] [ToString V]

omit [LE V] [DecidableLE V] [ToString V] in
theorem purgeComplete_iff {d : DaemonState C F B} {e : DaemonEvent C}
    (hnamed : Named env.dataRoot d.world.volumes) :
    PurgeComplete env d e ↔ PurgeReaches env d e := by
  refine forall_congr' fun store => forall_congr' fun n => forall_congr' fun w' =>
    imp_congr_right fun hpurged => ?_
  rcases hpurged.ok with ⟨store', hrun⟩
  have hremoved : ∃ store', (removePackage env.toEnv store n true).eval (serve e.kernel env)
      d.world = (w', .ok (store', .ok ())) := by
    rw [handleRemovePackage, Prog.bind_eq, Prog.eval_bind] at hrun
    generalize (removePackage env.toEnv store n true).eval (serve e.kernel env) d.world = run
      at hrun
    rcases run with ⟨w₁, e | ⟨store₁, r⟩⟩
    · exact absurd (congrArg Prod.snd hrun) (by simp only [reduceCtorEq, not_false_eq_true])
    · have hend : (⟨store₁, context s!"Failed to remove package: {n}" r⟩ :
          PackageStore F × Except Error Unit) = ⟨store', .ok ()⟩ :=
        Except.ok.inj (congrArg Prod.snd hrun)
      have hw : w₁ = w' := congrArg Prod.fst hrun
      have hr : r = .ok () := context_eq_ok.mp (congrArg Prod.snd hend)
      exact ⟨store₁, by rw [hw, hr]⟩
  rcases hremoved with ⟨store'', hremoved⟩
  exact complete_iff hnamed hremoved

/-- In every run of the daemon, with its kills and restarts, the purges that succeed
    are complete exactly if they reach what there is and nothing brings an id back. -/
theorem purge_complete_iff (files : Files C) (disk : Disk B) (es : List (DaemonEvent C)) :
    Along (daemonStep env) (PurgeComplete env) (stopped files disk) es ↔
      Along (daemonStep env) (PurgeReaches env) (stopped files disk) es :=
  along_congr (fun _ _ _ => named_daemonStep) (fun _ _ => purgeComplete_iff)
    (named_stopped env.dataRoot files disk)

end Runs

/-- The data of a package that could not be made of its file stays when it is purged. -/
theorem broken_not_purged :
    ¬ Along (daemonStep (plainDaemon fun _ => .error ["no runtime"]))
      (PurgeComplete (plainDaemon fun _ => .error ["no runtime"]))
      (stopped (AList.insert ⟨"/d", "a.ssam"⟩ ("a", 1) ∅) (diskWith "/data/a"))
      [startWith "a.ssam", ⟨.remove ⟨"a", true⟩, fun _ => .fine ("", 0), none⟩] := by
  intro h
  have hcomplete := ((h _ rfl).2 _ rfl).1 _ "a" _ ⟨rfl, rfl, rfl, _, rfl⟩
  exact hcomplete.files "f" 7 7 rfl (by decide +kernel)

end Daemon

end Ssam
