import Ssam.Daemon.Isolation
import Ssam.Daemon.Purge

/-!
# Data under a failed Install

What becomes of the data of a package when an install of it fails.

An upgrade leaves the data where it is, or sets it aside first and puts it back when it
fails. An install that replaces nothing takes the data directory for one it has made
itself, and purges it when the package cannot be made. Where there is data of a package
that was removed before, that data is lost.

## Main definitions

* `DataPreserved`: An install that fails keeps the files of the data directory.
* `PutsBack`: The rename that puts back what was set aside is carried out.
* `FilePlaced`: The new file comes to its place.
* `PurgesMade`: The package cannot be made, and its volume is purged.
* `PurgesOldData`: An install that replaces nothing purges data there was before.

## Theorems

* `keeps_of_restored`: What was set aside is back.
* `filePlaced_iff`: When the new file comes to its place.
* `finishWith_fresh`: What an install that replaces nothing comes to.
* `keeps_of_upgrade`: An upgrade that fails keeps the data.
* `data_preserved_iff`: When an install that fails keeps the data.
* `removed_data_lost`: One that replaces nothing loses the data left from before.
-/

namespace Ssam

namespace Daemon

open Lib Manager Volume Function

variable {C F V B : Type} (env : DaemonEnv C F V)

/-- The call, if it is the one that puts the data set aside back, is carried out. -/
def PutsBack (k : Nat → CallKernel C) (dataDir : String) (w : World C B) :
    {β : Type} → Call C F β → Prop
  | _, .inl (.renameDir src dst) => src = dataDir ++ ".old" → dst = dataDir →
      (serve k env w (.inl (.renameDir src dst : FileCall C F _))).2 = .ok ()
  | _, _ => True

/-- The new file of an install that replaces nothing comes to its place. -/
structure FilePlaced (k : Nat → CallKernel C) (w : World C B) (info : InstallInfo C F) :
    Prop where
  temp : ∃ temp : TempName, (k w.calls).file.createTemp = .ok temp ∧
    w.files.get ⟨info.dest.parent, temp.fileName⟩ = none
  copied : ∃ bytes, (k (w.calls + 1)).file.copyInto = .ok bytes
  renamed : (k (w.calls + 2)).file.persist = none

/-- The volume is acquired with a data directory, the package cannot be made, and the
    volume is purged. -/
structure PurgesMade (k : Nat → CallKernel C) (w : World C B) (info : InstallInfo C F) :
    Prop where
  acquired : (k w.calls).askVolumes = .ok ()
  created : ∃ dir, ((w.volumes.dataDirectories.createDataDirectory
    (dataMetaOf info.volumeMeta)).2.eval (k w.calls).disk.serve w.disk).2 = .ok dir
  notMade : (k (w.calls + 1)).file.newPackage ≠ none ∨
    env.buildPackage info.dest info.packageFile ≠ .ok ()
  purged : (k (w.calls + 3)).askVolumes = .ok ()

/-- An install that replaces nothing puts its file in place, cannot make the package,
    and purges a data directory with a file in it that the purge does not spare. -/
structure PurgesOldData [LE V] [DecidableLE V] [ToString V] (k : Nat → CallKernel C)
    (w : World C B) (store : PackageStore F) (msg : InstallPackage C) (info : InstallInfo C F) :
    Prop where
  plan : planInstall env.toEnv store msg = .ok (info, none)
  placed : FilePlaced k w info
  purges : PurgesMade env k { w with calls := w.calls + 3 } info
  lost : ∃ rel b, w.disk.nodeAt (joinPath env.dataRoot info.packageName) rel = some (.file b) ∧
    ((k (w.calls + 6)).disk.removeDirAll = .ok () ∨
      (k (w.calls + 6)).disk.spares rel = false)

/-- If the install fails, and what was set aside can be put back, every file there was
    in the data directory of its package is there with what was in it. -/
def DataPreserved [LE V] [DecidableLE V] [ToString V] (k : Nat → CallKernel C)
    (w : World C B) (store : PackageStore F) (msg : InstallPackage C) : Prop :=
  ∀ store' e w', (handleInstallPackage env.toEnv store msg).eval (serve k env) w =
      (w', .ok (store', .error e)) →
    Prog.wp (serve k env)
      (fun s c => PutsBack env k (joinPath env.dataRoot (packageNameOf env.toEnv msg)) s c)
      (fun _ _ => True) (handleInstallPackage env.toEnv store msg) w →
    ∀ rel b, w.disk.nodeAt (joinPath env.dataRoot (packageNameOf env.toEnv msg)) rel =
        some (.file b) →
      w'.disk.nodeAt (joinPath env.dataRoot (packageNameOf env.toEnv msg)) rel = some (.file b)

variable {env} {k : Nat → CallKernel C}

/-- A program that adds to the data at most lets the disk grow. -/
theorem grows_of_only {α : Type} {program : DaemonProg C F α}
    (h : program.Only (addsData env.dataRoot)) (w : World C B) :
    Grows w.disk (program.eval (serve k env) w).1.disk :=
  Prog.eval_of_only _ (I := fun s : World C B => Grows w.disk s.disk)
    (fun s _ hc hs => hs.trans (grows_of_addsData k env s hc).1) h (Grows.refl _)

variable (k env) in
/-- One about package files changes neither the data nor the volumes. -/
theorem data_of_onFiles {α : Type} {program : FileProg C F α} (h : program.Only onFiles)
    (w : World C B) :
    (program.eval (fun s c => serve k env s (.inl c)) w).1.disk = w.disk ∧
      (program.eval (fun s c => serve k env s (.inl c)) w).1.volumes = w.volumes := by
  have hdata := data_of_only k env w (only_transaction (A := leavesData) h)
  rw [transaction, Prog.eval_lift] at hdata
  exact hdata

section Fresh

/-- The new file comes to its place with three calls. -/
theorem placeFile_fresh_eq_ok {info : InstallInfo C F} (hparent : info.dest.parent ≠ "")
    {w w' : World C B} :
    (transaction (placeFile info .fresh)).eval (serve k env) w = (w', .ok ()) ↔
      ∃ w₁ temp, serve k env w (.inl (.createTemp info.dest.parent)) = (w₁, .ok temp) ∧
        ∃ w₂ bytes, serve k env w₁ (.inl (.copyInto info.source
          ⟨info.dest.parent, temp.fileName⟩)) = (w₂, .ok bytes) ∧
          serve k env w₂ (.inl (.persist ⟨info.dest.parent, temp.fileName⟩ info.dest)) =
            (w', .ok ()) := by
  rw [transaction, Prog.eval_lift]
  simp only [placeFile, copyToPkgDir, copy, if_neg hparent, Prog.bind_eq, Prog.pure_eq,
    Prog.context, Prog.eval_bind_eq_ok, Prog.eval_onError_eq_ok, Prog.eval_mapError_eq_ok,
    Prog.eval_try_, Prog.eval_done]
  constructor
  · rintro ⟨s, a, ⟨w₁, temp, htemp, w₂, bytes, hcopy, s', u, hpersist, hs⟩, hw⟩
    rw [Prod.mk.injEq] at hs hw
    rw [hs.1, hw.1] at hpersist
    exact ⟨w₁, temp, htemp, w₂, bytes, hcopy, hpersist⟩
  · rintro ⟨w₁, temp, htemp, w₂, bytes, hcopy, hpersist⟩
    exact ⟨w', bytes, ⟨w₁, temp, htemp, w₂, bytes, hcopy, w', (), hpersist, rfl⟩, rfl⟩

/-- It does so exactly if each of these calls is carried out, and leaves the data. -/
theorem filePlaced_iff {info : InstallInfo C F} {content : C} (hparent : info.dest.parent ≠ "")
    (hcontent : info.source.content = some content) (w : World C B) :
    (FilePlaced k w info ↔ ∃ w',
      (transaction (placeFile info .fresh)).eval (serve k env) w = (w', .ok ())) ∧
      ∀ w', (transaction (placeFile info .fresh)).eval (serve k env) w = (w', .ok ()) →
        ∃ files, w' = ⟨files, w.disk, w.volumes, w.calls + 3⟩ := by
  have htemp : ∀ dir, onFiles (.createTemp dir : FileCall C F _) := fun _ => trivial
  have hcopy : ∀ source temp, onFiles (.copyInto source temp : FileCall C F _) :=
    fun _ _ => trivial
  have hpersist : ∀ temp dest, onFiles (.persist temp dest : FileCall C F _) :=
    fun _ _ => trivial
  -- Three calls, and each says what its success comes to.
  simp only [placeFile_fresh_eq_ok hparent, serve_onFiles (htemp _), serve_onFiles (hcopy _ _),
    serve_onFiles (hpersist _ _), createTemp_eq_ok, copyInto_eq_ok hcontent, persist_eq_ok]
  refine ⟨⟨?_, ?_⟩, ?_⟩
  · rintro ⟨⟨temp, htemp, hfree⟩, ⟨bytes, hcopy⟩, hpersist⟩
    exact ⟨_, _, temp, ⟨_, ⟨htemp, hfree, rfl⟩, rfl⟩, _, bytes, ⟨_, ⟨hcopy, rfl⟩, rfl⟩, _,
      ⟨hpersist, content, HashMap.get_insert_self _ _ _, rfl⟩, rfl⟩
  · rintro ⟨w', w₁, temp, ⟨files₁, ⟨htemp, hfree, -⟩, hw₁⟩, w₂, bytes, ⟨files₂, ⟨hcopy, -⟩, hw₂⟩,
      files₃, ⟨hpersist, -⟩, -⟩
    rw [hw₂, hw₁] at hpersist
    rw [hw₁] at hcopy
    exact ⟨⟨temp, htemp, hfree⟩, ⟨bytes, hcopy⟩, hpersist⟩
  · rintro w' ⟨w₁, temp, ⟨files₁, -, hw₁⟩, w₂, bytes, ⟨files₂, -, hw₂⟩, files₃, -, hw'⟩
    rw [hw', hw₂, hw₁]
    exact ⟨files₃, rfl⟩

/-- Making a package of its file changes nothing. -/
theorem serve_newPackage (path : Path) (packageFile : F) (w : World C B) :
    ((k w.calls).file.newPackage = none ∧ env.buildPackage path packageFile = .ok () ∧
        serve k env w (.inl (.newPackage path packageFile)) =
          ({ w with calls := w.calls + 1 }, .ok ⟨packageFile, path⟩)) ∨
      ((k w.calls).file.newPackage ≠ none ∨ env.buildPackage path packageFile ≠ .ok ()) ∧
        ∃ e, serve k env w (.inl (.newPackage path packageFile)) =
          ({ w with calls := w.calls + 1 }, .error e) := by
  have hserve : ∀ r, (k w.calls).file.serve env.toEnv w.files (.newPackage path packageFile) =
      (w.files, r) → serve k env w (.inl (.newPackage path packageFile)) =
        ({ w with calls := w.calls + 1 }, r) :=
    fun r hr => (serve_onFiles (by trivial)).mpr ⟨_, hr, rfl⟩
  cases hnew : (k w.calls).file.newPackage with
  | some e => exact Or.inr ⟨Or.inl (Option.some_ne_none e), e, hserve _ (by
      rw [FileKernel.serve, hnew])⟩
  | none =>
      cases hbuild : env.buildPackage path packageFile with
      | error e => exact Or.inr ⟨Or.inr (by simp only [ne_eq, reduceCtorEq, not_false_eq_true]),
          e, hserve _ (by rw [FileKernel.serve, hnew, hbuild]; rfl)⟩
      | ok _ => exact Or.inl ⟨rfl, rfl, hserve _ (by rw [FileKernel.serve, hnew, hbuild]; rfl)⟩

/-- Undoing an install that replaces nothing removes its file and purges its volume. -/
theorem eval_undoInstall_fresh (info : InstallInfo C F) (w : World C B) :
    ∃ files, ((undoInstall info false .fresh none).eval (fun s c => serve k env s (.inl c)) w).1 =
      (serve k env ⟨files, w.disk, w.volumes, w.calls + 1⟩
        (.inl (.purgeVolume info.packageName : FileCall C F _))).1 := by
  refine ⟨(removePackageFile env.toEnv (k w.calls).file w.files info.dest).1, ?_⟩
  have hremove : (transaction (removeFileIfExists info.dest)).eval (serve k env) w = _ :=
    eval_removeFileIfExists w info.dest
  rw [transaction, Prog.eval_lift] at hremove
  simp only [undoInstall, rollbackFileOps, Prog.bind_eq, Prog.pure_eq, Prog.context,
    Prog.eval_bind, Prog.eval_attempt, Prog.eval_mapError, hremove, Bool.false_or,
    decide_true, if_true, Prog.eval_ask, Prog.eval_done]
  cases (removePackageFile env.toEnv (k w.calls).file w.files info.dest).2 <;> rfl

/-- How an install that replaces nothing ends, once its file is in place. -/
inductive FreshEnd (env : DaemonEnv C F V) (k : Nat → CallKernel C) (w : World C B)
    (info : InstallInfo C F) : World C B × Except Error (Package F) → Prop
  | kept (w' : World C B) (r : Except Error (Package F)) (hno : ¬ PurgesMade env k w info)
      (hgrows : Grows w.disk w'.disk) : FreshEnd env k w info (w', r)
  | purged (w' : World C B) (e : Error) (h : PurgesMade env k w info)
      (hleft : ∀ rel b, w'.disk.nodeAt info.volumeMeta.dataDir rel = some (.file b) ↔
        (k (w.calls + 3)).disk.removeDirAll ≠ .ok () ∧
          (k (w.calls + 3)).disk.spares rel = true ∧
          w.disk.nodeAt info.volumeMeta.dataDir rel = some (.file b)) :
      FreshEnd env k w info (w', .error e)

theorem finishWith_fresh {info : InstallInfo C F}
    (hmeta : info.volumeMeta.packageName = info.packageName) (w : World C B) :
    FreshEnd env k w info
      ((transaction (finishWith info false .fresh none)).eval (serve k env) w) := by
  rw [transaction, Prog.eval_lift, finishWith]
  simp only [Prog.bind_eq, Prog.eval_bind, Prog.eval_onError, Prog.eval_try_]
  rcases serve_acquireVolume k env w info.volumeMeta with ⟨e, hask, hserve⟩ | ⟨hask, hserve⟩
  · -- The volume manager is not reached, and nothing has been made.
    rw [hserve]
    refine FreshEnd.kept _ _ (fun h => ?_) ?_
    · exact absurd (hask.symm.trans h.acquired) (by simp only [reduceCtorEq, not_false_eq_true])
    · have honly : ((restoreDataDir none info.volumeMeta.dataDir).bind fun _ =>
          rollbackFileOps .fresh info.dest : FileProg C F Unit).Only onFiles :=
        Prog.only_bind trivial fun _ => only_rollbackFileOps .fresh info.dest
      exact Grows.of_trees (congrArg Disk.trees (data_of_onFiles env k honly _).1)
  · rw [hserve]
    let acquired := w.volumes.acquireVolume (k w.calls).disk w.disk info.volumeMeta
    let w₁ : World C B := ⟨w.files, acquired.1, acquired.2, w.calls + 1⟩
    have hgrows : Grows w.disk w₁.disk := grows_acquireVolume _ _ _ _
    rcases serve_newPackage info.dest info.packageFile w₁ with
      ⟨hnew, hbuild, hserve'⟩ | ⟨hnot, e, hserve'⟩
    · dsimp only
      rw [hserve']
      exact FreshEnd.kept _ _ (fun h => h.notMade.elim (fun h => h hnew) fun h => h hbuild) hgrows
    · dsimp only
      rw [hserve']
      dsimp only
      rcases eval_undoInstall_fresh info ({ w₁ with calls := w₁.calls + 1 } : World C B) with
        ⟨files, hundo⟩
      rw [hundo]
      let w₂ : World C B := ⟨files, w₁.disk, w₁.volumes, w₁.calls + 1 + 1⟩
      have hget : acquired.2.volumes.get info.packageName =
          some ((w.volumes.dataDirectories.createDataDirectory (dataMetaOf info.volumeMeta)).2.eval
            (k w.calls).disk.serve w.disk).2.toOption := by
        rw [← hmeta]
        exact HashMap.get_insert_self _ _ _
      rcases serve_purgeVolume k env w₂ info.packageName with ⟨e', hask', hpurge⟩ | ⟨hask', hpurge⟩
      · rw [hpurge]
        refine FreshEnd.kept _ _ (fun h => ?_) hgrows
        exact absurd (hask'.symm.trans h.purged) (by simp only [reduceCtorEq, not_false_eq_true])
      · rw [hpurge]
        have hcases := purgeVolume_cases w₂.volumes (k w₂.calls).disk w₂.disk info.packageName
        generalize w₂.volumes.purgeVolume (k w₂.calls).disk w₂.disk info.packageName = purged
          at hcases ⊢
        cases hcases with
        | nothing hnone =>
            refine FreshEnd.kept _ _ (fun h => ?_) hgrows
            rcases h.created with ⟨dir, hdir⟩
            refine hnone dir ?_
            rw [hdir] at hget
            exact hget
        | removed dir hdir disk' r htrees hok =>
            have hcreated := Option.some.inj (hget.symm.trans hdir)
            generalize hrun : (w.volumes.dataDirectories.createDataDirectory
              (dataMetaOf info.volumeMeta)).2.eval (k w.calls).disk.serve w.disk = run at hcreated
            rcases run with ⟨disk₁, e' | dir'⟩
            · exact absurd hcreated (Option.some_ne_none dir).symm
            · have hpath : dir.path = info.volumeMeta.dataDir := by
                rw [← Option.some.inj hcreated]
                exact path_of_createDataDirectory (congrArg Prod.snd hrun)
              refine FreshEnd.purged _ _ ⟨hask, ⟨dir', congrArg Prod.snd hrun⟩, hnot, hask'⟩
                fun rel b => ?_
              rw [nodeAt_eq, htrees, hpath, update_self, left_eq_some, ← nodeAt_eq]
              exact and_congr_right fun _ => and_congr_right fun _ =>
                ⟨hgrows.adds _ _ _, hgrows.keeps _ _ _⟩

/-- An install that replaces nothing gets its file into place and goes on from there, or
    leaves the data as it was. -/
theorem freshInstall_cases {info : InstallInfo C F} {content : C}
    (hparent : info.dest.parent ≠ "") (hcontent : info.source.content = some content)
    (hmeta : info.volumeMeta.packageName = info.packageName) (w : World C B) :
    (¬ FilePlaced k w info ∧ ((transaction (executeInstallInner info false .fresh)).eval
        (serve k env) w).1.disk = w.disk) ∨
      FilePlaced k w info ∧ ∃ files, FreshEnd env k ⟨files, w.disk, w.volumes, w.calls + 3⟩ info
        ((transaction (executeInstallInner info false .fresh)).eval (serve k env) w) := by
  rw [executeInstallInner_eq, transaction_bind, finishInstall_eq,
    if_neg fun h => Bool.false_ne_true h.1]
  rcases filePlaced_iff hparent hcontent w with ⟨hplaced, hworld⟩
  -- Until the file is in place nothing is done about the data.
  have hdata : ((transaction (placeFile info .fresh)).eval (serve k env) w).1.disk = w.disk := by
    rw [transaction, Prog.eval_lift]
    exact (data_of_onFiles env k (only_placeFile info .fresh) w).1
  rw [Prog.eval_bind]
  generalize hplace : (transaction (placeFile info .fresh)).eval (serve k env) w = placed
    at hplaced hworld hdata ⊢
  rcases placed with ⟨w₁, e | u⟩
  · refine Or.inl ⟨fun h => ?_, hdata⟩
    rcases hplaced.mp h with ⟨w', hw'⟩
    exact absurd (congrArg Prod.snd hw') (by simp only [reduceCtorEq, not_false_eq_true])
  · rcases hworld w₁ rfl with ⟨files, hw₁⟩
    refine Or.inr ⟨hplaced.mpr ⟨w₁, rfl⟩, files, ?_⟩
    rw [← hw₁]
    exact finishWith_fresh hmeta w₁

/-- One that fails keeps the files in the data directory unless it purges them. -/
theorem fresh_keeps_iff {info : InstallInfo C F} {content : C} (hparent : info.dest.parent ≠ "")
    (hcontent : info.source.content = some content)
    (hmeta : info.volumeMeta.packageName = info.packageName) {w w' : World C B}
    {r : Except Error (Package F)}
    (hrun : (transaction (executeInstallInner info false .fresh)).eval (serve k env) w =
      (w', r)) :
    (∀ e, r = .error e → ∀ rel b, w.disk.nodeAt info.volumeMeta.dataDir rel = some (.file b) →
      w'.disk.nodeAt info.volumeMeta.dataDir rel = some (.file b)) ↔
    ¬ (FilePlaced k w info ∧ PurgesMade env k { w with calls := w.calls + 3 } info ∧
      ∃ rel b, w.disk.nodeAt info.volumeMeta.dataDir rel = some (.file b) ∧
        ((k (w.calls + 6)).disk.removeDirAll = .ok () ∨
          (k (w.calls + 6)).disk.spares rel = false)) := by
  rcases freshInstall_cases hparent hcontent hmeta w with ⟨hnot, hdisk⟩ | ⟨hplaced, files, hend⟩
  · rw [hrun] at hdisk
    refine ⟨fun _ h => hnot h.1, fun _ e _ rel b hnode => ?_⟩
    rw [hdisk, hnode]
  · rw [hrun] at hend
    cases hend with
    | kept _ _ hno hgrows =>
        exact ⟨fun _ h => hno ⟨h.2.1.acquired, h.2.1.created, h.2.1.notMade, h.2.1.purged⟩,
          fun _ _ _ rel b hnode => hgrows.keeps _ rel _ hnode⟩
    | purged _ e hpurges hleft =>
        -- The installation was undone, and the volume purged with it.
        have hmade : PurgesMade env k { w with calls := w.calls + 3 } info :=
          ⟨hpurges.acquired, hpurges.created, hpurges.notMade, hpurges.purged⟩
        constructor
        · rintro h ⟨-, -, rel, b, hnode, hlost⟩
          rcases (hleft rel b).mp (h e rfl rel b hnode) with ⟨hfails, hspares, -⟩
          rcases hlost with hok | hgone
          · exact hfails hok
          · exact Bool.false_ne_true (hgone.symm.trans hspares)
        · intro hno _ _ rel b hnode
          refine (hleft rel b).mpr ⟨fun hok => ?_, ?_, hnode⟩
          · exact hno ⟨hplaced, hmade, rel, b, hnode, Or.inl hok⟩
          · rw [← Bool.not_eq_false]
            exact fun hgone => hno ⟨hplaced, hmade, rel, b, hnode, Or.inr hgone⟩

/-- Nothing is put back where nothing was set aside. -/
theorem putsBack_of_fresh {info : InstallInfo C F}
    (hname : info.volumeMeta.packageName = info.packageName)
    (hdir : info.volumeMeta.dataDir = joinPath env.dataRoot info.packageName) (dataDir : String)
    (w : World C B) :
    Prog.wp (serve k env) (fun s c => PutsBack env k dataDir s c) (fun _ _ => True)
      (transaction (executeInstallInner info false .fresh)) w := by
  refine Prog.wp_of_only_calls
    (A := fun c => within env.dataRoot info.packageName (fun _ => False) c) _ ?_ ?_ w
  · intro β s c hc
    rcases c with c | c
    · cases c with
      | renameDir src dst => exact absurd hc.1 not_false
      | _ => trivial
    · trivial
  · rw [executeInstallInner_eq, finishInstall_eq, if_neg fun h => Bool.false_ne_true h.1]
    exact only_transaction (Prog.only_bind
      (Prog.only_mono within_of_onFiles (only_placeFile info .fresh)) fun _ =>
        only_finishWith rfl hname hdir fun _ h => absurd h.symm (Option.some_ne_none _))

end Fresh

section Upgrade

variable {dataDir : String} {disk : Disk B}

/-- What was in the directory is at the place where data is set aside. -/
def SetAside (dataDir : String) (disk : Disk B) (w : World C B) : Prop :=
  ∀ rel node, disk.nodeAt dataDir rel = some node →
    w.disk.nodeAt (dataDir ++ ".old") rel = some node

theorem SetAside.of_grows {w w' : World C B} (h : SetAside dataDir disk w)
    (hgrows : Grows w.disk w'.disk) : SetAside dataDir disk w' :=
  fun rel node hnode => hgrows.keeps _ rel node (h rel node hnode)

/-- What was set aside is back once the rename is carried out. -/
theorem keeps_of_restored {w : World C B} (haside : SetAside dataDir disk w)
    (hback : Prog.wp (fun s c => serve k env s (.inl c))
      (fun s c => PutsBack env k dataDir s (.inl c)) (fun _ _ => True)
      (restoreDataDir (some (dataDir ++ ".old")) dataDir : FileProg C F Unit) w) :
    Keeps dataDir disk ((restoreDataDir (some (dataDir ++ ".old")) dataDir).eval
      (fun s c => serve k env s (.inl c)) w).1 := by
  let w₁ := (serve k env w (.inl (.removeDirAll dataDir : FileCall C F _))).1
  have hcleared : SetAside dataDir disk w₁ := by
    intro rel node hnode
    have htrees : w₁.disk.trees =
        update w.disk.trees dataDir ((k w.calls).disk.left (w.disk.trees dataDir)) :=
      trees_removeTree _ _ _
    rw [nodeAt_congr ?_ rel]
    · exact haside rel node hnode
    · rw [htrees, update_of_ne (append_ne_self (by decide))]
  have hrenamed : (serve k env w₁ (.inl (.renameDir (dataDir ++ ".old") dataDir :
      FileCall C F _))).2 = .ok () := hback.2.1 rfl rfl
  intro rel node hnode
  show (moveDir w₁.disk (dataDir ++ ".old") dataDir (k w₁.calls).renameDir).1.nodeAt dataDir rel = _
  rw [nodeAt_moved hrenamed]
  exact hcleared rel node hnode

/-- A purge leaves alone what was set aside, since the volume of the package has no
    data directory but the one that was. -/
theorem SetAside.purgeVolume {w : World C B} (haside : SetAside dataDir disk w) {name : String}
    (hheld : ∀ dir, w.volumes.volumes.get name = some (some dir) → dir.path = dataDir) :
    SetAside dataDir disk (serve k env w (.inl (.purgeVolume name : FileCall C F _))).1 := by
  rcases serve_purgeVolume k env w name with ⟨e, -, hserve⟩ | ⟨-, hserve⟩
  · rw [hserve]
    exact haside
  · rw [hserve]
    have hcases := purgeVolume_cases w.volumes (k w.calls).disk w.disk name
    generalize w.volumes.purgeVolume (k w.calls).disk w.disk name = purged at hcases ⊢
    cases hcases with
    | nothing hnone => exact haside
    | removed dir hget disk' r htrees hok =>
        intro rel node hnode
        rw [nodeAt_congr ?_ rel]
        · exact haside rel node hnode
        · show disk'.trees _ = _
          rw [htrees, hheld dir hget, update_of_ne (append_ne_self (by decide))]

/-- Acquiring a volume takes no data away, and gives the package no directory but the
    one asked for. -/
theorem grows_acquire {volumeMeta : PackageVolumeMetadata} {w w' : World C B}
    {r : Except Error Unit}
    (h : serve k env w (.inl (.acquireVolume volumeMeta : FileCall C F _)) = (w', r)) :
    Grows w.disk w'.disk ∧ (r = .ok () → ∀ dir,
      w'.volumes.volumes.get volumeMeta.packageName = some (some dir) →
        dir.path = volumeMeta.dataDir) := by
  rcases serve_acquireVolume k env w volumeMeta with ⟨e, -, hserve⟩ | ⟨-, hserve⟩
  · have hend := Prod.mk.inj (hserve.symm.trans h)
    rw [← hend.1, ← hend.2]
    exact ⟨Grows.refl _, fun hr => absurd hr (by simp only [reduceCtorEq, not_false_eq_true])⟩
  · have hend := Prod.mk.inj (hserve.symm.trans h)
    rw [← hend.1]
    exact ⟨grows_acquireVolume _ _ _ _, fun _ dir => path_of_acquireVolume⟩

/-- Undoing an install puts back what was set aside. -/
theorem keeps_of_undoInstall {info : InstallInfo C F} {mode : InstallMode} {w : World C B}
    (haside : SetAside info.volumeMeta.dataDir disk w)
    (hheld : ∀ dir, w.volumes.volumes.get info.packageName = some (some dir) →
      dir.path = info.volumeMeta.dataDir)
    (hback : Prog.wp (fun s c => serve k env s (.inl c))
      (fun s c => PutsBack env k info.volumeMeta.dataDir s (.inl c)) (fun _ _ => True)
      (undoInstall info true mode (some (info.volumeMeta.dataDir ++ ".old"))) w) :
    Keeps info.volumeMeta.dataDir disk ((undoInstall info true mode
      (some (info.volumeMeta.dataDir ++ ".old"))).eval
        (fun s c => serve k env s (.inl c)) w).1 := by
  rw [undoInstall, Prog.bind_eq] at hback ⊢
  have hback₁ := Prog.wp_second _ hback (Prog.eval_attempt _ _ _)
  have hback₂ := Prog.wp_second _ hback₁ (Prog.eval_ask _ _ _)
  rcases data_of_onFiles env k (only_rollbackFileOps mode info.dest) w with
    ⟨hdisk, hvolumes⟩
  -- The rollback is about package files, so the data stay aside.
  have haside₁ : SetAside info.volumeMeta.dataDir disk
      ((rollbackFileOps mode info.dest).eval (fun s c => serve k env s (.inl c)) w).1 :=
    haside.of_grows (Grows.of_trees (congrArg Disk.trees hdisk))
  rw [Prog.eval_bind, Prog.eval_attempt]
  refine keeps_of_restored (haside₁.purgeVolume ?_) hback₂
  rw [hvolumes]
  exact hheld

/-- Once data was set aside, an install that fails puts it back. -/
theorem keeps_of_finishWith {info : InstallInfo C F} {mode : InstallMode} {w w' : World C B}
    {e : Error} (hmeta : info.volumeMeta.packageName = info.packageName)
    (haside : SetAside info.volumeMeta.dataDir disk w)
    (hback : Prog.wp (fun s c => serve k env s (.inl c))
      (fun s c => PutsBack env k info.volumeMeta.dataDir s (.inl c)) (fun _ _ => True)
      (finishWith info true mode (some (info.volumeMeta.dataDir ++ ".old"))) w)
    (hrun : (finishWith info true mode (some (info.volumeMeta.dataDir ++ ".old"))).eval
      (fun s c => serve k env s (.inl c)) w = (w', .error e)) :
    Keeps info.volumeMeta.dataDir disk w' := by
  rw [finishWith, Prog.bind_eq] at hback hrun
  rcases (Prog.eval_bind_eq_error _).mp hrun with hacquire | ⟨w₁, u, hacquire, hrest⟩
  · -- What was set aside is put back, and then the file.
    rcases (Prog.eval_onError_eq_error _).mp hacquire with ⟨w₁, hask, hclean⟩
    have hback₁ := Prog.wp_cleanup _ (Prog.wp_first _ hback) hask
    have hrestored := keeps_of_restored (haside.of_grows (grows_acquire hask).1)
      (Prog.wp_first _ hback₁)
    intro rel node hnode
    rw [← hclean, ← hrestored rel node hnode]
    exact congrArg (fun disk : Disk B => disk.nodeAt info.volumeMeta.dataDir rel)
      (data_of_onFiles env k (only_rollbackFileOps mode info.dest) _).1
  · have hback₁ := Prog.wp_second _ hback hacquire
    rw [Prog.eval_onError_eq_ok] at hacquire
    rcases (Prog.eval_bind_eq_error _).mp hrest with hnew | ⟨w₂, package, hnew, hdrop⟩
    · rcases (Prog.eval_onError_eq_error _).mp hnew with ⟨w₂, hnew, hundo⟩
      have hback₂ := Prog.wp_cleanup _ (Prog.wp_first _ hback₁) hnew
      rcases grows_acquire hacquire with ⟨hgrows, hheld⟩
      rcases data_of_leavesData k env w₁ (c := .inl (.newPackage info.dest info.packageFile))
        trivial with ⟨hdisk₂, hvolumes₂⟩
      have hw₂ : (serve k env w₁ (.inl (.newPackage info.dest info.packageFile))).1 = w₂ :=
        congrArg Prod.fst hnew
      rw [hw₂] at hdisk₂ hvolumes₂
      rw [← hundo]
      refine keeps_of_undoInstall ?_ ?_ hback₂
      · exact haside.of_grows (hgrows.trans (Grows.of_trees (congrArg Disk.trees hdisk₂)))
      · intro dir hget
        refine hheld rfl dir ?_
        rw [hmeta, ← hvolumes₂]
        exact hget
    · -- After the package is made nothing fails.
      cases mode <;> exact absurd (congrArg Prod.snd hdrop) (by simp [dropBackups])

/-- How setting data aside ends. -/
inductive BackedUp (dataDir : String) (disk : Disk B) (w : World C B) :
    Except Error (Option String) → Prop
  | aside (haside : SetAside dataDir disk w) :
      BackedUp dataDir disk w (.ok (some (dataDir ++ ".old")))
  | absent (hnone : ∀ rel node, disk.nodeAt dataDir rel ≠ some node) :
      BackedUp dataDir disk w (.ok none)
  | failed (e : Error) (hkeeps : Keeps dataDir disk w) : BackedUp dataDir disk w (.error e)

/-- The backup's path, where there is one. -/
def backedUp (old : String) : Except IoError Unit → Except Error (Option String)
  | .ok () => .ok (some old)
  | .error .notFound => .ok none
  | .error (.other e) => .error ("Failed to back up data directory for rollback" :: e)

/-- What is made of the rename's result does not touch the world. -/
theorem eval_backedUp (old : String) (r : Except IoError Unit) (w : World C B) :
    ((match r with
      | .ok () => pure (some old)
      | .error .notFound => pure none
      | .error (.other e) => Prog.fail ("Failed to back up data directory for rollback" :: e) :
        FileProg C F _).eval (fun s c => serve k env s (.inl c)) w) = (w, backedUp old r) := by
  rcases r with (_ | e) | _ <;> rfl

theorem backupDataDir_cases {w w' : World C B} {r : Except Error (Option String)}
    (hkeeps : Keeps dataDir disk w)
    (h : (backupDataDir dataDir : FileProg C F _).eval (fun s c => serve k env s (.inl c)) w =
      (w', r)) : BackedUp dataDir disk w' r := by
  let old := dataDir ++ ".old"
  let w₁ := (serve k env w (.inl (.removeDirAll old : FileCall C F _))).1
  -- Removing an older backup leaves the data where they are.
  have hcleared : ∀ rel, w₁.disk.nodeAt dataDir rel = w.disk.nodeAt dataDir rel := by
    have htrees : w₁.disk.trees =
        update w.disk.trees old ((k w.calls).disk.left (w.disk.trees old)) :=
      trees_removeTree _ _ _
    refine nodeAt_congr ?_
    rw [htrees, update_of_ne (append_ne_self (by decide)).symm]
  -- The data directory is renamed, and it may be absent.
  let moved := moveDir w₁.disk dataDir old (k w₁.calls).renameDir
  let w₂ : World C B := ⟨w₁.files, moved.1, w₁.volumes, w₁.calls + 1⟩
  have hrun : (backupDataDir dataDir : FileProg C F _).eval
      (fun s c => serve k env s (.inl c)) w = (w₂, backedUp old moved.2) :=
    eval_backedUp old moved.2 w₂
  rw [← (Prod.mk.inj (hrun.symm.trans h)).1, ← (Prod.mk.inj (hrun.symm.trans h)).2]
  rcases hmoved : moved.2 with (_ | e) | _
  · refine BackedUp.absent fun rel node hnode => ?_
    have hnone : w₁.disk dataDir = none := (moveDir_error hmoved).2 rfl
    have hthere := (hcleared rel).trans (hkeeps rel node hnode)
    rw [Disk.nodeAt, hnone] at hthere
    exact absurd hthere.symm (Option.some_ne_none node)
  · refine BackedUp.failed _ fun rel node hnode => ?_
    show moved.1.nodeAt dataDir rel = some node
    rw [(moveDir_error hmoved).1, hcleared, hkeeps rel node hnode]
  · refine BackedUp.aside fun rel node hnode => ?_
    show moved.1.nodeAt old rel = some node
    rw [nodeAt_moved hmoved, hcleared, hkeeps rel node hnode]

/-- An install that leaves the data where it is adds to it at most. -/
theorem only_finishWith_kept {info : InstallInfo C F} {mode : InstallMode} (hmode : mode ≠ .fresh)
    (hmeta : info.volumeMeta.packageName = info.packageName)
    (hdir : info.volumeMeta.dataDir = joinPath env.dataRoot info.packageName) :
    (transaction (finishWith info false mode none)).Only (addsData env.dataRoot) := by
  have hfiles : ∀ {β : Type} (c : FileCall C F β), onFiles c → addsData env.dataRoot (.inl c) :=
    fun c hc => addsData_of_leavesData (.inl c) hc
  -- Without old data set aside nothing is restored or purged.
  have hrollback := Prog.only_mono hfiles (only_rollbackFileOps mode info.dest)
  have hacquire : addsData env.dataRoot (.inl (.acquireVolume info.volumeMeta) : Call C F _) := by
    show info.volumeMeta.dataDir = joinPath env.dataRoot info.volumeMeta.packageName
    rw [hdir, hmeta]
  refine only_transaction ?_
  refine Prog.only_bind (Prog.only_onError (Prog.only_try_ hacquire)
    (Prog.only_bind trivial fun _ => hrollback)) fun _ => ?_
  refine Prog.only_bind (Prog.only_onError (Prog.only_try_ trivial) ?_) fun package => ?_
  · refine Prog.only_bind (Prog.only_attempt hrollback) fun _ => ?_
    rw [decide_eq_false hmode]
    trivial
  · refine Prog.only_bind ?_ fun _ => trivial
    cases mode with
    | upgradeDownloaded installedPath =>
        exact Prog.only_bind (Prog.only_bind (Prog.only_ask trivial) fun _ => trivial)
          fun _ => trivial
    | _ => trivial

/-- An upgrade that fails once its file is in place keeps the data. -/
theorem keeps_of_finishInstall {info : InstallInfo C F} {removeData : Bool} {mode : InstallMode}
    {w w' : World C B} {e : Error} (hmode : mode ≠ .fresh)
    (hmeta : info.volumeMeta.packageName = info.packageName)
    (hdir : info.volumeMeta.dataDir = joinPath env.dataRoot info.packageName)
    (hkeeps : Keeps info.volumeMeta.dataDir disk w)
    (hback : Prog.wp (fun s c => serve k env s (.inl c))
      (fun s c => PutsBack env k info.volumeMeta.dataDir s (.inl c)) (fun _ _ => True)
      (finishInstall info removeData mode) w)
    (hrun : (finishInstall info removeData mode).eval (fun s c => serve k env s (.inl c)) w =
      (w', .error e)) :
    Keeps info.volumeMeta.dataDir disk w' := by
  rw [finishInstall_eq] at hback hrun
  cases removeData with
  | false =>
      rw [if_neg fun h => Bool.false_ne_true h.1] at hrun
      have hgrows := grows_of_only (k := k) (only_finishWith_kept hmode hmeta hdir) w
      rw [transaction, Prog.eval_lift, hrun] at hgrows
      exact hkeeps.of_grows hgrows
  | true =>
      rw [if_pos ⟨rfl, hmode⟩] at hback hrun
      rcases (Prog.eval_bind_eq_error _).mp hrun with hbackup | ⟨w₁, backup, hbackup, hrest⟩
      · -- The data could not be set aside, and is where it was.
        rcases (Prog.eval_onError_eq_error _).mp hbackup with ⟨w₁, hbackup, hrollback⟩
        have hend := backupDataDir_cases hkeeps hbackup
        cases hend with
        | failed _ hkeeps₁ =>
            intro rel node hnode
            rw [← hrollback, (data_of_onFiles env k (only_rollbackFileOps mode info.dest) w₁).1]
            exact hkeeps₁ rel node hnode
      · have hback₁ := Prog.wp_second _ hback hbackup
        rw [Prog.eval_onError_eq_ok] at hbackup
        have hend := backupDataDir_cases hkeeps hbackup
        cases hend with
        | aside haside => exact keeps_of_finishWith hmeta haside hback₁ hrest
        | absent hnone => exact fun rel node hnode => absurd hnode (hnone rel node)

/-- So does an upgrade that fails before. -/
theorem keeps_of_upgrade {info : InstallInfo C F} {removeData : Bool} {existing : Package F}
    {w w' : World C B} {r : Except Error (Except Error (Package F))}
    (hmeta : info.volumeMeta.packageName = info.packageName)
    (hdir : info.volumeMeta.dataDir = joinPath env.dataRoot info.packageName)
    (hback : Prog.wp (serve k env) (fun s c => PutsBack env k info.volumeMeta.dataDir s c)
      (fun _ _ => True) (upgrade env.toEnv info removeData existing) w)
    (hrun : (upgrade env.toEnv info removeData existing).eval (serve k env) w = (w', r))
    (hfailed : ∀ built, r ≠ .ok (.ok built)) :
    Keeps info.volumeMeta.dataDir w.disk w' := by
  have hsame : ∀ w' : World C B, w'.disk = w.disk → Keeps info.volumeMeta.dataDir w.disk w' := by
    intro w' hdisk rel node hnode
    rw [hdisk, hnode]
  let prepare : DaemonProg C F Unit := (Prog.try_ (.inr (.prepareUpgrade existing))).context
    s!"Cannot prepare upgrade for package({info.packageName})"
  -- The teardown does not touch the disk.
  have hprepared : ∀ {w₁ : World C B} {r : Except Error Unit},
      prepare.eval (serve k env) w = (w₁, r) → w₁.disk = w.disk := by
    intro w₁ r h
    have hw : (prepare.eval (serve k env) w).1 = w₁ := congrArg Prod.fst h
    rw [← hw]
    simp only [prepare, Prog.context, Prog.eval_mapError, Prog.eval_try_]
    rfl
  rw [upgrade, Prog.bind_eq] at hback hrun
  rcases r with e | e | built
  · rcases (Prog.eval_bind_eq_error _).mp hrun with hprepare | ⟨w₁, u, -, hinstall⟩
    · exact hsame w' (hprepared hprepare)
    · rw [Prog.eval_attempt] at hinstall
      exact absurd (congrArg Prod.snd hinstall) (by simp only [reduceCtorEq, not_false_eq_true])
  · rcases (Prog.eval_bind_eq_ok _).mp hrun with ⟨w₁, u, hprepare, hinstall⟩
    have hback₁ := Prog.wp_second _ hback hprepare
    rw [Prog.eval_attempt, Prod.mk.injEq, Except.ok.injEq] at hinstall
    have hinstalled : (transaction (executeInstallInner info removeData
        (installMode env.toEnv (some existing)))).eval (serve k env) w₁ = (w', .error e) :=
      Prod.ext hinstall.1 hinstall.2
    rw [Prog.wp_attempt, executeInstallInner_eq, transaction, Prog.wp_lift] at hback₁
    rw [executeInstallInner_eq, transaction, Prog.eval_lift] at hinstalled
    -- Nor does placing the file.
    have hdata := (data_of_onFiles env k
      (only_placeFile info (installMode env.toEnv (some existing))) w₁).1
    rcases (Prog.eval_bind_eq_error _).mp hinstalled with hplace | ⟨w₂, u', hplace, hfinish⟩
    · rw [hplace] at hdata
      exact hsame w' (hdata.trans (hprepared hprepare))
    · rw [hplace] at hdata
      have hback₂ := Prog.wp_second _ hback₁ hplace
      exact keeps_of_finishInstall (installMode_ne_fresh existing) hmeta hdir
        (hsame w₂ (hdata.trans (hprepared hprepare))) hback₂ hfinish
  · exact absurd rfl (hfailed built)

end Upgrade

section Install

variable [LE V] [DecidableLE V] [ToString V]

/-- An upgrade that fails keeps the data. -/
theorem preserved_of_upgrade {w : World C B} {store : PackageStore F} {msg : InstallPackage C}
    {info : InstallInfo C F} {existing : Package F}
    (hplan : planInstall env.toEnv store msg = .ok (info, some existing)) :
    DataPreserved env k w store msg := by
  rcases planInstall_eq_ok hplan with ⟨content, hplanned⟩
  rcases volumeMetadata_eq_ok env hplanned.volume with ⟨hmeta, hdir, -⟩
  rw [← hplanned.name] at hmeta hdir
  rw [DataPreserved, packageNameOf_planned hplanned, ← hdir, handleInstallPackage, hplan]
  dsimp only
  intro store' e w' hrun hback rel b
  have hback₁ := Prog.wp_first _ hback
  rw [Prog.wp_attempt] at hback₁
  generalize hup : (upgrade env.toEnv info msg.removeData existing).eval (serve k env) w = up
  rcases up with ⟨w₁, r⟩
  have hkeeps := keeps_of_upgrade hmeta hdir hback₁ hup
  rw [Prog.bind_eq, Prog.eval_bind, Prog.eval_attempt, hup] at hrun
  dsimp only at hrun
  rcases r with e' | e' | built
  · have hw : w₁ = w' := congrArg Prod.fst hrun
    rw [← hw]
    exact hkeeps (fun built => by simp only [ne_eq, reduceCtorEq, not_false_eq_true]) rel _
  · -- The package is made again, which takes nothing away.
    intro hnode
    dsimp only at hrun
    rcases (Prog.eval_bind_eq_ok _).mp hrun with ⟨w₂, recovered, hrecover, hend⟩
    have hgrows := grows_of_only (k := k) (only_tryRecover env
      (store.removeBroken info.dest.fileName) info.packageName existing.path) w₁
    have hw : w₂ = w' := congrArg Prod.fst hend
    rw [hrecover, hw] at hgrows
    refine hgrows.keeps _ _ _ (hkeeps (fun built => ?_) rel _ hnode)
    simp only [ne_eq, Except.ok.injEq, reduceCtorEq, not_false_eq_true]
  · exact absurd (congrArg Prod.snd hrun) (by
      simp only [Prog.pure_eq, Prog.eval_done, Except.ok.injEq, Prod.mk.injEq, reduceCtorEq,
        and_false, not_false_eq_true])

/-- An install that replaces nothing keeps the data exactly if it does not purge what an
    earlier package of the name has left. -/
theorem preserved_of_fresh {w : World C B} {store : PackageStore F} {msg : InstallPackage C}
    {info : InstallInfo C F} (hplan : planInstall env.toEnv store msg = .ok (info, none)) :
    DataPreserved env k w store msg ↔ ¬ PurgesOldData env k w store msg info := by
  rcases planInstall_eq_ok hplan with ⟨content, hplanned⟩
  rcases volumeMetadata_eq_ok env hplanned.volume with ⟨hmeta, hdir, -⟩
  rw [← hplanned.name] at hmeta hdir
  have hparent : info.dest.parent ≠ "" := by
    rw [hplanned.dest]
    exact env.nonempty
  have hcontent : info.source.content = some content := by rw [hplanned.source, hplanned.readable]
  rw [DataPreserved, packageNameOf_planned hplanned, ← hdir, handleInstallPackage, hplan]
  -- A fresh install sets nothing aside, so there is nothing to be put back.
  have hback := putsBack_of_fresh (k := k) hmeta hdir info.volumeMeta.dataDir w
  generalize hrun : (transaction (executeInstallInner info false .fresh)).eval (serve k env) w = run
  rcases run with ⟨w₁, r⟩
  refine Iff.trans ?_ ((fresh_keeps_iff hparent hcontent hmeta hrun).trans (not_congr ?_))
  · dsimp only
    rw [Prog.bind_eq, Prog.eval_bind, Prog.eval_attempt, hrun]
    constructor
    · intro h e hr rel b hnode
      rw [hr] at h
      refine h _ _ w₁ rfl ?_ rel b hnode
      rw [Prog.wp_bind, Prog.wp_attempt]
      refine Prog.wp_mono _ (fun _ _ hc => hc) (fun r _ _ => ?_) hback
      cases r <;> trivial
    · intro h store' e w' hend _ rel b hnode
      rcases r with e' | built
      · have hw : w₁ = w' := congrArg Prod.fst hend
        rw [← hw]
        exact h e' rfl rel b hnode
      · exact absurd (congrArg Prod.snd hend) (by
          simp only [Prog.pure_eq, Prog.eval_done, Except.ok.injEq, Prod.mk.injEq, reduceCtorEq,
            and_false, not_false_eq_true])
  · rw [hdir]
    exact ⟨fun h => ⟨hplan, h.1, h.2.1, h.2.2⟩, fun h => ⟨h.placed, h.purges, h.lost⟩⟩

variable (env k) in
/-- An install that fails keeps the data of its package, whatever its mode, exactly if it
    does not purge the data an earlier package of the name has left. -/
theorem data_preserved_iff (w : World C B) (store : PackageStore F) (msg : InstallPackage C) :
    DataPreserved env k w store msg ↔ ¬ ∃ info, PurgesOldData env k w store msg info := by
  cases hplan : planInstall env.toEnv store msg with
  | error e =>
      refine ⟨fun _ ⟨info, h⟩ => ?_, fun _ store' e' w' hrun _ rel b hnode => ?_⟩
      · exact absurd (hplan.symm.trans h.plan) (by simp only [reduceCtorEq, not_false_eq_true])
      · rw [handleInstallPackage, hplan] at hrun
        have hw : w = w' := congrArg Prod.fst hrun
        rw [← hw]
        exact hnode
  | ok plan =>
      rcases plan with ⟨info, origPkg⟩
      cases origPkg with
      | none =>
          rw [preserved_of_fresh hplan]
          refine not_congr ⟨fun h => ⟨info, h⟩, fun ⟨info', h⟩ => ?_⟩
          have hinfo : info = info' :=
            congrArg Prod.fst (Except.ok.inj (hplan.symm.trans h.plan))
          rw [hinfo]
          exact h
      | some existing =>
          refine ⟨fun _ ⟨info', h⟩ => ?_, fun _ => preserved_of_upgrade hplan⟩
          have horig : some existing = none :=
            congrArg Prod.snd (Except.ok.inj (hplan.symm.trans h.plan))
          exact absurd horig (Option.some_ne_none existing)

/-- The data of a package `a` that was removed before is lost when a later install of `a`
    fails. -/
theorem removed_data_lost :
    ¬ DataPreserved (plainDaemon fun _ => .error ["no image"]) (fun _ => .fine ("", 0))
      ⟨∅, diskWith "/data/a", ⟨⟨false, ∅⟩, ∅⟩, 0⟩ .empty (installFrom ("a", 1)) := by
  have hplan : planInstall (plainDaemon fun _ => .error ["no image"]).toEnv .empty
      (installFrom ("a", 1)) = .ok (⟨"a", ("a", 1), (installFrom ("a", 1)).source,
        ⟨"/d", "a.ssam"⟩, ⟨"a", "/data/a", none, none⟩⟩, none) := rfl
  rw [preserved_of_fresh hplan, not_not]
  exact {
    plan := rfl
    placed := ⟨⟨_, rfl, rfl⟩, ⟨0, rfl⟩, rfl⟩
    purges := ⟨rfl, ⟨_, rfl⟩, Or.inr (by decide), rfl⟩
    lost := ⟨"f", 7, rfl, Or.inl rfl⟩ }

end Install

end Daemon

end Ssam
