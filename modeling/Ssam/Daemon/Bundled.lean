import Ssam.Daemon.Links

/-!
# Bundled Files

What becomes of the package files that come with the system.

No name of the bundled directory is ever deleted, renamed or overwritten. With links that
is not all there is to a bundled file. A bundled package that cannot be made is recorded
under the path its link leads to, so it is not seen to be a bundled one when it is removed,
and the regular file behind the link is deleted. A link into the downloaded directory
leaves the file behind it to whatever is done to the downloaded package there.

## Main definitions

* `Guarded`: The path is that of a bundled file, or of the file it leads to.
* `Untouched`: No call of an action changes a guarded file.
* `removedPath`, `replacedPaths`: The files a message is about.
* `SparesReal`: They are not files that bundled links lead to.

## Theorems

* `safe_copyToPkgDir`: A copy changes no guarded file.
* `safe_executeInstallInner`: Nor does an install of others.
* `bundled_names_untouched`: Nor does any action change a name of the bundled directory.
* `untouched_of_spares`: An action that spares the real files changes no guarded one.
* `bundled_untouched`: Neither does a run.
* `real_file_deleted`: Removing a broken bundled package deletes the file behind its link.
-/

namespace Ssam

namespace Daemon

namespace Links

open Lib Manager Volume Function

variable {C F V B : Type}

/-- The path is that of a bundled file that was found, or of the one it led to. -/
def Guarded (found : List (Path × Path)) (p : Path) : Prop :=
  ∃ file ∈ found, p = file.1 ∨ p = file.2

/-- The call changes no guarded file. -/
def LeavesGuarded (k : Nat → CallKernel C) (env : DaemonEnv (Entry C) F V)
    (found : List (Path × Path)) (w : World (Entry C) B) {β : Type}
    (c : Call (Entry C) F β) : Prop :=
  ∀ p, Guarded found p → p ∈ touched c → ¬ CarriedOut c (serve k env w c).2

/-- The path of the file a removal of the package would delete. -/
def removedPath (env : DaemonEnv (Entry C) F V) (store : PackageStore F) (name : String) :
    Option Path :=
  let path := match store.get name with
    | some package => some package.path
    | none => (store.getBroken name).map BrokenPackageInfo.packagePath
  path.filter fun path => !isBundledPackage env.toEnv path

/-- The paths an install writes to, or sets a file aside from or to. -/
def replacedPaths (info : InstallInfo (Entry C) F) : InstallMode → List Path
  | .upgradeDownloaded installedPath => [info.dest, installedPath, backupPathOf installedPath]
  | .upgradeBundled | .fresh => [info.dest]

section Property

variable [LE V] [DecidableLE V] [ToString V] (env : DaemonEnv (Entry C) F V)

/-- No call of the action deletes, renames or overwrites a bundled file that was found
    at a start, or the regular file it led to. -/
def Untouched (d : LinkedState C F B) (e : DaemonEvent C) : Prop :=
  ∀ w program, begin env d e.action = some (w, program) →
    Prog.wp (serve e.kernel env)
      (fun s c => LeavesGuarded e.kernel env (foundAfter env d e.action) s c)
      (fun _ _ => True) program w

/-- The file a removal is about to delete, and those an install is about to replace or to
    set aside, are not the regular files that bundled ones lead to. -/
def SparesReal (d : LinkedState C F B) (e : DaemonEvent C) : Prop :=
  match e.action with
  | .start _ _ _ _ => True
  | .install msg => ∀ store info origPkg, d.store = some store →
      planInstall env.toEnv store (linkedMessage msg) = .ok (info, origPkg) →
      (origPkg = none ∨ (e.kernel d.world.calls).package = .ok ()) →
      ∀ p ∈ replacedPaths info (installMode env.toEnv origPkg), ∀ file ∈ d.found, p ≠ file.2
  | .remove msg => ∀ store p, d.store = some store →
      (store.get msg.packageName = none ∨ (e.kernel d.world.calls).package = .ok ()) →
      removedPath env store msg.packageName = some p → ∀ file ∈ d.found, p ≠ file.2

/-- The bundled files that were found are names of the bundled directory, and they and
    the files they led to are there. -/
def Found (d : LinkedState C F B) : Prop :=
  ∀ file ∈ d.found, file.1.parent = env.bundledDir ∧ d.world.files.get file.1 ≠ none ∧
    d.world.files.get file.2 ≠ none

end Property

variable {env : DaemonEnv (Entry C) F V} {k : Nat → CallKernel C} {found : List (Path × Path)}

/-- Every guarded file is there. -/
def Present (found : List (Path × Path)) (w : World (Entry C) B) : Prop :=
  ∀ p, Guarded found p → w.files.get p ≠ none

/-- The call meets every guarded file, and changes none. -/
def KeepsGuarded (k : Nat → CallKernel C) (env : DaemonEnv (Entry C) F V)
    (found : List (Path × Path)) (w : World (Entry C) B) {β : Type}
    (c : Call (Entry C) F β) : Prop :=
  LeavesGuarded k env found w c ∧ Present found w

/-- The call is about no guarded file. -/
def Harmless (found : List (Path × Path)) {β : Type} (c : Call (Entry C) F β) : Prop :=
  ∀ p ∈ touched c, ¬ Guarded found p

/-- A call that is about no guarded file leaves them all. -/
theorem harmless_leaves {w : World (Entry C) B} {β : Type} {c : Call (Entry C) F β}
    (h : Harmless found c) (hw : Present found w) :
    KeepsGuarded k env found w c ∧ Present found (serve k env w c).1 := by
  refine ⟨⟨fun p hp htouched => absurd hp (h p htouched), hw⟩, fun p hp => ?_⟩
  rw [get_of_not_touched k env w (hw p hp) fun htouched => h p htouched hp]
  exact hw p hp

theorem safe_of_harmless {α : Type} {program : DaemonProg (Entry C) F α}
    (h : program.Only fun c => Harmless found c) :
    Prog.Safe (σ := World (Entry C) B) (serve k env) (fun s c => KeepsGuarded k env found s c)
      (Present found) program :=
  Prog.safe_of_only _ (fun _ _ hc hs => harmless_leaves hc hs) h

section Transaction

variable {info : InstallInfo (Entry C) F} {mode : InstallMode}

/-- A call of the transaction that is about no file, or about those an install replaces. -/
theorem harmless_of_subset {β : Type} {c : FileCall (Entry C) F β} {paths : List Path}
    (hspares : ∀ p ∈ paths, ¬ Guarded found p)
    (h : ∀ p ∈ touched (.inl c : Call (Entry C) F β), p ∈ paths) :
    Harmless found (.inl c : Call (Entry C) F β) :=
  fun p hp => hspares p (h p hp)

variable (hspares : ∀ p ∈ replacedPaths info mode, ¬ Guarded found p)

include hspares

theorem harmless_dest : ¬ Guarded found info.dest := by
  refine hspares info.dest ?_
  cases mode <;> exact List.mem_cons_self

theorem harmless_rollbackFileOps :
    (rollbackFileOps mode info.dest : FileProg (Entry C) F Unit).Only
      fun c => Harmless found (.inl c : Call (Entry C) F _) := by
  have hremove : (removeFileIfExists info.dest : FileProg (Entry C) F Bool).Only
      fun c => Harmless found (.inl c : Call (Entry C) F _) := by
    refine Prog.only_bind (Prog.only_ask ?_) fun r => ?_
    · intro p hp
      rw [List.mem_singleton.mp hp]
      exact harmless_dest hspares
    · rcases r with (_ | e) | _ <;> trivial
  cases mode with
  | upgradeDownloaded installedPath =>
      refine Prog.only_context (Prog.only_try_ (harmless_of_subset hspares fun p hp => ?_))
      have hp' : p ∈ [backupPathOf installedPath, installedPath] := hp
      simp only [List.mem_cons, List.not_mem_nil, or_false] at hp'
      simp only [replacedPaths, List.mem_cons, List.not_mem_nil, or_false]
      exact Or.inr hp'.symm
  | upgradeBundled => exact Prog.only_bind (Prog.only_context hremove) fun _ => trivial
  | fresh => exact Prog.only_bind (Prog.only_context hremove) fun _ => trivial

omit hspares in
theorem safe_of_files {α : Type} {program : FileProg (Entry C) F α}
    (h : program.Only fun c => Harmless found (.inl c : Call (Entry C) F _)) :
    Prog.Safe (σ := World (Entry C) B) (fun s c => serve k env s (.inl c))
      (fun s c => KeepsGuarded k env found s (.inl c)) (Present found) program :=
  Prog.safe_of_only (A := fun c => Harmless found (.inl c : Call (Entry C) F _)) _
    (fun _ _ hc hs => harmless_leaves hc hs) h

omit hspares in
/-- A copy changes no guarded file, since its temporary file is a new one. -/
theorem safe_copyToPkgDir {source : Source (Entry C)} {dest : Path}
    (hdest : ¬ Guarded found dest) :
    Prog.Safe (σ := World (Entry C) B) (fun s c => serve k env s (.inl c))
      (fun s c => KeepsGuarded k env found s (.inl c)) (Present found)
      (copyToPkgDir source dest : FileProg (Entry C) F Nat) := by
  refine Prog.safe_context _ ?_
  unfold copy
  split
  · exact Prog.safe_done _ _
  · intro s hs
    -- The temporary file is a new one, for its name was free.
    have hcreate : Harmless found (.inl (.createTemp dest.parent) : Call (Entry C) F _) :=
      fun p hp => absurd hp List.not_mem_nil
    have hkept : KeepsGuarded k env found s (.inl (.createTemp dest.parent) : Call (Entry C) F _) ∧
        Present found (serve k env s (.inl (.createTemp dest.parent) : Call (Entry C) F _)).1 :=
      harmless_leaves hcreate hs
    rcases hkept with ⟨hleaves, hs'⟩
    rw [Prog.bind_eq, Prog.wp_bind, Prog.wp_mapError, Prog.wp_try_]
    refine ⟨hleaves, ?_⟩
    generalize hcreated : serve k env s (.inl (.createTemp dest.parent)) = created at hs' ⊢
    rcases created with ⟨s', e | temp⟩
    · exact hs'
    · have hanswer : Daemon.serve (fun n => linkedKernel (k n)) env s
          (.inl (.createTemp dest.parent)) = (s', .ok temp) := hcreated
      rcases (serve_onFiles (by trivial)).mp hanswer with ⟨files, hfiles, -⟩
      rcases createTemp_eq_ok.mp hfiles with ⟨-, hfree, -⟩
      let path : Path := ⟨dest.parent, temp.fileName⟩
      have htemp : ¬ Guarded found path := fun h => hs _ h hfree
      -- What comes after touches that file and the destination, and neither is guarded.
      have hcopy : Harmless found (.inl (.copyInto source path) : Call (Entry C) F _) := by
        intro p hp
        rw [List.mem_singleton.mp hp]
        exact htemp
      have hdrop : Harmless found (.inl (.dropTemp path) : Call (Entry C) F _) := hcopy
      have hpersist : Harmless found (.inl (.persist path dest) : Call (Entry C) F _) := by
        intro p hp
        rcases List.mem_cons.mp hp with rfl | hp
        · exact htemp
        · rw [List.mem_singleton.mp hp]
          exact hdest
      refine safe_of_files ?_ s' hs'
      refine Prog.only_bind (Prog.only_onError (Prog.only_mapError (Prog.only_try_ hcopy))
        (Prog.only_ask hdrop)) fun bytes => ?_
      exact Prog.only_bind (Prog.only_onError (Prog.only_mapError (Prog.only_try_ hpersist))
        (Prog.only_ask hdrop)) fun _ => trivial

omit hspares in
/-- A call that is about no file. -/
theorem harmless_of_none {β : Type} {c : FileCall (Entry C) F β}
    (h : touched (.inl c : Call (Entry C) F β) = []) :
    Harmless found (.inl c : Call (Entry C) F β) := by
  intro p hp
  rw [h] at hp
  exact absurd hp List.not_mem_nil

omit hspares in
theorem harmless_restoreDataDir (backup : Option String) (dataDir : String) :
    (restoreDataDir backup dataDir : FileProg (Entry C) F Unit).Only
      fun c => Harmless found (.inl c : Call (Entry C) F _) := by
  cases backup with
  | none => trivial
  | some backupPath =>
      exact Prog.only_bind (Prog.only_ask (harmless_of_none rfl)) fun _ =>
        Prog.only_bind (Prog.only_ask (harmless_of_none rfl)) fun _ => trivial

theorem harmless_undoInstall (removeData : Bool) (backup : Option String) :
    (undoInstall info removeData mode backup : FileProg (Entry C) F Unit).Only
      fun c => Harmless found (.inl c : Call (Entry C) F _) := by
  refine Prog.only_bind (Prog.only_attempt (harmless_rollbackFileOps hspares)) fun _ => ?_
  cases backup with
  | some backupPath =>
      exact Prog.only_bind (Prog.only_ask (harmless_of_none rfl)) fun _ =>
        harmless_restoreDataDir _ _
  | none =>
      dsimp only
      split
      · exact Prog.only_bind (Prog.only_ask (harmless_of_none rfl)) fun _ => trivial
      · trivial

omit hspares in
theorem harmless_dropDataBackup (backup : Option String) :
    (match backup with
      | some backupPath => do
          let _removed ← Prog.ask (.removeDirAll backupPath)
          pure ()
      | none => pure () : FileProg (Entry C) F Unit).Only
      fun c => Harmless found (.inl c : Call (Entry C) F _) := by
  cases backup with
  | some backupPath =>
      exact Prog.only_bind (Prog.only_ask (harmless_of_none rfl)) fun _ => trivial
  | none => trivial

theorem harmless_dropBackups (backup : Option String) :
    (dropBackups mode backup : FileProg (Entry C) F Unit).Only
      fun c => Harmless found (.inl c : Call (Entry C) F _) := by
  cases mode with
  | upgradeDownloaded installedPath =>
      refine Prog.only_bind (Prog.only_bind (Prog.only_ask ?_) fun _ => trivial) fun _ =>
        harmless_dropDataBackup backup
      intro p hp
      rw [List.mem_singleton.mp hp]
      exact hspares _ (List.mem_cons_of_mem _ (List.mem_cons_of_mem _ List.mem_cons_self))
  | upgradeBundled => exact harmless_dropDataBackup backup
  | fresh => exact harmless_dropDataBackup backup

theorem harmless_finishInstall (removeData : Bool) :
    (finishInstall info removeData mode).Only
      fun c => Harmless found (.inl c : Call (Entry C) F _) := by
  have hfinish : ∀ backup, (finishWith info removeData mode backup).Only
      fun c => Harmless found (.inl c : Call (Entry C) F _) := by
    intro backup
    refine Prog.only_bind (Prog.only_onError (Prog.only_try_ (harmless_of_none rfl))
      (Prog.only_bind (harmless_restoreDataDir _ _) fun _ =>
        harmless_rollbackFileOps hspares)) fun _ => ?_
    refine Prog.only_bind (Prog.only_onError (Prog.only_try_ (harmless_of_none rfl))
      (harmless_undoInstall hspares _ _)) fun package => ?_
    exact Prog.only_bind (harmless_dropBackups hspares _) fun _ => trivial
  rw [finishInstall_eq]
  split
  · refine Prog.only_bind (Prog.only_onError ?_ (harmless_rollbackFileOps hspares)) hfinish
    refine Prog.only_bind (Prog.only_ask (harmless_of_none rfl)) fun _ => ?_
    refine Prog.only_bind (Prog.only_ask (harmless_of_none rfl)) fun r => ?_
    rcases r with (_ | e) | _ <;> trivial
  · exact hfinish none

theorem safe_placeFile :
    Prog.Safe (σ := World (Entry C) B) (fun s c => serve k env s (.inl c))
      (fun s c => KeepsGuarded k env found s (.inl c)) (Present found) (placeFile info mode) := by
  have hcopy : Prog.Safe (σ := World (Entry C) B) (fun s c => serve k env s (.inl c))
      (fun s c => KeepsGuarded k env found s (.inl c)) (Present found)
      ((copyToPkgDir info.source info.dest).onError (rollbackFileOps mode info.dest)) :=
    Prog.safe_onError _ (safe_copyToPkgDir (harmless_dest hspares))
      (safe_of_files (harmless_rollbackFileOps hspares))
  cases mode with
  | upgradeDownloaded installedPath =>
      refine Prog.safe_bind _ (safe_of_files (Prog.only_context (Prog.only_try_
        (harmless_of_subset hspares fun p hp => ?_)))) fun _ =>
          Prog.safe_bind _ hcopy fun _ => Prog.safe_done _ _
      exact List.mem_cons_of_mem _ hp
  | upgradeBundled => exact Prog.safe_bind _ hcopy fun _ => Prog.safe_done _ _
  | fresh => exact Prog.safe_bind _ hcopy fun _ => Prog.safe_done _ _

/-- An install changes no guarded file if it replaces none. -/
theorem safe_executeInstallInner (removeData : Bool) :
    Prog.Safe (σ := World (Entry C) B) (serve k env) (fun s c => KeepsGuarded k env found s c)
      (Present found) (transaction (executeInstallInner info removeData mode)) := by
  rw [executeInstallInner_eq]
  exact Prog.safe_lift (fun c => Sum.inl c) (Prog.safe_bind _ (safe_placeFile hspares) fun _ =>
    safe_of_files (harmless_finishInstall hspares removeData))

end Transaction

section Messages

/-- Making packages changes no file. -/
theorem safe_of_makes {α : Type} {program : DaemonProg (Entry C) F α}
    (h : program.Only (makesPackage env.dataRoot)) :
    Prog.Safe (σ := World (Entry C) B) (serve k env) (fun s c => KeepsGuarded k env found s c)
      (Present found) program := by
  refine safe_of_harmless (Prog.only_mono (fun c hc => ?_) h)
  have hnone : touched c = [] := by
    rcases c with c | c
    · cases c with
      | acquireVolume volumeMeta => rfl
      | newPackage path packageFile => rfl
      | _ => exact absurd hc not_false
    · rfl
  intro p hp
  rw [hnone] at hp
  exact absurd hp List.not_mem_nil

theorem makes_reloadPackages (files : Files (Entry C)) (bundled downloaded : DirEntries) :
    (reloadPackages env files bundled downloaded).Only (makesPackage env.dataRoot) := by
  have hload : ∀ store parsed, (loadParsedPackage env files store parsed).Only
      (makesPackage env.dataRoot) := by
    intro store parsed
    refine Prog.only_bind (Prog.only_attempt (makes_createParsed env parsed)) fun created => ?_
    cases created <;> trivial
  refine Prog.only_bind (Prog.only_foldlM (fun store parsed => ?_) _ _) fun store =>
    Prog.only_foldlM (fun store parsed => hload store parsed) _ _
  unfold loadBundledPackage
  dsimp only
  split
  · trivial
  · exact hload _ parsed

/-- A call about a package, with what the manager is told of it. -/
theorem leaves_ask {w : World (Entry C) B} (hw : Present found w) {β : Type}
    {c : Call (Entry C) F β} (hnone : touched c = []) :
    KeepsGuarded k env found w c ∧ Present found (serve k env w c).1 := by
  refine harmless_leaves (fun p hp => ?_) hw
  rw [hnone] at hp
  exact absurd hp List.not_mem_nil

/-- An upgrade changes no guarded file if it is not prepared, or replaces none. -/
theorem leaves_upgrade {info : InstallInfo (Entry C) F} (removeData : Bool)
    {existing : Package F} {w : World (Entry C) B} (hw : Present found w)
    (hspares : (k w.calls).package = .ok () →
      ∀ p ∈ replacedPaths info (installMode env.toEnv (some existing)), ¬ Guarded found p) :
    Prog.wp (serve k env) (fun s c => KeepsGuarded k env found s c)
      (fun _ s => Present found s) (upgrade env.toEnv info removeData existing) w := by
  let prepare : Call (Entry C) F (Except Error Unit) := .inr (.prepareUpgrade existing)
  have hanswer : (serve k env w prepare).2 = (k w.calls).package := rfl
  have hprepare : KeepsGuarded k env found w prepare ∧ Present found (serve k env w prepare).1 :=
    leaves_ask hw rfl
  rw [upgrade, Prog.bind_eq, Prog.wp_bind, Prog.wp_context, Prog.wp_try_, hanswer]
  refine ⟨hprepare.1, ?_⟩
  cases hpackage : (k w.calls).package with
  | error e => exact hprepare.2
  | ok _ =>
      exact Prog.safe_attempt _ (safe_executeInstallInner (hspares hpackage) removeData) _
        hprepare.2

variable [LE V] [DecidableLE V] [ToString V]

/-- An install message changes no guarded file if its install replaces none. -/
theorem leaves_handleInstallPackage {store : PackageStore F} {msg : InstallPackage (Entry C)}
    {w : World (Entry C) B} (hw : Present found w)
    (hspares : ∀ info origPkg, planInstall env.toEnv store msg = .ok (info, origPkg) →
      (origPkg = none ∨ (k w.calls).package = .ok ()) →
      ∀ p ∈ replacedPaths info (installMode env.toEnv origPkg), ¬ Guarded found p) :
    Prog.wp (serve k env) (fun s c => KeepsGuarded k env found s c)
      (fun _ s => Present found s) (handleInstallPackage env.toEnv store msg) w := by
  unfold handleInstallPackage
  cases hplan : planInstall env.toEnv store msg with
  | error e => exact hw
  | ok plan =>
      rcases plan with ⟨info, origPkg⟩
      cases origPkg with
      | none =>
          have hinstall : Prog.Safe (σ := World (Entry C) B) (serve k env)
              (fun s c => KeepsGuarded k env found s c) (Present found)
              (transaction (executeInstallInner info false .fresh)) :=
            safe_executeInstallInner (hspares info none hplan (Or.inl rfl)) false
          refine Prog.safe_bind _ (Prog.safe_attempt _ hinstall) (fun r => ?_) w hw
          cases r <;> exact Prog.safe_done _ _
      | some existing =>
          -- The paths are spared only if the teardown goes through, and else nothing is touched.
          have hupgrade := leaves_upgrade msg.removeData hw
            fun hpackage => hspares info (some existing) hplan (Or.inr hpackage)
          dsimp only
          rw [Prog.bind_eq, Prog.wp_bind, Prog.wp_attempt]
          refine Prog.wp_mono _ (fun _ _ hc => hc) (fun r s hs => ?_) hupgrade
          rcases r with e | e | built
          · exact hs
          · exact Prog.safe_bind _ (safe_of_makes (makes_tryRecover env _ _ _))
              (fun _ => Prog.safe_done _ _) s hs
          · exact hs

omit [LE V] [DecidableLE V] [ToString V] in
/-- Removing the file and bringing the bundled package back. -/
theorem safe_removeFileAndRestore {store : PackageStore F} {name failed : String} {path : Path}
    (hpath : ¬ Guarded found path) :
    Prog.Safe (σ := World (Entry C) B) (serve k env) (fun s c => KeepsGuarded k env found s c)
      (Present found) (removeFileAndRestore env.toEnv store name path failed) := by
  have hremove : (removeFileIfExists path : FileProg (Entry C) F Bool).Only
      fun c => Harmless found (.inl c : Call (Entry C) F _) := by
    refine Prog.only_bind (Prog.only_ask fun p hp => ?_) fun r => ?_
    · rw [List.mem_singleton.mp hp]
      exact hpath
    · rcases r with (_ | e) | _ <;> trivial
  refine Prog.safe_bind _ (Prog.safe_attempt _ (Prog.safe_lift (fun c => Sum.inl c)
    (safe_of_files hremove))) fun removed => ?_
  cases removed with
  | error e => exact Prog.safe_done _ _
  | ok _ =>
      exact Prog.safe_bind _ (safe_of_makes (makes_restoreBundled env store name))
        fun _ => Prog.safe_done _ _

omit [LE V] [DecidableLE V] [ToString V] in
/-- A removal changes no guarded file if it is not about one, or the package is not torn
    down. -/
theorem leaves_removePackage {store : PackageStore F} {name : String} (purge : Bool)
    {w : World (Entry C) B} (hw : Present found w)
    (hspares : ∀ p, (store.get name = none ∨ (k w.calls).package = .ok ()) →
      removedPath env store name = some p → ¬ Guarded found p) :
    Prog.wp (serve k env) (fun s c => KeepsGuarded k env found s c)
      (fun _ s => Present found s) (removePackage env.toEnv store name purge) w := by
  unfold removePackage
  unfold removedPath at hspares
  split
  · next package hstored =>
      rw [hstored] at hspares
      split
      · exact hw
      · next hbundled =>
          -- The teardown is the first call, and its answer decides whether the file goes.
          let teardown : Call (Entry C) F (Except Error Unit) := .inr (.teardown package)
          have hanswer : (serve k env w teardown).2 = (k w.calls).package := rfl
          have hteardown : KeepsGuarded k env found w teardown ∧
              Present found (serve k env w teardown).1 := leaves_ask hw rfl
          rw [Prog.bind_eq, Prog.wp_bind, Prog.wp_ask, hanswer]
          refine ⟨hteardown.1, ?_⟩
          cases hpackage : (k w.calls).package with
          | error e => exact hteardown.2
          | ok _ =>
              -- The teardown went through, so the file to be removed is spared.
              have hpath : ¬ Guarded found package.path := by
                refine hspares package.path (Or.inr hpackage) ?_
                dsimp only
                rw [Option.filter_some, if_pos]
                rw [Bool.not_eq_true', ← Bool.not_eq_true]
                exact hbundled
              rw [Prog.branch_ok]
              refine Prog.safe_bind _ ?_ (fun purged => ?_) _ hteardown.2
              · split
                · exact safe_of_harmless (Prog.only_ask (harmless_of_none rfl))
                · exact Prog.safe_done _ _
              · cases purged with
                | error e =>
                    exact Prog.safe_bind _ (safe_of_makes (makes_tryRecover env _ _ _))
                      fun _ => Prog.safe_done _ _
                | ok _ => exact safe_removeFileAndRestore hpath
  · next hstored =>
      rw [hstored] at hspares
      split
      · next brokenInfo hbroken =>
          split
          · exact hw
          · next hbundled =>
              refine safe_removeFileAndRestore (hspares _ (Or.inl rfl) ?_) w hw
              dsimp only
              rw [hbroken, Option.map_some, Option.filter_some, if_pos]
              rw [Bool.not_eq_true', ← Bool.not_eq_true]
              exact hbundled
      · exact hw

/-- The paths an install replaces are not in the bundled directory. -/
theorem parent_of_replaced {store : PackageStore F} {msg : InstallPackage (Entry C)}
    {info : InstallInfo (Entry C) F} {origPkg : Option (Package F)}
    (hplan : planInstall env.toEnv store msg = .ok (info, origPkg)) {p : Path}
    (hp : p ∈ replacedPaths info (installMode env.toEnv origPkg)) : p.parent ≠ env.bundledDir := by
  rcases planInstall_eq_ok hplan with ⟨content, hplanned⟩
  -- The new file goes to the downloaded directory.
  have hdest : info.dest.parent ≠ env.bundledDir := by
    rw [hplanned.dest]
    exact env.distinct.symm
  cases origPkg with
  | none =>
      rw [List.mem_singleton.mp hp]
      exact hdest
  | some existing =>
      rw [installMode] at hp
      split at hp
      · rw [List.mem_singleton.mp hp]
        exact hdest
      · next hbundled =>
          have hinstalled : existing.path.parent ≠ env.bundledDir :=
            fun h => hbundled (decide_eq_true h)
          rcases List.mem_cons.mp hp with rfl | hp
          · exact hdest
          · rcases List.mem_cons.mp hp with rfl | hp
            · exact hinstalled
            · rw [List.mem_singleton.mp hp]
              exact hinstalled

omit [LE V] [DecidableLE V] [ToString V] in
theorem parent_of_removed {store : PackageStore F} {name : String} {p : Path}
    (hp : removedPath env store name = some p) : p.parent ≠ env.bundledDir := by
  have hbundled := (Option.filter_eq_some_iff.mp hp).2
  rw [Bool.not_eq_true', isBundledPackage, decide_eq_false_iff_not] at hbundled
  exact hbundled

omit [LE V] [DecidableLE V] [ToString V] in
/-- What is not in the bundled directory, and is no file a bundled one leads to, is not
    guarded. -/
theorem not_guarded {d : LinkedState C F B} (hfound : Found env d) {p : Path}
    (hparent : p.parent ≠ env.bundledDir) (hreal : ∀ file ∈ d.found, p ≠ file.2) :
    ¬ Guarded d.found p := by
  rintro ⟨file, hfile, rfl | rfl⟩
  · exact hparent (hfound file hfile).1
  · exact hreal file hfile rfl

omit [LE V] [DecidableLE V] [ToString V] in
/-- What a start finds is there as what was found before is. -/
theorem found_after {d : LinkedState C F B} (hfound : Found env d) (a : Action C) :
    ∀ file ∈ foundAfter env d a, file.1.parent = env.bundledDir ∧
      d.world.files.get file.1 ≠ none ∧ d.world.files.get file.2 ≠ none := by
  intro file hfile
  cases a with
  | start quota scan bundled downloaded =>
      rcases List.mem_append.mp hfile with hnew | hold
      · rcases mem_bundledFiles hnew with ⟨hparent, hthere, content, hreal⟩
        refine ⟨hparent, hthere, ?_⟩
        rw [hreal]
        exact Option.some_ne_none _
      · exact hfound file hold
  | install msg => exact hfound file hfile
  | remove msg => exact hfound file hfile

/-- An action changes no guarded file, and meets them all, if the files it deletes or replaces
    are none. -/
theorem keeps_of_not_guarded {d : LinkedState C F B} {e : DaemonEvent C}
    (hpresent : Present found d.world)
    (hinstall : ∀ msg store info origPkg, e.action = .install msg → d.store = some store →
      planInstall env.toEnv store (linkedMessage msg) = .ok (info, origPkg) →
      (origPkg = none ∨ (e.kernel d.world.calls).package = .ok ()) →
      ∀ p ∈ replacedPaths info (installMode env.toEnv origPkg), ¬ Guarded found p)
    (hremove : ∀ msg store p, e.action = .remove msg → d.store = some store →
      (store.get msg.packageName = none ∨ (e.kernel d.world.calls).package = .ok ()) →
      removedPath env store msg.packageName = some p → ¬ Guarded found p)
    {w : World (Entry C) B} {program : DaemonProg (Entry C) F (PackageStore F)}
    (hbegin : begin env d e.action = some (w, program)) :
    Prog.wp (serve e.kernel env) (fun s c => KeepsGuarded e.kernel env found s c)
      (fun _ s => Present found s) program w := by
  rcases e with ⟨a, k, killed⟩
  cases a with
  | start quota scan bundled downloaded =>
      have hbegun := Prod.mk.inj (Option.some.inj hbegin)
      rw [← hbegun.1, ← hbegun.2]
      exact safe_of_makes (makes_reloadPackages _ _ _) _ hpresent
  | install msg =>
      rcases Option.map_eq_some_iff.mp hbegin with ⟨store, hstore, hbegun⟩
      have hbegun := Prod.mk.inj hbegun
      have hleaves := leaves_handleInstallPackage hpresent
        fun info origPkg => hinstall msg store info origPkg rfl hstore
      rw [← hbegun.1, ← hbegun.2, Prog.bind_eq, Prog.wp_bind]
      refine Prog.wp_mono _ (fun _ _ hc => hc) (fun r s hs => ?_) hleaves
      cases r <;> exact hs
  | remove msg =>
      rcases Option.map_eq_some_iff.mp hbegin with ⟨store, hstore, hbegun⟩
      have hbegun := Prod.mk.inj hbegun
      have hleaves := leaves_removePackage msg.purgeVolume hpresent
        fun p => hremove msg store p rfl hstore
      rw [← hbegun.1, ← hbegun.2, handleRemovePackage, Prog.bind_eq, Prog.bind_eq,
        Prog.wp_bind, Prog.wp_bind]
      refine Prog.wp_mono _ (fun _ _ hc => hc) (fun r s hs => ?_) hleaves
      cases r <;> exact hs

/-- An action that spares the real files changes no guarded one, and meets them all. -/
theorem keeps_of_spares {d : LinkedState C F B} {e : DaemonEvent C} (hfound : Found env d)
    (hspares : SparesReal env d e) {w : World (Entry C) B}
    {program : DaemonProg (Entry C) F (PackageStore F)}
    (hbegin : begin env d e.action = some (w, program)) :
    Prog.wp (serve e.kernel env)
      (fun s c => KeepsGuarded e.kernel env (foundAfter env d e.action) s c)
      (fun _ s => Present (foundAfter env d e.action) s) program w := by
  -- Every bundled file is there at the beginning, and so is what it links to.
  have hpresent : Present (foundAfter env d e.action) d.world := by
    rintro p ⟨file, hfile, rfl | rfl⟩
    · exact (found_after hfound e.action file hfile).2.1
    · exact (found_after hfound e.action file hfile).2.2
  -- The paths a message is about are spared, and not in the bundled directory.
  refine keeps_of_not_guarded hpresent ?_ ?_ hbegin
  · intro msg store info origPkg ha hstore hplan hpackage p hp
    rw [SparesReal, ha] at hspares
    rw [ha]
    exact not_guarded hfound (parent_of_replaced hplan hp)
      (hspares store info origPkg hstore hplan hpackage p hp)
  · intro msg store p ha hstore hpackage hp
    rw [SparesReal, ha] at hspares
    rw [ha]
    exact not_guarded hfound (parent_of_removed hp) (hspares store p hstore hpackage hp)

/-- Whatever state the daemon is in and whatever the files, no action deletes, renames or
    overwrites a name that the bundled directory has when it begins. -/
theorem bundled_names_untouched {d : LinkedState C F B} {e : DaemonEvent C}
    {w : World (Entry C) B} {program : DaemonProg (Entry C) F (PackageStore F)}
    (hbegin : begin env d e.action = some (w, program)) :
    Prog.wp (serve e.kernel env)
      (fun s c => ∀ p : Path, p.parent = env.bundledDir → d.world.files.get p ≠ none →
        p ∈ touched c → ¬ CarriedOut c (serve e.kernel env s c).2)
      (fun _ _ => True) program w := by
  -- Each name stands for itself, whether it is a link or not.
  let names : List (Path × Path) :=
    (d.world.files.entries.filter fun entry => entry.1.parent = env.bundledDir).map
      fun entry => (entry.1, entry.1)
  have hguarded : ∀ p : Path,
      Guarded names p ↔ p.parent = env.bundledDir ∧ d.world.files.get p ≠ none := by
    intro p
    constructor
    · rintro ⟨file, hfile, hp⟩
      rcases List.mem_map.mp hfile with ⟨⟨path, entry⟩, hentry, rfl⟩
      rcases List.mem_filter.mp hentry with ⟨hmem, hparent⟩
      obtain rfl : p = path := hp.elim id id
      rw [(HashMap.mem_entries_iff _ _ _).mp hmem]
      exact ⟨of_decide_eq_true hparent, Option.some_ne_none entry⟩
    · rintro ⟨hparent, hthere⟩
      rcases Option.ne_none_iff_exists'.mp hthere with ⟨entry, hentry⟩
      refine ⟨(p, p), List.mem_map.mpr ⟨⟨p, entry⟩, List.mem_filter.mpr ⟨?_, ?_⟩, rfl⟩, Or.inl rfl⟩
      · exact (HashMap.mem_entries_iff _ _ _).mpr hentry
      · exact decide_eq_true hparent
  have hkeeps := keeps_of_not_guarded (fun p hp => ((hguarded p).mp hp).2)
    (fun msg store info origPkg _ _ hplan _ p hp hguard =>
      parent_of_replaced hplan hp ((hguarded p).mp hguard).1)
    (fun msg store p _ _ _ hp hguard => parent_of_removed hp ((hguarded p).mp hguard).1) hbegin
  exact Prog.wp_mono _
    (fun s c hc p hparent hthere => hc.1 p ((hguarded p).mpr ⟨hparent, hthere⟩))
    (fun _ _ _ => trivial) hkeeps

/-- A step that spares the real files leaves what was found where it is. -/
theorem found_step {d d' : LinkedState C F B} {e : DaemonEvent C} (hfound : Found env d)
    (hspares : SparesReal env d e) (hstep : step env d e = some d') : Found env d' := by
  rcases Option.map_eq_some_iff.mp hstep with ⟨⟨w, program⟩, hbegin, hd'⟩
  have hkeeps := keeps_of_spares hfound hspares hbegin
  have hstates : Prog.wp (serve e.kernel env)
      (fun s _ => Present (foundAfter env d e.action) s)
      (fun _ s => Present (foundAfter env d e.action) s) program w :=
    Prog.wp_mono _ (fun _ _ hc => hc.2) (fun _ _ hs => hs) hkeeps
  have hpresent : d'.found = foundAfter env d e.action ∧ Present d'.found d'.world := by
    rw [← hd']
    dsimp only
    split
    · exact ⟨rfl, Prog.eval_of_wp _ hstates⟩
    · exact ⟨rfl, (Prog.forall_cut_iff _).mpr hstates _⟩
  intro file hfile
  have hfile' := hfile
  rw [hpresent.1] at hfile'
  exact ⟨(found_after hfound e.action file hfile').1, hpresent.2 _ ⟨file, hfile, Or.inl rfl⟩,
    hpresent.2 _ ⟨file, hfile, Or.inr rfl⟩⟩

theorem untouched_of_spares {d : LinkedState C F B} {e : DaemonEvent C} (hfound : Found env d)
    (hspares : SparesReal env d e) : Untouched env d e :=
  fun _ _ hbegin => Prog.wp_mono _ (fun _ _ hc => hc.1) (fun _ _ _ => trivial)
    (keeps_of_spares hfound hspares hbegin)

/-- In every run of the daemon, with its kills and restarts, no bundled file that was found
    and no regular file it led to is deleted, renamed or overwritten, if no removal and no
    install is about such a regular file. -/
theorem bundled_untouched (env : DaemonEnv (Entry C) F V) (files : Files (Entry C))
    (disk : Disk B) (es : List (DaemonEvent C))
    (h : Along (step env) (SparesReal env) (stopped files disk) es) :
    Along (step env) (Untouched env) (stopped files disk) es := by
  have hnone : Found env (stopped files disk) := fun _ hfile => absurd hfile List.not_mem_nil
  have halways := always_of_along (fun _ _ _ hfound hspares hstep =>
    found_step hfound hspares hstep) hnone h
  exact along_mono (P := Found env) (C := SparesReal env) (D := Untouched env)
    (fun _ _ hfound hspares => untouched_of_spares hfound hspares) halways h

end Messages

/-- The daemon in an environment in which all works but for what `build` says. -/
def plainLinked (build : String × Nat → Except Error Unit) :
    DaemonEnv (Entry (String × Nat)) (String × Nat) Nat where
  toEnv := { (plainDaemon build).toEnv with
    fromFileVerified := fun
      | .file content => .ok content
      | .link _ => .error ["not a regular file"] }
  dataRoot := "/data"
  info := ⟨fun _ _ => .ok (), fun _ => none, fun _ => none⟩
  volumeMetadata_eq := rfl

/-- A bundled package file that is a link to a file elsewhere. -/
def bundledLink : Files (Entry (String × Nat)) :=
  AList.insert ⟨"/b", "a.ssam"⟩ (.link ⟨"/opt", "a.ssam"⟩)
    (AList.insert ⟨"/opt", "a.ssam"⟩ (.file ("a", 1)) ∅)

/-- The daemon starts with one entry in the bundled directory. -/
def startBundled (fileName : String) : DaemonEvent (String × Nat) :=
  ⟨.start false ⟨.ok (), [], fun _ => true⟩ (some [.ok fileName]) none,
    fun _ => .fine ("", 0), none⟩

/-- An install of another package leaves a bundled link and the file behind it. -/
theorem bundled_untouched_install :
    Along (step (plainLinked fun _ => .ok ())) (Untouched (plainLinked fun _ => .ok ()))
      (stopped bundledLink (fun _ => none : Disk Nat))
      [startBundled "a.ssam", ⟨.install (installFrom ("b", 1)), fun _ => .fine ("", 0), none⟩] := by
  refine bundled_untouched _ _ _ _ (along_cons rfl trivial (along_cons rfl ?_ trivial))
  rintro store info origPkg hstore hplan - p hp file hfile
  rw [← Option.some.inj hstore] at hplan
  have hplanned := (Except.ok.inj hplan).symm
  rw [(Prod.mk.inj hplanned).1, (Prod.mk.inj hplanned).2] at hp
  have hp' := List.mem_singleton.mp hp
  have hfile' := List.mem_singleton.mp hfile
  rw [hp', hfile']
  decide

/-- Removing a bundled package that no package could be made of deletes the file its link
    leads to. -/
theorem real_file_deleted :
    ¬ Along (step (plainLinked fun _ => .error ["no image"]))
      (Untouched (plainLinked fun _ => .error ["no image"]))
      (stopped bundledLink (fun _ => none : Disk Nat))
      [startBundled "a.ssam", ⟨.remove ⟨"a", false⟩, fun _ => .fine ("", 0), none⟩] := by
  intro h
  have huntouched := ((h _ rfl).2 _ rfl).1
  have hremove := (huntouched _ _ rfl).1
  exact hremove ⟨"/opt", "a.ssam"⟩ ⟨_, List.mem_cons_self, Or.inr rfl⟩ List.mem_cons_self rfl

end Links

end Daemon

end Ssam
