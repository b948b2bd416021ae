import Ssam.Daemon.World
import Ssam.Manager.Remove

/-!
# The Messages of the Daemon

The start of the daemon and its messages, as programs over its calls.

Each is what it was without the data directories, with the calls in it that acquire
and purge volumes.

## Main definitions

* `createPackage`, `tryRecover`: A package made of its file, with its volume.
* `reloadPackages`: The packages of both directories, when the daemon starts.
* `handleInstallPackage`, `handleRemovePackage`: The two messages.

## Theorems

* `only_handleInstallPackage`, `only_handleRemovePackage`: The data the messages are
  about.
-/

namespace Ssam

namespace Daemon

open Lib Manager Volume

/-- A program over the calls of the daemon. -/
abbrev DaemonProg (C F : Type) := Prog (Call C F) Error

variable {C F V B : Type}

/-- Have the transaction run the program. -/
def transaction {α : Type} (p : FileProg C F α) : DaemonProg C F α := p.lift fun c => Sum.inl c

theorem transaction_bind {α β : Type} (p : FileProg C F α) (f : α → FileProg C F β) :
    transaction (p.bind f) = (transaction p).bind fun a => transaction (f a) :=
  Prog.lift_bind _ p f

section Messages

variable (env : Env C F V)

/-- Acquire the volume of a package and make the package. -/
def createPackage (path : Path) (packageFile : F) : FileProg C F (Package F) := do
  let volumeMeta ← (Prog.done (env.volumeMetadata path packageFile)).context
    "Failed to create volume metadata"
  Prog.try_ (.acquireVolume volumeMeta)
  Prog.try_ (.newPackage path packageFile)

/-- Make the package of a parsed file, if it was parsed. -/
def createParsed (parsed : PackageParseResult F) : DaemonProg C F (Package F) := do
  let packageFile ← Prog.done parsed.packageFile
  (transaction (createPackage env parsed.path packageFile)).context
    s!"Failed to create package: {parsed.packageName}"

/-- Put a parsed file into the store, among the packages or among the broken ones. -/
def loadParsedPackage (store : PackageStore F) (parsed : PackageParseResult F) :
    DaemonProg C F (PackageStore F) := do
  match ← (createParsed env parsed).attempt with
  | .ok package => pure (store.insert parsed.packageName package)
  | .error e => pure (store.insertBroken parsed.packageName ⟨parsed.path, e⟩)

/-- Record a bundled package, and load it unless it is overridden. -/
def loadBundledPackage (overriddenNames : List String) (store : PackageStore F)
    (parsed : PackageParseResult F) : DaemonProg C F (PackageStore F) :=
  let store := store.insertBundledPath parsed.packageName parsed.path
  if parsed.packageName ∈ overriddenNames then pure store
  else loadParsedPackage env store parsed

/-- Build the store from the two directories. -/
def reloadPackages (files : Files C) (bundled downloaded : DirEntries) :
    DaemonProg C F (PackageStore F) := do
  let downloadedParsed := parsePackagesFromDir env files env.downloadedDir downloaded
  let overriddenNames := downloadedParsed.map PackageParseResult.packageName
  let bundledParsed := parsePackagesFromDir env files env.bundledDir bundled
  let store ← bundledParsed.foldlM (loadBundledPackage env overriddenNames) .empty
  downloadedParsed.foldlM (loadParsedPackage env) store

/-- Make a package from the file at the path. -/
def recoverPackage (path : Path) : DaemonProg C F (Package F) := do
  let shown := path.display.quote
  let content ← Prog.ask (.inr (.read path))
  let packageFile ← Prog.done (context s!"Failed to re-parse package at {shown}"
    (parseContent env content))
  (transaction (createPackage env path packageFile)).context
    s!"Failed to recover package from {shown}"

/-- Put what can be made of the file at the path into the store under the name,
    and nothing if nothing can. -/
def tryRecover (store : PackageStore F) (packageName : String) (path : Path) :
    DaemonProg C F (PackageStore F) := do
  match ← (recoverPackage env path).attempt with
  | .ok restored => pure (store.insert packageName restored)
  | .error _ => pure (store.remove packageName)

/-- Make the package of the bundled file that has the name, if there is one. -/
def restoreBundled (store : PackageStore F) (packageName : String) :
    DaemonProg C F (PackageStore F) :=
  match store.getBundledPath packageName with
  | some bundledPath => tryRecover env store packageName bundledPath
  | none => pure store

/-- Prepare the package for its upgrade, and install over it. -/
def upgrade (prepared : InstallInfo C F) (removeData : Bool) (existing : Package F) :
    DaemonProg C F (Except Error (Package F)) := do
  let packageName := prepared.packageName
  (Prog.try_ (.inr (.prepareUpgrade existing))).context
    s!"Cannot prepare upgrade for package({packageName})"
  (transaction (executeInstallInner prepared removeData
    (installMode env (some existing)))).attempt

/-- Install a package: the store after, and how it ends. -/
def handleInstallPackage [LE V] [DecidableLE V] [ToString V] (store : PackageStore F)
    (msg : InstallPackage C) : DaemonProg C F (PackageStore F × Except Error F) :=
  match planInstall env store msg with
  | .error e => pure (store, .error e)
  | .ok (prepared, origPkg) => do
      let path := msg.source.path.quote
      let failed := s!"Failed to install package from file: {path}"
      let store := store.removeBroken prepared.dest.fileName
      match origPkg with
      | some existing =>
          -- The teardown may fail before anything is installed, or the installation after it.
          match ← (upgrade env prepared msg.removeData existing).attempt with
          | .error e => pure (store, .error e)
          | .ok (.ok built) =>
              pure (store.insert (env.packageName built.file) built, .ok built.file)
          | .ok (.error source) => do
              let store ← tryRecover env store prepared.packageName existing.path
              pure (store, .error (failed :: source))
      | none =>
          match ← (transaction (executeInstallInner prepared false .fresh)).attempt with
          | .ok built => pure (store.insert (env.packageName built.file) built, .ok built.file)
          | .error source => pure (store, .error (failed :: source))

/-- Remove the package file, and have the bundled package take its place. -/
def removeFileAndRestore (store : PackageStore F) (packageName : String) (path : Path)
    (failed : String) : DaemonProg C F (PackageStore F × Except Error Unit) := do
  match ← (transaction (removeFileIfExists path)).attempt with
  | .error e => pure (store, .error (failed :: e))
  | .ok _ => do
      let store ← restoreBundled env store packageName
      pure (store, .ok ())

/-- Remove a package: from the store, its volume if asked for, and its file. -/
def removePackage (store : PackageStore F) (packageName : String) (purge : Bool) :
    DaemonProg C F (PackageStore F × Except Error Unit) :=
  match store.get packageName with
  | some package =>
      if isBundledPackage env package.path then
        pure (store,
          .error [s!"Cannot remove bundled package '{packageName}': system-provided"])
      else do
        match ← Prog.ask (.inr (.teardown package)) with
        | .error e =>
            pure (store, .error (s!"Failed to teardown package {packageName} before removal" ::
              s!"Failed to teardown package {packageName}" :: e))
        | .ok () => do
            let store := store.remove packageName
            -- The volume is purged while the package is in no map.
            let purged ← (if purge then Prog.ask (.inl (.purgeVolume packageName))
              else pure (.ok ()) : DaemonProg C F (Except Error Unit))
            match purged with
            | .error e => do
                let store ← tryRecover env store packageName package.path
                pure (store, .error
                  (s!"Failed to purge package volume for package: {packageName}" :: e))
            | .ok () =>
                removeFileAndRestore env store packageName package.path
                  "Failed to remove package file"
  | none =>
      match store.getBroken packageName with
      | some brokenInfo =>
          if isBundledPackage env brokenInfo.packagePath then
            pure (store, .error [s!"Cannot remove broken bundled package '{packageName}': " ++
              "system-provided"])
          else
            removeFileAndRestore env (store.removeBroken packageName) packageName
              brokenInfo.packagePath "Failed to remove broken package file"
      | none => pure (store, .error [s!"Package not found: {packageName}"])

def handleRemovePackage (store : PackageStore F) (msg : RemovePackage) :
    DaemonProg C F (PackageStore F × Except Error Unit) := do
  let packageName := msg.packageName
  let removed ← removePackage env store packageName msg.purgeVolume
  pure (removed.1, context s!"Failed to remove package: {packageName}" removed.2)

/-- The name of the package the message would install. -/
def packageNameOf (msg : InstallPackage C) : String :=
  parsedName env (msg.source.fileName.getD "") (parseContent env msg.source.content)

end Messages

section Calls

/-- The call is one on package files. -/
abbrev onFiles : {β : Type} → FileCall C F β → Prop := fun c => leavesData (.inl c : Call C F _)

section Files

variable {env : DaemonEnv C F V}

/-- A call on package files. -/
theorem serve_onFiles {k : Nat → CallKernel C} {α : Type} {c : FileCall C F α} (h : onFiles c)
    {w w' : World C B} {a : α} :
    serve k env w (.inl c) = (w', a) ↔
      ∃ files, (k w.calls).file.serve env.toEnv w.files c = (files, a) ∧
        w' = ⟨files, w.disk, w.volumes, w.calls + 1⟩ := by
  have hserve : serve k env w (.inl c) =
      (⟨((k w.calls).file.serve env.toEnv w.files c).1, w.disk, w.volumes, w.calls + 1⟩,
        ((k w.calls).file.serve env.toEnv w.files c).2) := by
    cases c with
    | removeDirAll path => exact absurd h not_false
    | renameDir src dst => exact absurd h not_false
    | acquireVolume volumeMeta => exact absurd h not_false
    | purgeVolume name => exact absurd h not_false
    | _ => rfl
  rw [hserve, Prod.mk.injEq]
  constructor
  · rintro ⟨hw, ha⟩
    exact ⟨_, Prod.ext rfl ha, hw.symm⟩
  · rintro ⟨files, hfiles, hw⟩
    rw [hfiles]
    exact ⟨hw.symm, rfl⟩

theorem createTemp_eq_ok {k : FileKernel C} {files files' : Files C} {dir : String}
    {temp : TempName} :
    k.serve env.toEnv files (.createTemp dir : FileCall C F _) = (files', .ok temp) ↔
      k.createTemp = .ok temp ∧ files.get ⟨dir, temp.fileName⟩ = none ∧
        files' = files.insert ⟨dir, temp.fileName⟩ k.unwritten := by
  rw [FileKernel.serve]
  cases k.createTemp with
  | error e => simp only [Prod.mk.injEq, reduceCtorEq, and_false, false_and]
  | ok name =>
      rw [Except.ok.injEq]
      dsimp only
      split
      · next htaken =>
          simp only [Prod.mk.injEq, reduceCtorEq, and_false, false_iff, not_and]
          -- The file would be opened anew, so it must not be there.
          rintro rfl hfree
          rw [hfree] at htaken
          exact absurd htaken Bool.false_ne_true
      · next hfree =>
          rw [Option.not_isSome_iff_eq_none] at hfree
          rw [Prod.mk.injEq, Except.ok.injEq]
          constructor
          · rintro ⟨rfl, rfl⟩
            exact ⟨rfl, hfree, rfl⟩
          · rintro ⟨rfl, -, rfl⟩
            exact ⟨rfl, rfl⟩

theorem copyInto_eq_ok {k : FileKernel C} {files files' : Files C} {source : Source C}
    {content : C} {temp : Path} {bytes : Nat} (h : source.content = some content) :
    k.serve env.toEnv files (.copyInto source temp : FileCall C F _) = (files', .ok bytes) ↔
      k.copyInto = .ok bytes ∧ files' = files.insert temp content := by
  rw [FileKernel.serve, h]
  cases k.copyInto with
  | error e => simp only [Prod.mk.injEq, reduceCtorEq, and_false, false_and]
  | ok n =>
      rw [Prod.mk.injEq, and_comm]
      exact and_congr_right fun _ => eq_comm

theorem persist_eq_ok {k : FileKernel C} {files files' : Files C} {temp dest : Path} :
    k.serve env.toEnv files (.persist temp dest : FileCall C F _) = (files', .ok ()) ↔
      k.persist = none ∧ ∃ content, files.get temp = some content ∧
        files' = (files.erase temp).insert dest content := by
  rw [FileKernel.serve]
  cases k.persist with
  | some e => simp only [renameFile, Prod.mk.injEq, reduceCtorEq, and_false, false_and]
  | none =>
      rw [renameFile, and_iff_right rfl]
      cases files.get temp with
      | none => simp only [Prod.mk.injEq, reduceCtorEq, and_false, false_and, exists_false]
      | some content =>
          simp only [Prod.mk.injEq, and_true, Option.some.injEq]
          constructor
          · exact fun h => ⟨content, rfl, h.symm⟩
          · rintro ⟨content', rfl, rfl⟩
            rfl

end Files

theorem only_transaction {A : {β : Type} → Call C F β → Prop} {α : Type} {p : FileProg C F α}
    (hp : p.Only fun c => A (.inl c)) : (transaction p).Only A :=
  Prog.only_lift (f := fun c => Sum.inl c) (fun _ hc => hc) hp

/-- A program about package files takes no data away. -/
theorem addsData_transaction {dataRoot : String} {α : Type} {p : FileProg C F α}
    (hp : p.Only onFiles) : (transaction p).Only (addsData dataRoot) :=
  only_transaction (Prog.only_mono (fun c hc => addsData_of_leavesData (.inl c) hc) hp)

theorem only_removeFileIfExists (path : Path) :
    (removeFileIfExists path : FileProg C F Bool).Only onFiles := by
  refine Prog.only_bind (Prog.only_ask trivial) fun r => ?_
  rcases r with (_ | e) | _ <;> trivial

theorem only_backupFile (path : Path) : (backupFile path : FileProg C F Unit).Only onFiles :=
  Prog.only_context (Prog.only_try_ trivial)

theorem only_rollbackFileOps (mode : InstallMode) (dest : Path) :
    (rollbackFileOps mode dest : FileProg C F Unit).Only onFiles := by
  cases mode with
  | upgradeDownloaded installedPath => exact Prog.only_context (Prog.only_try_ trivial)
  | upgradeBundled =>
      exact Prog.only_bind (Prog.only_context (only_removeFileIfExists dest)) fun _ => trivial
  | fresh =>
      exact Prog.only_bind (Prog.only_context (only_removeFileIfExists dest)) fun _ => trivial

theorem only_copyToPkgDir (source : Source C) (dest : Path) :
    (copyToPkgDir source dest : FileProg C F Nat).Only onFiles := by
  refine Prog.only_context ?_
  unfold copy
  split
  · trivial
  · refine Prog.only_bind (Prog.only_mapError (Prog.only_try_ trivial)) fun temp => ?_
    refine Prog.only_bind (Prog.only_onError (Prog.only_mapError (Prog.only_try_ trivial))
      (Prog.only_ask trivial)) fun bytes => ?_
    exact Prog.only_bind (Prog.only_onError (Prog.only_mapError (Prog.only_try_ trivial))
      (Prog.only_ask trivial)) fun _ => trivial

/-- Put the new file in its place, with the one installed before set aside. -/
def placeFile (info : InstallInfo C F) (mode : InstallMode) : FileProg C F Unit := do
  match mode with
  | .upgradeDownloaded installedPath => backupFile installedPath
  | .upgradeBundled | .fresh => pure ()
  let _bytes ← (copyToPkgDir info.source info.dest).onError (rollbackFileOps mode info.dest)
  pure ()

theorem only_placeFile (info : InstallInfo C F) (mode : InstallMode) :
    (placeFile info mode).Only onFiles := by
  have hcopy : ((copyToPkgDir info.source info.dest).onError
      (rollbackFileOps mode info.dest) : FileProg C F Nat).Only onFiles :=
    Prog.only_onError (only_copyToPkgDir _ _) (only_rollbackFileOps _ _)
  cases mode with
  | fresh => exact Prog.only_bind hcopy fun _ => trivial
  | upgradeBundled => exact Prog.only_bind hcopy fun _ => trivial
  | upgradeDownloaded installedPath =>
      exact Prog.only_bind (only_backupFile installedPath) fun _ =>
        Prog.only_bind hcopy fun _ => trivial

/-- The transaction places the file and then finishes. -/
theorem executeInstallInner_eq (info : InstallInfo C F) (removeData : Bool) (mode : InstallMode) :
    executeInstallInner info removeData mode =
      (placeFile info mode).bind fun _ => finishInstall info removeData mode := by
  cases mode with
  | fresh =>
      simp only [executeInstallInner, placeFile, Prog.bind_eq, Prog.bind_bind]
      rfl
  | upgradeBundled =>
      simp only [executeInstallInner, placeFile, Prog.bind_eq, Prog.bind_bind]
      rfl
  | upgradeDownloaded installedPath =>
      simp only [executeInstallInner, placeFile, Prog.bind_eq, Prog.bind_bind]
      rfl

variable {root p : String} {dirs : String → Prop}

theorem only_restoreDataDir {dataDir : String} {backup : Option String}
    (hdirs : ∀ backupPath, backup = some backupPath → dirs dataDir ∧ dirs backupPath) :
    (restoreDataDir backup dataDir : FileProg C F Unit).Only
      fun c => within root p dirs (.inl c : Call C F _) := by
  cases backup with
  | none => trivial
  | some backupPath =>
      rcases hdirs backupPath rfl with ⟨hdata, hbackup⟩
      exact Prog.only_bind (Prog.only_ask hdata) fun _ =>
        Prog.only_bind (Prog.only_ask ⟨hbackup, hdata⟩) fun _ => trivial

theorem within_of_onFiles {β : Type} (c : FileCall C F β) (h : onFiles c) :
    within root p dirs (.inl c : Call C F β) :=
  within_of_addsData _ (addsData_of_leavesData _ h)

theorem only_backupDataDir {dataDir : String} (hdata : dirs dataDir)
    (hold : dirs (dataDir ++ ".old")) :
    (backupDataDir dataDir : FileProg C F (Option String)).Only
      fun c => within root p dirs (.inl c : Call C F _) := by
  refine Prog.only_bind (Prog.only_ask hold) fun _ => ?_
  refine Prog.only_bind (Prog.only_ask ⟨hdata, hold⟩) fun r => ?_
  rcases r with (_ | e) | _ <;> trivial

theorem returns_backupDataDir (dataDir : String) :
    (backupDataDir dataDir : FileProg C F (Option String)).Returns
      fun backup => ∀ backupPath, backup = some backupPath → backupPath = dataDir ++ ".old" := by
  intro _ r
  rcases r with (_ | e) | _
  · exact fun backupPath h => absurd h.symm (Option.some_ne_none backupPath)
  · trivial
  · exact fun backupPath h => (Option.some.inj h).symm

theorem only_dropBackups (mode : InstallMode) {backup : Option String}
    (hdirs : ∀ backupPath, backup = some backupPath → dirs backupPath) :
    (dropBackups mode backup : FileProg C F Unit).Only
      fun c => within root p dirs (.inl c : Call C F _) := by
  cases backup with
  | none =>
      cases mode with
      | upgradeDownloaded installedPath =>
          exact Prog.only_bind (Prog.only_bind (Prog.only_ask trivial) fun _ => trivial)
            fun _ => trivial
      | _ => trivial
  | some backupPath =>
      have hdrop : (do
          let _removed ← Prog.ask (.removeDirAll backupPath)
          pure () : FileProg C F Unit).Only fun c => within root p dirs (.inl c : Call C F _) :=
        Prog.only_bind (Prog.only_ask (hdirs backupPath rfl)) fun _ => trivial
      cases mode with
      | upgradeDownloaded installedPath =>
          exact Prog.only_bind (Prog.only_bind (Prog.only_ask trivial) fun _ => trivial)
            fun _ => hdrop
      | _ => exact hdrop

/-- The rest of an install, with the data directory set aside or not. -/
def finishWith (info : InstallInfo C F) (removeData : Bool) (mode : InstallMode)
    (backup : Option String) : FileProg C F (Package F) := do
  (Prog.try_ (.acquireVolume info.volumeMeta)).onError (do
    restoreDataDir backup info.volumeMeta.dataDir
    rollbackFileOps mode info.dest)
  let package ← (Prog.try_ (.newPackage info.dest info.packageFile)).onError
    (undoInstall info removeData mode backup)
  dropBackups mode backup
  pure package

/-- Only an upgrade that removes data sets it aside. -/
theorem finishInstall_eq (info : InstallInfo C F) (removeData : Bool) (mode : InstallMode) :
    finishInstall info removeData mode =
      if removeData = true ∧ mode ≠ .fresh then
        ((backupDataDir info.volumeMeta.dataDir).onError (rollbackFileOps mode info.dest)).bind
          fun backup => finishWith info removeData mode backup
      else finishWith info removeData mode none := by
  unfold finishInstall
  by_cases h : removeData = true ∧ mode ≠ .fresh
  · rw [if_pos h]
    have hcond : (removeData && decide (mode ≠ .fresh)) = true := by
      rw [Bool.and_eq_true, decide_eq_true_iff]
      exact h
    simp only [hcond, if_true]
    rfl
  · rw [if_neg h]
    have hcond : (removeData && decide (mode ≠ .fresh)) = false := by
      rw [← Bool.not_eq_true, Bool.and_eq_true, decide_eq_true_iff]
      exact h
    simp only [hcond, Bool.false_eq_true, if_false]
    rfl

theorem only_finishWith {info : InstallInfo C F} {removeData : Bool} {mode : InstallMode}
    {backup : Option String} (hname : info.packageName = p)
    (hmeta : info.volumeMeta.packageName = p) (hdir : info.volumeMeta.dataDir = joinPath root p)
    (hbackup : ∀ backupPath, backup = some backupPath →
      dirs (joinPath root p) ∧ dirs backupPath) :
    (finishWith info removeData mode backup).Only
      fun c => within root p dirs (.inl c : Call C F _) := by
  -- The rollback is about package files, and the restore about the two directories of the data.
  have hrollback : (rollbackFileOps mode info.dest : FileProg C F Unit).Only
      fun c => within root p dirs (.inl c : Call C F _) :=
    Prog.only_mono within_of_onFiles (only_rollbackFileOps mode info.dest)
  have hrestore : (restoreDataDir backup info.volumeMeta.dataDir : FileProg C F Unit).Only
      fun c => within root p dirs (.inl c : Call C F _) := by
    rw [hdir]
    exact only_restoreDataDir hbackup
  have hacquire : within root p dirs (.inl (.acquireVolume info.volumeMeta) : Call C F _) := by
    show info.volumeMeta.dataDir = joinPath root info.volumeMeta.packageName
    rw [hdir, hmeta]
  refine Prog.only_bind (Prog.only_onError (Prog.only_try_ hacquire)
    (Prog.only_bind hrestore fun _ => hrollback)) fun _ => ?_
  refine Prog.only_bind (Prog.only_onError (Prog.only_try_ trivial) ?_) fun package => ?_
  · refine Prog.only_bind (Prog.only_attempt hrollback) fun _ => ?_
    -- The volume that is purged is that of the package.
    cases backup with
    | some backupPath => exact Prog.only_bind (Prog.only_ask hname) fun _ => hrestore
    | none =>
        dsimp only
        split
        · exact Prog.only_bind (Prog.only_ask hname) fun _ => trivial
        · trivial
  · refine Prog.only_bind ?_ fun _ => trivial
    exact only_dropBackups mode fun backupPath h => (hbackup backupPath h).2

/-- What an install does to the data once its file is in place. It looks at the data
    set aside only if data is to be removed. -/
theorem only_finishInstall {info : InstallInfo C F} {removeData : Bool} {mode : InstallMode}
    (hname : info.packageName = p) (hmeta : info.volumeMeta.packageName = p)
    (hdir : info.volumeMeta.dataDir = joinPath root p) (hdata : dirs (joinPath root p))
    (hold : removeData = true → mode ≠ .fresh → dirs (joinPath root p ++ ".old")) :
    (finishInstall info removeData mode).Only
      fun c => within root p dirs (.inl c : Call C F _) := by
  rw [finishInstall_eq]
  split
  · next hremove =>
      have holddir := hold hremove.1 hremove.2
      refine Prog.only_bind_of_returns
        (Prog.only_onError ?_
          (Prog.only_mono within_of_onFiles (only_rollbackFileOps mode info.dest)))
        (Prog.returns_onError (returns_backupDataDir info.volumeMeta.dataDir) _)
        fun backup hbackup => only_finishWith hname hmeta hdir fun backupPath hpath => ?_
      · rw [hdir]
        exact only_backupDataDir hdata holddir
      · rw [hbackup backupPath hpath, hdir]
        exact ⟨hdata, holddir⟩
  · exact only_finishWith hname hmeta hdir
      fun backupPath h => absurd h.symm (Option.some_ne_none backupPath)

variable (env : DaemonEnv C F V)

/-- A volume that has been described is that of the package. -/
theorem volumeMetadata_eq_ok {path : Path} {file : F} {volumeMeta : PackageVolumeMetadata}
    (h : env.volumeMetadata path file = .ok volumeMeta) :
    volumeMeta.packageName = env.packageName file ∧
      volumeMeta.dataDir = joinPath env.dataRoot (env.packageName file) ∧
      isSafePathSegment (env.packageName file) = true := by
  rw [env.volumeMetadata_eq] at h
  exact packageVolumeMetadata_eq_ok h

theorem makes_createPackage (path : Path) (packageFile : F) :
    (transaction (createPackage env.toEnv path packageFile) : DaemonProg C F (Package F)).Only
      (makesPackage env.dataRoot) := by
  refine only_transaction ?_
  unfold createPackage
  cases hmeta : env.volumeMetadata path packageFile with
  | error e => trivial
  | ok volumeMeta =>
      rcases volumeMetadata_eq_ok env hmeta with ⟨hname, hdir, -⟩
      have hacquire : makesPackage env.dataRoot
          (.inl (.acquireVolume volumeMeta) : Call C F _) := by
        show volumeMeta.dataDir = joinPath env.dataRoot volumeMeta.packageName
        rw [hdir, hname]
      have hdescribed : ((Prog.done (.ok volumeMeta) : FileProg C F _).context
          "Failed to create volume metadata").Returns fun m => m = volumeMeta := rfl
      refine Prog.only_bind_of_returns trivial hdescribed fun m hm => ?_
      rw [hm]
      exact Prog.only_bind (Prog.only_try_ hacquire) fun _ => Prog.only_try_ trivial

theorem makes_createParsed (parsed : PackageParseResult F) :
    (createParsed env.toEnv parsed : DaemonProg C F _).Only (makesPackage env.dataRoot) := by
  unfold createParsed
  cases parsed.packageFile with
  | error e => trivial
  | ok packageFile => exact Prog.only_context (makes_createPackage env _ packageFile)

theorem only_loadParsedPackage (store : PackageStore F) (parsed : PackageParseResult F) :
    (loadParsedPackage env.toEnv store parsed : DaemonProg C F _).Only
      (addsData env.dataRoot) := by
  refine Prog.only_bind (Prog.only_attempt (Prog.only_mono addsData_of_makesPackage
    (makes_createParsed env parsed))) fun created => ?_
  cases created <;> trivial

/-- Loading the packages adds to the data at most. -/
theorem only_reloadPackages (files : Files C) (bundled downloaded : DirEntries) :
    (reloadPackages env.toEnv files bundled downloaded).Only (addsData env.dataRoot) := by
  refine Prog.only_bind (Prog.only_foldlM (fun store parsed => ?_) _ _) fun store =>
    Prog.only_foldlM (fun store parsed => only_loadParsedPackage env store parsed) _ _
  unfold loadBundledPackage
  dsimp only
  split
  · trivial
  · exact only_loadParsedPackage env _ parsed

/-- Recovering a package makes it at most. -/
theorem makes_tryRecover (store : PackageStore F) (packageName : String) (path : Path) :
    (tryRecover env.toEnv store packageName path).Only (makesPackage env.dataRoot) := by
  refine Prog.only_bind (Prog.only_attempt ?_) fun restored => ?_
  · refine Prog.only_bind (Prog.only_ask trivial) fun content => ?_
    cases parseContent env.toEnv content with
    | error e => trivial
    | ok packageFile => exact Prog.only_context (makes_createPackage env path packageFile)
  · cases restored <;> trivial

theorem only_tryRecover (store : PackageStore F) (packageName : String) (path : Path) :
    (tryRecover env.toEnv store packageName path).Only (addsData env.dataRoot) :=
  Prog.only_mono addsData_of_makesPackage (makes_tryRecover env store packageName path)

theorem makes_restoreBundled (store : PackageStore F) (packageName : String) :
    (restoreBundled env.toEnv store packageName).Only (makesPackage env.dataRoot) := by
  unfold restoreBundled
  split
  · exact makes_tryRecover env store packageName _
  · trivial

theorem only_restoreBundled (store : PackageStore F) (packageName : String) :
    (restoreBundled env.toEnv store packageName).Only (addsData env.dataRoot) :=
  Prog.only_mono addsData_of_makesPackage (makes_restoreBundled env store packageName)

variable {env} in
theorem packageNameOf_planned [LE V] {store : PackageStore F} {msg : InstallPackage C}
    {info : InstallInfo C F} {origPkg : Option (Package F)} {content : C}
    (h : Planned env.toEnv store msg info origPkg content) :
    packageNameOf env.toEnv msg = info.packageName := by
  have hparse : parseContent env.toEnv msg.source.content = .ok info.packageFile :=
    parseContent_eq_ok.mpr ⟨content, h.readable, h.parses⟩
  rw [packageNameOf, hparse, h.name]
  rfl

/-- What an install may do to the data. -/
theorem only_handleInstallPackage [LE V] [DecidableLE V] [ToString V] (store : PackageStore F)
    (msg : InstallPackage C) {dirs : String → Prop}
    (hdata : dirs (joinPath env.dataRoot (packageNameOf env.toEnv msg)))
    (hold : msg.removeData = true → store.get (packageNameOf env.toEnv msg) ≠ none →
      dirs (joinPath env.dataRoot (packageNameOf env.toEnv msg) ++ ".old")) :
    (handleInstallPackage env.toEnv store msg).Only
      (within env.dataRoot (packageNameOf env.toEnv msg) dirs) := by
  unfold handleInstallPackage
  cases hplan : planInstall env.toEnv store msg with
  | error e => trivial
  | ok plan =>
      rcases plan with ⟨info, origPkg⟩
      rcases planInstall_eq_ok hplan with ⟨content, hplanned⟩
      have hname := packageNameOf_planned hplanned
      rcases volumeMetadata_eq_ok env hplanned.volume with ⟨hmeta, hdir, -⟩
      rw [← hplanned.name] at hmeta hdir
      rw [hname] at hdata hold ⊢
      -- The package that is there has the name of the one to be installed.
      have horig : ∀ existing, origPkg = some existing → store.get info.packageName ≠ none := by
        intro existing h
        rw [← hplanned.orig, h]
        exact Option.some_ne_none existing
      -- Old data are set aside only in an upgrade that removes them.
      have hinstall : ∀ removeData mode, (removeData = true → mode ≠ .fresh →
          msg.removeData = true ∧ store.get info.packageName ≠ none) →
          (transaction (executeInstallInner info removeData mode) : DaemonProg C F _).Only
            (within env.dataRoot info.packageName dirs) := by
        intro removeData mode hremove
        rw [executeInstallInner_eq]
        exact only_transaction (Prog.only_bind
          (Prog.only_mono within_of_onFiles (only_placeFile info mode)) fun _ =>
            only_finishInstall rfl hmeta hdir hdata
              fun h h' => hold (hremove h h').1 (hremove h h').2)
      cases origPkg with
      | none =>
          refine Prog.only_bind (Prog.only_attempt (hinstall false .fresh ?_)) fun built => ?_
          · exact fun h => absurd h Bool.false_ne_true
          · cases built <;> trivial
      | some existing =>
          refine Prog.only_bind (Prog.only_attempt ?_) fun r => ?_
          · refine Prog.only_bind (Prog.only_context (Prog.only_try_ trivial)) fun _ => ?_
            exact Prog.only_attempt
              (hinstall msg.removeData _ fun h _ => ⟨h, horig existing rfl⟩)
          · rcases r with e | e | built
            · trivial
            · exact Prog.only_bind (Prog.only_mono within_of_addsData
                (only_tryRecover env _ _ _)) fun _ => trivial
            · trivial

/-- A removal takes data of its own package alone. -/
theorem only_handleRemovePackage (store : PackageStore F) (msg : RemovePackage)
    {dirs : String → Prop} :
    (handleRemovePackage env.toEnv store msg : DaemonProg C F _).Only
      (within env.dataRoot msg.packageName dirs) := by
  -- Loading a package again at most acquires its volume.
  have hrecover : ∀ store path, (tryRecover env.toEnv store msg.packageName path :
      DaemonProg C F _).Only (within env.dataRoot msg.packageName dirs) :=
    fun store path => Prog.only_mono within_of_addsData (only_tryRecover env store _ path)
  have hfile : ∀ store path failed, (removeFileAndRestore env.toEnv store msg.packageName path
      failed : DaemonProg C F _).Only (within env.dataRoot msg.packageName dirs) := by
    intro store path failed
    refine Prog.only_bind (Prog.only_attempt (only_transaction
      (Prog.only_mono within_of_onFiles (only_removeFileIfExists path)))) fun removed => ?_
    cases removed with
    | error e => trivial
    | ok _ =>
        exact Prog.only_bind (Prog.only_mono within_of_addsData
          (only_restoreBundled env store _)) fun _ => trivial
  refine Prog.only_bind ?_ fun _ => trivial
  unfold removePackage
  split
  · next package hstored =>
      split
      · trivial
      · refine Prog.only_bind (Prog.only_ask trivial) fun down => ?_
        cases down with
        | error e => trivial
        | ok _ =>
            refine Prog.only_bind ?_ fun purged => ?_
            · split
              · exact Prog.only_ask rfl
              · trivial
            · cases purged with
              | error e =>
                  exact Prog.only_bind (hrecover _ _) fun _ => trivial
              | ok _ => exact hfile _ _ _
  · split
    · split
      · trivial
      · exact hfile _ _ _
    · trivial

end Calls

end Daemon

end Ssam
