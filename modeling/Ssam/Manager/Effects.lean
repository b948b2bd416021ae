import Ssam.Manager.Transaction

/-!
# What an Install Does to the Files

The transaction of an install, told by the files it leaves and the files it passes
through, whatever fails in it.

Files are compared by what is found under each path, so a state of the directories
is a function from paths. There are few of them: the files as they were, with the
installed file set aside, with the new file in its place, and what the way back or
the removal of the backup makes of these. `InstallExit` says which of them an
install ends with, and `InstallDuring` which one the daemon leaves if it stops.

## Main definitions

* `setAside`, `rolledBack`, `cleaned`: What the steps make of the files.
* `BackupFails`, `copies`: How the first two steps go.
* `Beside`: The files, or the files and a temporary one.
* `InstallExit`: How an install ends.
* `InstallDuring`: The files while an install goes on.

## Theorems

* `wp_copy`, `wp_rollbackFileOps`, `wp_finishInstall`: One rule for each part.
* `rolledBack_setAside`, `rolledBack_replaced`: The files after the way back.
* `wp_executeInstallInner`: An install passes through `InstallDuring` and ends
  with `InstallExit`.
-/

namespace Ssam

namespace Manager

open Lib Function

section Lookup

variable {C : Type}

theorem get_insert_eq (files : Files C) (path : Path) (content : C) :
    HashMap.get (files.insert path content) = update files.get path (some content) := by
  funext p
  rw [HashMap.get_insert, update_apply]

theorem get_erase_eq (files : Files C) (path : Path) :
    HashMap.get (files.erase path) = update files.get path none := by
  funext p
  rw [HashMap.get_erase, update_apply]

/-- What was found under `src` is found under `dst`. -/
def renamed (at_ : Path → Option C) (src dst : Path) : Path → Option C :=
  update (update at_ src none) dst (at_ src)

theorem renameFile_of_some (dst : Path) {files : Files C} {src : Path} {content : C}
    (h : files.get src = some content) :
    (renameFile files src dst none).2 = .ok () ∧
      HashMap.get (renameFile files src dst none).1 = renamed files.get src dst := by
  simp only [renameFile, h, get_insert_eq, get_erase_eq, renamed, and_self]

theorem renameFile_of_fails (dst : Path) {files : Files C} {src : Path} {fault : Option Error}
    (h : fault ≠ none ∨ files.get src = none) :
    ∃ e, renameFile files src dst fault = (files, .error e) := by
  cases fault with
  | some e => exact ⟨e, rfl⟩
  | none =>
      have hsrc := h.resolve_left (not_not.mpr rfl)
      exact ⟨ioNotFound, by simp only [renameFile, hsrc]⟩

end Lookup

variable {C F V : Type} (k : FileKernel C) (env : Env C F V)

/-- The files with the installed one set aside. -/
def setAside (mode : InstallMode) (at_ : Path → Option C) : Path → Option C :=
  match mode with
  | .upgradeDownloaded installedPath => renamed at_ installedPath (backupPathOf installedPath)
  | .upgradeBundled | .fresh => at_

/-- The installed file cannot be set aside. -/
def BackupFails (mode : InstallMode) (at_ : Path → Option C) : Prop :=
  match mode with
  | .upgradeDownloaded installedPath =>
      k.rename installedPath (backupPathOf installedPath) ≠ none ∨ at_ installedPath = none
  | .upgradeBundled | .fresh => False

/-- A file can be copied into the directory. -/
def FileKernel.copies (at_ : Path → Option C) (dir : String) : Bool :=
  match k.createTemp, k.copyInto, k.persist with
  | .ok temp, .ok _, none => (at_ ⟨dir, temp.fileName⟩).isNone
  | _, _, _ => false

/-- What the way back makes of the files. -/
def rolledBack (mode : InstallMode) (dest : Path) (at_ : Path → Option C) : Path → Option C :=
  match mode with
  | .upgradeDownloaded installedPath =>
      if k.rename (backupPathOf installedPath) installedPath = none ∧
          (at_ (backupPathOf installedPath)).isSome then
        renamed at_ (backupPathOf installedPath) installedPath
      else at_
  | .upgradeBundled | .fresh => if k.removeFile dest = none then update at_ dest none else at_

/-- The files without the one set aside. -/
def cleaned (mode : InstallMode) (at_ : Path → Option C) : Path → Option C :=
  match mode with
  | .upgradeDownloaded installedPath =>
      if k.removeFile (backupPathOf installedPath) = none then
        update at_ (backupPathOf installedPath) none
      else at_
  | .upgradeBundled | .fresh => at_

/-- The files, or the files and a temporary file in the directory. -/
def Beside (at_ : Path → Option C) (dir : String) (at_' : Path → Option C) : Prop :=
  at_' = at_ ∨ ∃ (temp : TempName) (content : C),
    at_' = update at_ ⟨dir, temp.fileName⟩ (some content)

section Rules

variable {G : Files C → Prop} {files : Files C}

/-- A rename is carried out, or it fails and changes nothing. -/
theorem wp_rename {Q : Except Error Unit → Files C → Prop} {src dst : Path} (hG : G files)
    (hok : k.rename src dst = none → files.get src ≠ none →
      ∀ f, HashMap.get f = renamed files.get src dst → Q (.ok ()) f)
    (herr : k.rename src dst ≠ none ∨ files.get src = none → ∀ e, Q (.error e) files) :
    Prog.wp (k.serve env) (fun f _ => G f) Q (Prog.try_ (.rename src dst)) files := by
  refine (Prog.wp_try_ _ _ _).mpr ⟨hG, ?_⟩
  have hserve : k.serve env files (.rename src dst) =
      renameFile files src dst (k.rename src dst) := rfl
  rw [hserve]
  by_cases hfail : k.rename src dst ≠ none ∨ files.get src = none
  · rcases renameFile_of_fails dst hfail with ⟨e, he⟩
    rw [he]
    exact herr hfail e
  · rw [not_or, not_not] at hfail
    rcases Option.ne_none_iff_exists'.mp hfail.2 with ⟨content, hcontent⟩
    rcases renameFile_of_some dst hcontent with ⟨hok', hget⟩
    rw [hfail.1, hok']
    exact hok hfail.1 hfail.2 _ hget

/-- Removing a file leaves it gone, or fails and changes nothing. -/
theorem wp_removeFile {Q : Except Error (Except IoError Unit) → Files C → Prop} {path : Path}
    (hG : G files)
    (hQ : ∀ r f, HashMap.get f = (if k.removeFile path = none then
      update files.get path none else files.get) → Q (.ok r) f) :
    Prog.wp (k.serve env) (fun f _ => G f) Q (Prog.ask (.removeFile path)) files := by
  refine (Prog.wp_ask _ _ _).mpr ⟨hG, ?_⟩
  cases hfile : files.get path with
  | none =>
      simp only [FileKernel.serve, hfile]
      refine hQ _ _ ?_
      -- There was no file, so taking it away changes nothing.
      have hself : update files.get path none = files.get := by rw [← hfile, update_eq_self]
      rw [hself, ite_self]
  | some content =>
      cases hfault : k.removeFile path with
      | some e =>
          simp only [FileKernel.serve, hfile, hfault]
          refine hQ _ _ (if_neg ?_).symm
          rw [hfault]
          exact Option.some_ne_none e
      | none =>
          simp only [FileKernel.serve, hfile, hfault]
          exact hQ _ _ ((get_erase_eq files path).trans (if_pos hfault).symm)

theorem wp_rollbackFileOps {Q : Except Error Unit → Files C → Prop} {mode : InstallMode}
    {dest : Path} (hG : G files)
    (hQ : ∀ r f, HashMap.get f = rolledBack k mode dest files.get → Q r f) :
    Prog.wp (k.serve env) (fun f _ => G f) Q (rollbackFileOps mode dest) files := by
  -- Without a backup the rollback takes the new file away, if it can.
  have hremove : (rolledBack k .fresh dest files.get = rolledBack k mode dest files.get) →
      Prog.wp (k.serve env) (fun f _ => G f) Q (rollbackFileOps .fresh dest) files := by
    intro hmode
    rw [rollbackFileOps]
    simp only [Prog.bind_eq, Prog.wp_bind, Prog.wp_context, removeFileIfExists]
    refine wp_removeFile k env hG fun r f hf => ?_
    have hQ' : ∀ r, Q r f := fun r => hQ r f (by rw [hf, ← hmode]; rfl)
    rcases r with (_ | e) | _
    · exact hQ' _
    · exact hQ' _
    · exact hQ' _
  cases mode with
  | fresh => exact hremove rfl
  | upgradeBundled => exact hremove rfl
  | upgradeDownloaded installedPath =>
      rw [rollbackFileOps, Prog.wp_context]
      -- With one, the backup is renamed back over whatever is there.
      refine wp_rename k env hG (fun hfault hsome f hf => ?_) (fun hfail e => ?_)
      · refine hQ _ f ?_
        rw [hf, rolledBack, if_pos ⟨hfault, Option.isSome_iff_ne_none.mpr hsome⟩]
      · refine hQ _ files ?_
        rw [rolledBack, if_neg]
        rintro ⟨hfault, hsome⟩
        rcases hfail with h | h
        · exact h hfault
        · exact Option.isSome_iff_ne_none.mp hsome h

theorem copies_iff {at_ : Path → Option C} {dir : String} :
    k.copies at_ dir = true ↔ ∃ temp bytes, k.createTemp = .ok temp ∧
      at_ ⟨dir, temp.fileName⟩ = none ∧ k.copyInto = .ok bytes ∧ k.persist = none := by
  unfold FileKernel.copies
  split
  · next temp bytes htemp hcopy hpersist =>
      rw [Option.isNone_iff_eq_none]
      constructor
      · exact fun h => ⟨temp, bytes, htemp, h, hcopy, hpersist⟩
      · rintro ⟨temp', _, htemp', h, -, -⟩
        rw [htemp] at htemp'
        rw [Except.ok.inj htemp']
        exact h
  · next hne =>
      constructor
      · exact fun h => absurd h Bool.false_ne_true
      · rintro ⟨temp, bytes, htemp, -, hcopy, hpersist⟩
        exact absurd hpersist (hne temp bytes htemp hcopy)

/-- A temporary file is made where there is none of its name. -/
theorem wp_createTemp {Q : Except Error TempName → Files C → Prop} {dir : String} (hG : G files)
    (hok : ∀ temp, k.createTemp = .ok temp → files.get ⟨dir, temp.fileName⟩ = none → ∀ f,
      HashMap.get f = update files.get ⟨dir, temp.fileName⟩ (some k.unwritten) → Q (.ok temp) f)
    (herr : k.copies files.get dir = false → ∀ e, Q (.error e) files) :
    Prog.wp (k.serve env) (fun f _ => G f) Q (Prog.try_ (.createTemp dir)) files := by
  refine (Prog.wp_try_ _ _ _).mpr ⟨hG, ?_⟩
  cases htemp : k.createTemp with
  | error e =>
      simp only [FileKernel.serve, htemp]
      refine herr ?_ e
      rw [← Bool.not_eq_true, copies_iff, htemp]
      rintro ⟨_, _, ⟨⟩, -⟩
  | ok temp =>
      -- Even a name that was found may be taken when the file is opened.
      by_cases htaken : (files.get ⟨dir, temp.fileName⟩).isSome = true
      · simp only [FileKernel.serve, htemp, if_pos htaken]
        refine herr ?_ _
        rw [← Bool.not_eq_true, copies_iff, htemp]
        rintro ⟨temp', _, htemp', hfree, -⟩
        rw [← Except.ok.inj htemp'] at hfree
        exact Option.isSome_iff_ne_none.mp htaken hfree
      · simp only [FileKernel.serve, htemp, if_neg htaken]
        exact hok temp htemp (Option.not_isSome_iff_eq_none.mp htaken) _ (get_insert_eq _ _ _)

/-- A step that fails takes the temporary file away. -/
theorem wp_dropTemp {Q : Except Error Unit → Files C → Prop} {at_ : Path → Option C}
    {temp : Path} {content : C} (hG : G files) (hfree : at_ temp = none)
    (hfiles : files.get = update at_ temp (some content))
    (hQ : ∀ r f, HashMap.get f = at_ → Q r f) :
    Prog.wp (k.serve env) (fun f _ => G f) Q
      (Prog.ask (.dropTemp temp) : FileProg C F Unit) files := by
  refine (Prog.wp_ask _ _ _).mpr ⟨hG, hQ _ _ ?_⟩
  simp only [FileKernel.serve]
  rw [get_erase_eq, hfiles, update_idem, ← hfree, update_eq_self]

theorem wp_copy {Q : Except Error Nat → Files C → Prop} {source : Source C} {dest : Path}
    {content : C} (hsource : source.content = some content) (hdest : dest.parent ≠ "")
    (hG : ∀ f, Beside files.get dest.parent (HashMap.get f) → G f)
    (hok : k.copies files.get dest.parent = true → ∀ n f,
      HashMap.get f = update files.get dest (some content) → Q (.ok n) f)
    (herr : k.copies files.get dest.parent = false → ∀ e f,
      HashMap.get f = files.get → Q (.error e) f) :
    Prog.wp (k.serve env) (fun f _ => G f) Q (copy source dest) files := by
  rw [copy, if_neg hdest]
  simp only [Prog.bind_eq, Prog.pure_eq, Prog.wp_bind, Prog.wp_mapError]
  refine wp_createTemp k env (hG files (Or.inl rfl)) (fun temp htemp hfree f₁ hf₁ => ?_)
    fun hcopies e => herr hcopies _ _ rfl
  -- From here on there is a temporary file, which a failure takes away again.
  have hG₁ : ∀ (f : Files C) (written : C),
      HashMap.get f = update files.get ⟨dest.parent, temp.fileName⟩ (some written) → G f :=
    fun f written hf => hG f (Or.inr ⟨temp, written, hf⟩)
  simp only [Prog.branch_ok, Prog.wp_bind, Prog.wp_onError, Prog.wp_mapError, Prog.wp_try_]
  refine ⟨hG₁ f₁ _ hf₁, ?_⟩
  cases hcopy : k.copyInto with
  | error e =>
      have hcopies : k.copies files.get dest.parent = false := by
        rw [← Bool.not_eq_true, copies_iff, hcopy]
        rintro ⟨_, _, -, -, ⟨⟩, -⟩
      simp only [FileKernel.serve, hcopy, Prog.branch_error]
      exact wp_dropTemp k env (hG₁ f₁ _ hf₁) hfree hf₁ fun _ f hf => herr hcopies _ f hf
  | ok bytes =>
      simp only [FileKernel.serve, hcopy, hsource, Prog.branch_ok, Prog.wp_bind, Prog.wp_onError,
        Prog.wp_mapError, Prog.wp_try_]
      have hf₂ : HashMap.get (f₁.insert ⟨dest.parent, temp.fileName⟩ content) =
          update files.get ⟨dest.parent, temp.fileName⟩ (some content) := by
        rw [get_insert_eq, hf₁, update_idem]
      refine ⟨hG₁ _ _ hf₂, ?_⟩
      cases hpersist : k.persist with
      | some e =>
          have hcopies : k.copies files.get dest.parent = false := by
            rw [← Bool.not_eq_true, copies_iff, hpersist]
            rintro ⟨_, _, -, -, -, ⟨⟩⟩
          simp only [renameFile, Prog.branch_error]
          exact wp_dropTemp k env (hG₁ _ _ hf₂) hfree hf₂ fun _ f hf => herr hcopies _ f hf
      | none =>
          have hsome : HashMap.get (f₁.insert ⟨dest.parent, temp.fileName⟩ content)
              ⟨dest.parent, temp.fileName⟩ = some content := HashMap.get_insert_self _ _ _
          rcases renameFile_of_some dest hsome with ⟨hok₃, hf₃⟩
          rw [hok₃]
          simp only [Prog.branch_ok, Prog.wp_done]
          refine hok ((copies_iff k).mpr ⟨temp, bytes, htemp, hfree, hcopy, hpersist⟩) bytes _ ?_
          rw [hf₃, renamed, hsome, hf₂, update_idem, ← hfree, update_eq_self]

/-- The data directory is set aside without touching the files. -/
theorem wp_backupDataDir {Q : Except Error (Option String) → Files C → Prop} {dataDirPath : String}
    (hG : G files)
    (hok : (∀ e, k.renameDir dataDirPath (dataDirPath ++ ".old") ≠ .error (.other e)) →
      ∀ backup, Q (.ok backup) files)
    (herr : (∃ e, k.renameDir dataDirPath (dataDirPath ++ ".old") = .error (.other e)) →
      ∀ e, Q (.error e) files) :
    Prog.wp (k.serve env) (fun f _ => G f) Q (backupDataDir dataDirPath) files := by
  rw [backupDataDir]
  simp only [Prog.bind_eq, Prog.wp_bind, Prog.wp_ask, Prog.branch_ok]
  refine ⟨hG, hG, ?_⟩
  simp only [FileKernel.serve]
  rcases hrename : k.renameDir dataDirPath (dataDirPath ++ ".old") with (_ | e) | _
  · exact hok (fun e h => absurd (hrename.symm.trans h) (by rintro ⟨⟩)) none
  · exact herr ⟨e, hrename⟩ _
  · exact hok (fun e h => absurd (hrename.symm.trans h) (by rintro ⟨⟩)) _

theorem wp_restoreDataDir {Q : Except Error Unit → Files C → Prop} {dataBackupPath : Option String}
    {dataDirPath : String} (hG : G files) (hQ : Q (.ok ()) files) :
    Prog.wp (k.serve env) (fun f _ => G f) Q (restoreDataDir dataBackupPath dataDirPath) files := by
  cases dataBackupPath with
  | none => exact hQ
  | some backupPath =>
      rw [restoreDataDir]
      simp only [Prog.bind_eq, Prog.pure_eq, Prog.wp_bind, Prog.wp_ask, Prog.branch_ok]
      exact ⟨hG, hG, hQ⟩

theorem wp_undoInstall {Q : Except Error Unit → Files C → Prop} {info : InstallInfo C F}
    {removeData : Bool} {mode : InstallMode} {dataBackupPath : Option String} (hG : G files)
    (hGr : ∀ f, HashMap.get f = rolledBack k mode info.dest files.get → G f)
    (hQ : ∀ r f, HashMap.get f = rolledBack k mode info.dest files.get → Q r f) :
    Prog.wp (k.serve env) (fun f _ => G f) Q (undoInstall info removeData mode dataBackupPath)
      files := by
  unfold undoInstall
  simp only [Prog.bind_eq, Prog.wp_bind, Prog.wp_attempt]
  refine wp_rollbackFileOps k env hG fun r f hf => ?_
  have hGf := hGr f hf
  rw [Prog.branch_ok]
  cases dataBackupPath with
  | some backupPath =>
      simp only [Prog.wp_bind, Prog.wp_ask, Prog.branch_ok]
      exact ⟨hGf, wp_restoreDataDir k env hGf (hQ _ f hf)⟩
  | none =>
      dsimp only
      split
      · simp only [Prog.wp_bind, Prog.wp_ask, Prog.branch_ok]
        exact ⟨hGf, hQ _ f hf⟩
      · exact hQ _ f hf

/-- The old data are removed last, and what comes of that is not looked at. -/
theorem wp_dropDataBackup {Q : Except Error Unit → Files C → Prop}
    {dataBackupPath : Option String} (hG : G files) (hQ : Q (.ok ()) files) :
    Prog.wp (k.serve env) (fun f _ => G f) Q
      (match dataBackupPath with
      | some backupPath => do
          let _removed ← Prog.ask (.removeDirAll backupPath)
          pure ()
      | none => pure () : FileProg C F Unit) files := by
  cases dataBackupPath with
  | none => exact hQ
  | some backupPath =>
      simp only [Prog.bind_eq, Prog.wp_bind, Prog.wp_ask, Prog.branch_ok]
      exact ⟨hG, hQ⟩

theorem wp_dropBackups {Q : Except Error Unit → Files C → Prop} {mode : InstallMode}
    {dataBackupPath : Option String} (hG : G files)
    (hGc : ∀ f, HashMap.get f = cleaned k mode files.get → G f)
    (hQ : ∀ f, HashMap.get f = cleaned k mode files.get → Q (.ok ()) f) :
    Prog.wp (k.serve env) (fun f _ => G f) Q
      (dropBackups mode dataBackupPath : FileProg C F Unit) files := by
  unfold dropBackups
  cases mode with
  | fresh => exact wp_dropDataBackup k env (hGc files rfl) (hQ files rfl)
  | upgradeBundled => exact wp_dropDataBackup k env (hGc files rfl) (hQ files rfl)
  | upgradeDownloaded installedPath =>
      simp only [Prog.bind_eq, Prog.wp_bind]
      exact wp_removeFile k env hG fun r f hf =>
        wp_dropDataBackup k env (hGc f hf) (hQ f hf)

/-- The steps that follow the copy all go well. -/
def Finishes (info : InstallInfo C F) (removeData : Bool) (mode : InstallMode) : Prop :=
  (removeData = true → mode ≠ .fresh → ∀ e,
    k.renameDir info.volumeMeta.dataDir (info.volumeMeta.dataDir ++ ".old") ≠ .error (.other e)) ∧
    k.acquireVolume = .ok () ∧ k.newPackage = none ∧
      env.buildPackage info.dest info.packageFile = .ok ()

/-- Once the new file is in its place the package is made, or the way back is
    taken. -/
theorem wp_finishInstall {Q : Except Error (Package F) → Files C → Prop} {info : InstallInfo C F}
    {removeData : Bool} {mode : InstallMode} (hG : G files)
    (hGr : ¬ Finishes k env info removeData mode →
      ∀ f, HashMap.get f = rolledBack k mode info.dest files.get → G f)
    (hGc : Finishes k env info removeData mode →
      ∀ f, HashMap.get f = cleaned k mode files.get → G f)
    (hok : Finishes k env info removeData mode → ∀ f,
      HashMap.get f = cleaned k mode files.get → Q (.ok ⟨info.packageFile, info.dest⟩) f)
    (herr : ¬ Finishes k env info removeData mode → ∀ e f,
      HashMap.get f = rolledBack k mode info.dest files.get → Q (.error e) f) :
    Prog.wp (k.serve env) (fun f _ => G f) Q (finishInstall info removeData mode) files := by
  -- A failure before the package is made takes back the files.
  have hback : ¬ Finishes k env info removeData mode → ∀ e,
      Prog.wp (k.serve env) (fun f _ => G f) (fun _ f => Q (.error e) f)
        (rollbackFileOps mode info.dest : FileProg C F Unit) files :=
    fun hfail e => wp_rollbackFileOps k env hG fun _ f hf => herr hfail e f hf
  -- What follows is the same with or without old data set aside.
  have hrest : (removeData = true → mode ≠ .fresh → ∀ e, k.renameDir info.volumeMeta.dataDir
        (info.volumeMeta.dataDir ++ ".old") ≠ .error (.other e)) →
      ∀ dataBackupPath, Prog.wp (k.serve env) (fun f _ => G f) Q (do
      (Prog.try_ (.acquireVolume info.volumeMeta)).onError (do
        restoreDataDir dataBackupPath info.volumeMeta.dataDir
        rollbackFileOps mode info.dest)
      let package ← (Prog.try_ (.newPackage info.dest info.packageFile)).onError
        (undoInstall info removeData mode dataBackupPath)
      dropBackups mode dataBackupPath
      pure package) files := by
    intro hdata dataBackupPath
    simp only [Prog.bind_eq, Prog.pure_eq, Prog.wp_bind, Prog.wp_onError, Prog.wp_try_]
    refine ⟨hG, ?_⟩
    simp only [FileKernel.serve]
    cases hacquire : k.acquireVolume with
    | error e =>
        have hfail : ¬ Finishes k env info removeData mode := by
          rintro ⟨-, h, -⟩
          exact absurd (hacquire.symm.trans h) (by rintro ⟨⟩)
        simp only [Prog.branch_error, Prog.wp_bind]
        exact wp_restoreDataDir k env hG (hback hfail e)
    | ok _ =>
        simp only [Prog.branch_ok, Prog.wp_bind, Prog.wp_onError, Prog.wp_try_]
        refine ⟨hG, ?_⟩
        -- From the acquired volume on, a failure also gives that back.
        have hundo : ¬ Finishes k env info removeData mode → ∀ e,
            Prog.wp (k.serve env) (fun f _ => G f) (fun _ f => Q (.error e) f)
              (undoInstall info removeData mode dataBackupPath : FileProg C F Unit) files :=
          fun hfail e => wp_undoInstall k env hG (hGr hfail) fun _ f hf => herr hfail e f hf
        cases hnew : k.newPackage with
        | some e =>
            simp only [FileKernel.serve, hnew, Prog.branch_error]
            refine hundo ?_ e
            rintro ⟨-, -, h, -⟩
            exact Option.some_ne_none e (hnew.symm.trans h)
        | none =>
            cases hbuild : env.buildPackage info.dest info.packageFile with
            | error e =>
                simp only [FileKernel.serve, hnew, hbuild, Except.map, Prog.branch_error]
                refine hundo ?_ e
                rintro ⟨-, -, -, h⟩
                exact absurd (hbuild.symm.trans h) (by rintro ⟨⟩)
            | ok _ =>
                have hfinish : Finishes k env info removeData mode :=
                  ⟨hdata, hacquire, hnew, hbuild⟩
                simp only [FileKernel.serve, hnew, hbuild, Except.map, Prog.branch_ok,
                  Prog.wp_bind]
                exact wp_dropBackups k env hG (hGc hfinish) fun f hf => hok hfinish f hf
  rw [finishInstall]
  simp only [Prog.bind_eq]
  split
  · next hremove =>
      rw [Bool.and_eq_true_iff, decide_eq_true_iff] at hremove
      rw [Prog.wp_bind, Prog.wp_onError]
      refine wp_backupDataDir k env hG (fun hdata backup => hrest (fun _ _ => hdata) backup) ?_
      rintro ⟨e', he'⟩ e
      refine hback ?_ e
      rintro ⟨h, -⟩
      exact h hremove.1 hremove.2 e' he'
  · next hkeep =>
      refine hrest (fun h hmode => absurd ?_ hkeep) none
      rw [Bool.and_eq_true_iff, decide_eq_true_iff]
      exact ⟨h, hmode⟩

/-- The files while an install goes on. -/
inductive InstallDuring (info : InstallInfo C F) (content : C) (removeData : Bool)
    (mode : InstallMode) (at_ : Path → Option C) :
    (Path → Option C) → Prop
  | untouched : InstallDuring info content removeData mode at_ at_
  | settingAside (at_' : Path → Option C) (hbackup : ¬ BackupFails k mode at_)
      (h : Beside (setAside mode at_) info.dest.parent at_') :
      InstallDuring info content removeData mode at_ at_'
  | replaced (hbackup : ¬ BackupFails k mode at_)
      (hcopy : k.copies (setAside mode at_) info.dest.parent = true) :
      InstallDuring info content removeData mode at_
        (update (setAside mode at_) info.dest (some content))
  | rolledBack (hbackup : ¬ BackupFails k mode at_)
      (hcopy : k.copies (setAside mode at_) info.dest.parent = true)
      (hfinish : ¬ Finishes k env info removeData mode) :
      InstallDuring info content removeData mode at_
        (rolledBack k mode info.dest (update (setAside mode at_) info.dest (some content)))
  | cleaned (hbackup : ¬ BackupFails k mode at_)
      (hcopy : k.copies (setAside mode at_) info.dest.parent = true)
      (hfinish : Finishes k env info removeData mode) :
      InstallDuring info content removeData mode at_
        (cleaned k mode (update (setAside mode at_) info.dest (some content)))

/-- How an install ends, and the files it leaves. -/
inductive InstallExit (info : InstallInfo C F) (content : C) (removeData : Bool)
    (mode : InstallMode) (at_ : Path → Option C) :
    Except Error (Package F) → (Path → Option C) → Prop
  | backupFailed (e : Error) (hbackup : BackupFails k mode at_) :
      InstallExit info content removeData mode at_ (.error e) at_
  | copyFailed (e : Error) (hbackup : ¬ BackupFails k mode at_)
      (hcopy : k.copies (setAside mode at_) info.dest.parent = false) :
      InstallExit info content removeData mode at_ (.error e)
        (rolledBack k mode info.dest (setAside mode at_))
  | finishFailed (e : Error) (hbackup : ¬ BackupFails k mode at_)
      (hcopy : k.copies (setAside mode at_) info.dest.parent = true)
      (hfinish : ¬ Finishes k env info removeData mode) :
      InstallExit info content removeData mode at_ (.error e)
        (rolledBack k mode info.dest (update (setAside mode at_) info.dest (some content)))
  | installed (hbackup : ¬ BackupFails k mode at_)
      (hcopy : k.copies (setAside mode at_) info.dest.parent = true)
      (hfinish : Finishes k env info removeData mode) :
      InstallExit info content removeData mode at_ (.ok ⟨info.packageFile, info.dest⟩)
        (cleaned k mode (update (setAside mode at_) info.dest (some content)))

/-- The transaction of an install ends in one of these ways, and passes through
    these states of the files. -/
theorem wp_executeInstallInner (files : Files C) {info : InstallInfo C F} (removeData : Bool)
    (mode : InstallMode)
    {content : C} (hsource : info.source.content = some content) (hdest : info.dest.parent ≠ "") :
    Prog.wp (k.serve env)
      (fun f _ => InstallDuring k env info content removeData mode files.get (HashMap.get f))
      (fun r f => InstallExit k env info content removeData mode files.get r (HashMap.get f))
      (executeInstallInner info removeData mode) files := by
  -- What follows is the same whether or not a file was set aside.
  have hrest : ¬ BackupFails k mode files.get → ∀ f,
      HashMap.get f = setAside mode files.get →
      Prog.wp (k.serve env)
      (fun f _ => InstallDuring k env info content removeData mode files.get (HashMap.get f))
        (fun r f => InstallExit k env info content removeData mode files.get r (HashMap.get f))
        (do
          let _bytes ← (copyToPkgDir info.source info.dest).onError (rollbackFileOps mode info.dest)
          finishInstall info removeData mode) f := by
    intro hbackup f hf
    simp only [Prog.bind_eq, Prog.wp_bind, Prog.wp_onError, copyToPkgDir, Prog.wp_context]
    refine wp_copy k env hsource hdest (fun g hg => ?_) (fun hcopy n g hg => ?_)
      (fun hcopy e g hg => ?_)
    · rw [hf] at hg
      exact InstallDuring.settingAside _ hbackup hg
    · -- The copy is in place.
      rw [hf] at hcopy hg
      simp only [Prog.branch_ok]
      refine wp_finishInstall k env ?_ ?_ ?_ ?_ ?_
      · rw [hg]
        exact InstallDuring.replaced hbackup hcopy
      · intro hfinish t ht
        rw [ht, hg]
        exact InstallDuring.rolledBack hbackup hcopy hfinish
      · intro hfinish t ht
        rw [ht, hg]
        exact InstallDuring.cleaned hbackup hcopy hfinish
      · intro hfinish t ht
        rw [ht, hg]
        exact InstallExit.installed hbackup hcopy hfinish
      · intro hfinish e t ht
        rw [ht, hg]
        exact InstallExit.finishFailed e hbackup hcopy hfinish
    · -- There is no copy, and the rollback has only the backup to put back.
      rw [hf] at hcopy hg
      simp only [Prog.branch_error]
      refine wp_rollbackFileOps k env ?_ fun _ t ht => ?_
      · rw [hg]
        exact InstallDuring.settingAside _ hbackup (Or.inl rfl)
      · rw [hg] at ht
        rw [Prog.branch_error, ht]
        exact InstallExit.copyFailed _ hbackup hcopy
  unfold executeInstallInner
  cases mode with
  | fresh => exact hrest (fun h => h) files rfl
  | upgradeBundled => exact hrest (fun h => h) files rfl
  | upgradeDownloaded installedPath =>
      simp only [Prog.bind_eq, Prog.wp_bind, backupFile, Prog.wp_context]
      refine wp_rename k env InstallDuring.untouched (fun hfault hsome f hf => ?_)
        (fun hfail e => InstallExit.backupFailed _ hfail)
      refine hrest ?_ f hf
      rintro (h | h)
      · exact h hfault
      · exact hsome h

end Rules

/-- The file operation of the way back is carried out. -/
def RollsBack (mode : InstallMode) (dest : Path) : Prop :=
  match mode with
  | .upgradeDownloaded installedPath =>
      k.rename (backupPathOf installedPath) installedPath = none
  | .upgradeBundled | .fresh => k.removeFile dest = none

section RolledBack

variable {k} {at_ : Path → Option C} {dest installedPath : Path} {content : C}

/-- A file renamed and renamed back is where it was, and what it was renamed over
    is gone. -/
theorem renamed_renamed {src dst : Path} (h : dst ≠ src) :
    renamed (renamed at_ src dst) dst src = update at_ dst none := by
  funext path
  simp only [renamed, update_apply, if_true]
  by_cases hsrc : path = src
  · rw [if_pos hsrc, if_neg fun hdst => h (hdst.symm.trans hsrc), hsrc]
  · rw [if_neg hsrc]
    by_cases hdst : path = dst
    · rw [if_pos hdst, if_pos hdst]
    · simp only [if_neg hdst, if_neg hsrc]

/-- The files after the way back from a copy that failed. -/
theorem rolledBack_setAside (hroll : RollsBack k (.upgradeDownloaded installedPath) dest)
    (hbackup : ¬ BackupFails k (.upgradeDownloaded installedPath) at_) :
    rolledBack k (.upgradeDownloaded installedPath) dest
        (setAside (.upgradeDownloaded installedPath) at_) =
      update at_ (backupPathOf installedPath) none := by
  have hinstalled : at_ installedPath ≠ none := fun h => hbackup (Or.inr h)
  have hback : setAside (.upgradeDownloaded installedPath) at_ (backupPathOf installedPath) =
      at_ installedPath := update_self _ _ _
  rw [rolledBack, if_pos ⟨hroll, hback ▸ Option.isSome_iff_ne_none.mpr hinstalled⟩]
  exact renamed_renamed (backupPathOf_ne installedPath)

/-- The files after the way back from a later failure: at the path of the backup
    nothing, at the installed path what the path of the backup held, and at the
    destination the new file unless it is one of these. -/
theorem rolledBack_replaced (hroll : RollsBack k (.upgradeDownloaded installedPath) dest)
    (hbackup : ¬ BackupFails k (.upgradeDownloaded installedPath) at_) (path : Path) :
    rolledBack k (.upgradeDownloaded installedPath) dest
        (update (setAside (.upgradeDownloaded installedPath) at_) dest (some content)) path =
      if path = installedPath then
        if dest = backupPathOf installedPath then some content else at_ installedPath
      else if path = backupPathOf installedPath then none
      else if path = dest then some content
      else at_ path := by
  have hinstalled : at_ installedPath ≠ none := fun h => hbackup (Or.inr h)
  -- What the rollback puts back is the backup, unless the new file took its name.
  have hback : update (setAside (.upgradeDownloaded installedPath) at_) dest (some content)
      (backupPathOf installedPath) =
        if dest = backupPathOf installedPath then some content else at_ installedPath := by
    rw [update_apply, setAside, renamed, update_self]
    simp only [eq_comm]
  have hsome : (update (setAside (.upgradeDownloaded installedPath) at_) dest (some content)
      (backupPathOf installedPath)).isSome = true := by
    rw [hback]
    split
    · rfl
    · exact Option.isSome_iff_ne_none.mpr hinstalled
  rw [rolledBack, if_pos ⟨hroll, hsome⟩, renamed, hback, update_apply]
  by_cases hpath : path = installedPath
  · rw [if_pos hpath, if_pos hpath]
  · rw [if_neg hpath, if_neg hpath, update_apply]
    by_cases hb : path = backupPathOf installedPath
    · rw [if_pos hb, if_pos hb]
    · rw [if_neg hb, if_neg hb, update_apply, setAside, renamed, update_apply, if_neg hb,
        update_apply, if_neg hpath]

end RolledBack

end Manager

end Ssam
