import Mathlib.Logic.Function.Basic
import Ssam.Lib.Prog
import Ssam.Manager.Store

/-!
# Installing a Package File

The transaction that puts a package file into the downloaded directory and makes the
package of it, with the way back it takes where one of its steps fails.

An upgrade of a downloaded package first sets the installed file aside, by renaming
it. The new file is copied beside the place it goes to and renamed into it. Where
something fails after that, the file set aside is renamed back; where none was
set aside, the place is cleared.

## Main definitions

* `InstallMode`, `InstallInfo`: What is installed, and over what.
* `FileCall`: The calls a transaction makes.
* `copy`: A file copied next to its destination and renamed into it.
* `rollbackFileOps`, `backupDataDir`: The two halves of the way back.
* `executeInstallInner`: The transaction.
* `FileKernel`: What the calls are answered.
-/

namespace Ssam

namespace Manager

open Lib

/-- What is installed before, as the file operations see it. -/
inductive InstallMode where
  | fresh
  | upgradeBundled
  | upgradeDownloaded (installedPath : Path)
  deriving DecidableEq

/-- The file an install starts from. It lies outside the package directories, so
    that nothing done there changes it. -/
structure Source (C : Type) where
  path : String
  exists_ : Bool
  canonical : Except Error String
  /-- What is in it, if it is a regular file. -/
  content : Option C

/-- A package file to be installed. -/
structure InstallInfo (C F : Type) where
  packageName : String
  packageFile : F
  /-- Where the file is installed from. -/
  source : Source C
  dest : Path
  volumeMeta : PackageVolumeMetadata

/-- Why the system refused a call, as far as it is told apart. -/
inductive IoError where
  | notFound
  | other (e : Error)

/-- A call a transaction makes, with the type of its answer. -/
inductive FileCall (C F : Type) : Type → Type where
  | createTemp (dir : String) : FileCall C F (Except Error TempName)
  | copyInto (source : Source C) (temp : Path) : FileCall C F (Except Error Nat)
  | persist (temp dest : Path) : FileCall C F (Except Error Unit)
  | dropTemp (temp : Path) : FileCall C F Unit
  | rename (src dst : Path) : FileCall C F (Except Error Unit)
  | removeFile (path : Path) : FileCall C F (Except IoError Unit)
  | removeDirAll (path : String) : FileCall C F (Except Error Unit)
  | renameDir (src dst : String) : FileCall C F (Except IoError Unit)
  | acquireVolume (volumeMeta : PackageVolumeMetadata) : FileCall C F (Except Error Unit)
  | purgeVolume (name : String) : FileCall C F (Except Error Unit)
  | newPackage (path : Path) (packageFile : F) : FileCall C F (Except Error (Package F))

/-- A program over these calls. -/
abbrev FileProg (C F : Type) := Prog (FileCall C F) Error

section Programs

variable {C F : Type}

/-- Copy a file next to `dest` and rename the copy into it, so that `dest` is
    never seen half written. A copy that fails is taken away again. -/
def copy (source : Source C) (dest : Path) : FileProg C F Nat :=
  if dest.parent = "" then
    let shown := dest.display.quote
    Prog.fail [s!"Destination has no parent directory: {shown}"]
  else do
    let dir := dest.parent.quote
    let temp ← (Prog.try_ (.createTemp dest.parent)).mapError fun e =>
      let reason := e.text
      [s!"Cannot create temp file in {dir}: {reason}"]
    -- The copy goes to a temporary file in the same directory.
    let tempPath : Path := ⟨dest.parent, temp.fileName⟩
    let bytes ← ((Prog.try_ (.copyInto source tempPath)).mapError fun e =>
      let shownSource := source.path.quote
      let shownTemp := tempPath.display.quote
      let reason := e.text
      [s!"Cannot copy {shownSource} to {shownTemp}: {reason}"]).onError
        (Prog.ask (.dropTemp tempPath))
    -- Only the rename makes it visible under the name.
    ((Prog.try_ (.persist tempPath dest)).mapError fun e =>
      let shownDest := dest.display.quote
      let reason := e.text
      [s!"Cannot rename temp file to {shownDest}: {reason}"]).onError
        (Prog.ask (.dropTemp tempPath))
    pure bytes

def copyToPkgDir (source : Source C) (dest : Path) : FileProg C F Nat :=
  let shownSource := source.path.quote
  let shownDest := dest.display.quote
  (copy source dest).context s!"Failed to copy package file from {shownSource} to {shownDest}"

/-- Remove a file that may be missing: was it there? -/
def removeFileIfExists (path : Path) : FileProg C F Bool := do
  match ← Prog.ask (.removeFile path) with
  | .ok () => pure true
  | .error .notFound => pure false
  | .error (.other e) => Prog.fail e

def backupFile (path : Path) : FileProg C F Unit :=
  let shown := path.display.quote
  (Prog.try_ (.rename path (backupPathOf path))).context
    s!"Failed to backup package file: {shown}"

/-- Bring the downloaded directory back to what it was. -/
def rollbackFileOps (mode : InstallMode) (dest : Path) : FileProg C F Unit :=
  match mode with
  | .upgradeDownloaded installedPath =>
      let shownBackup := (backupPathOf installedPath).display.quote
      let shown := installedPath.display.quote
      (Prog.try_ (.rename (backupPathOf installedPath) installedPath)).context
        s!"File rollback failed (rename {shownBackup} → {shown})"
  | .upgradeBundled | .fresh => do
      let shown := dest.display.quote
      let _removed ← (removeFileIfExists dest).context
        s!"File rollback failed (remove {shown})"
      pure ()

/-- Set the data directory aside. `none` if there is no such directory. -/
def backupDataDir (dataDirPath : String) : FileProg C F (Option String) := do
  let old := dataDirPath ++ ".old"
  -- A backup left over from before is in the way of the rename.
  let _removed ← Prog.ask (.removeDirAll old)
  match ← Prog.ask (.renameDir dataDirPath old) with
  | .ok () => pure (some old)
  | .error .notFound => pure none
  | .error (.other e) => Prog.fail ("Failed to back up data directory for rollback" :: e)

/-- Put the data directory that was set aside back in its place. -/
def restoreDataDir (dataBackupPath : Option String) (dataDirPath : String) : FileProg C F Unit :=
  match dataBackupPath with
  | none => pure ()
  | some backupPath => do
      let _removed ← Prog.ask (.removeDirAll dataDirPath)
      let _restored ← Prog.ask (.renameDir backupPath dataDirPath)
      pure ()

/-- After a package could not be made: back to the files and the data from before. -/
def undoInstall (info : InstallInfo C F) (removeData : Bool) (mode : InstallMode)
    (dataBackupPath : Option String) : FileProg C F Unit := do
  let _rolledBack ← (rollbackFileOps mode info.dest).attempt
  match dataBackupPath with
  | some backupPath => do
      let _purged ← Prog.ask (.purgeVolume info.packageName)
      restoreDataDir (some backupPath) info.volumeMeta.dataDir
  | none =>
      if removeData || mode = .fresh then do
        let _purged ← Prog.ask (.purgeVolume info.packageName)
        pure ()
      else pure ()

/-- After the package was made: the backups are no longer needed. -/
def dropBackups (mode : InstallMode) (dataBackupPath : Option String) : FileProg C F Unit := do
  match mode with
  | .upgradeDownloaded installedPath => do
      let _removed ← Prog.ask (.removeFile (backupPathOf installedPath))
      pure ()
  | .upgradeBundled | .fresh => pure ()
  match dataBackupPath with
  | some backupPath => do
      let _removed ← Prog.ask (.removeDirAll backupPath)
      pure ()
  | none => pure ()

/-- What follows once the file is in its place. -/
def finishInstall (info : InstallInfo C F) (removeData : Bool) (mode : InstallMode) :
    FileProg C F (Package F) := do
  let dataDirPath := info.volumeMeta.dataDir
  -- The data of a fresh install is nobody's yet.
  let dataBackupPath ←
    if removeData && mode ≠ .fresh then
      (backupDataDir dataDirPath).onError (rollbackFileOps mode info.dest)
    else pure none
  (Prog.try_ (.acquireVolume info.volumeMeta)).onError (do
    restoreDataDir dataBackupPath dataDirPath
    rollbackFileOps mode info.dest)
  let package ← (Prog.try_ (.newPackage info.dest info.packageFile)).onError
    (undoInstall info removeData mode dataBackupPath)
  -- From here on the installation has succeeded.
  dropBackups mode dataBackupPath
  pure package

/-- The transaction of an install. -/
def executeInstallInner (info : InstallInfo C F) (removeData : Bool) (mode : InstallMode) :
    FileProg C F (Package F) := do
  match mode with
  | .upgradeDownloaded installedPath => backupFile installedPath
  | .upgradeBundled | .fresh => pure ()
  let _bytes ← (copyToPkgDir info.source info.dest).onError (rollbackFileOps mode info.dest)
  finishInstall info removeData mode

end Programs

/-- What the calls are answered, apart from what the files decide. `none` is a call
    that is carried out. -/
structure FileKernel (C : Type) where
  /-- What is in a temporary file before the copy is complete. -/
  unwritten : C
  createTemp : Except Error TempName
  copyInto : Except Error Nat
  persist : Option Error
  rename : Path → Path → Option Error
  removeFile : Path → Option Error
  removeDirAll : String → Except Error Unit
  renameDir : String → String → Except IoError Unit
  acquireVolume : Except Error Unit
  purgeVolume : String → Except Error Unit
  newPackage : Option Error

variable {C F V : Type}

/-- Every call is carried out. -/
def FileKernel.fine (unwritten : C) : FileKernel C where
  unwritten := unwritten
  createTemp := .ok ⟨"x", by decide⟩
  copyInto := .ok 0
  persist := none
  rename _ _ := none
  removeFile _ := none
  removeDirAll _ := .ok ()
  renameDir _ _ := .ok ()
  acquireVolume := .ok ()
  purgeVolume _ := .ok ()
  newPackage := none

/-- Rename a file that exists over whatever is at `dst`. -/
def renameFile (files : Files C) (src dst : Path) : Option Error → Files C × Except Error Unit
  | some e => (files, .error e)
  | none =>
      match files.get src with
      | none => (files, .error ioNotFound)
      | some content => ((files.erase src).insert dst content, .ok ())

/-- Carry a call out. A package that cannot be made of its file is not made here
    either. -/
def FileKernel.serve (k : FileKernel C) (env : Env C F V) {α : Type} (files : Files C) :
    FileCall C F α → Files C × α
  | .createTemp dir =>
      match k.createTemp with
      | .error e => (files, .error e)
      | .ok temp =>
          -- The file is opened only if there is none of the name.
          if (files.get ⟨dir, temp.fileName⟩).isSome then
            (files, .error ["File exists (os error 17)"])
          else (files.insert ⟨dir, temp.fileName⟩ k.unwritten, .ok temp)
  | .copyInto source temp =>
      match k.copyInto, source.content with
      | .error e, _ => (files, .error e)
      | .ok _, none => (files, .error ioNotFound)
      | .ok bytes, some content => (files.insert temp content, .ok bytes)
  | .persist temp dest => renameFile files temp dest k.persist
  -- Dropping the handle removes the file, if it is there.
  | .dropTemp temp => (files.erase temp, ())
  | .rename src dst => renameFile files src dst (k.rename src dst)
  | .removeFile path =>
      match files.get path with
      | none => (files, .error .notFound)
      | some _ =>
          match k.removeFile path with
          | some e => (files, .error (.other e))
          | none => (files.erase path, .ok ())
  | .removeDirAll path => (files, k.removeDirAll path)
  | .renameDir src dst => (files, k.renameDir src dst)
  | .acquireVolume _ => (files, k.acquireVolume)
  | .purgeVolume name => (files, k.purgeVolume name)
  | .newPackage path packageFile =>
      match k.newPackage with
      | some e => (files, .error e)
      | none => (files, (env.buildPackage path packageFile).map fun _ => ⟨packageFile, path⟩)

end Manager

end Ssam
