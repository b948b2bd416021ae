import Ssam.Daemon.Step

/-!
# Links in the Package Directories

The daemon on directories that have symbolic links in them.

A link has a name in its directory as a file has, and reading it reads the file it leads
to, which may be anywhere. Removing, renaming or overwriting a name is done to the link,
not to that file. So what the daemon reads and what it removes are two things, and only
the names are new here: the programs are those of a daemon without links, over files that
may be links, but for the start, which resolves the path of a package file that it can
make no package of.

## Main definitions

* `Entry`: What a directory has under a name.
* `follow`: The regular file a path leads to.
* `canonicalPath`: Its path, if there is one.
* `reloadPackages`: The start, with links.
* `serve`: A call carried out, with links.
* `LinkedState`, `step`: The daemon, and the bundled files it has found.

## Theorems

* `mem_bundledFiles`: What is found is a bundled name that leads to a regular file.
* `get_of_not_touched`: A call changes no name but those it is about.
-/

namespace Ssam

namespace Daemon

namespace Links

open Lib Manager Volume Function

/-- What a directory has under a name: a regular file, or a symbolic link, with the path
    it leads to. The directories on that path are resolved, as nothing changes them. -/
inductive Entry (C : Type) where
  | file (content : C)
  | link (target : Path)
  deriving DecidableEq

section Follow

variable {C : Type} (files : Files (Entry C))

/-- The regular file at the end of so many links at most, with its path. -/
def followLinks : Nat → Path → Option (Path × C)
  | n, path =>
      match files.get path, n with
      | some (.file content), _ => some (path, content)
      | some (.link target), n + 1 => followLinks n target
      | _, _ => none

/-- The regular file a path leads to. The system follows forty links and no more. -/
def follow (path : Path) : Option (Path × C) := followLinks files 40 path

/-- What is read at a path, which is never a link. -/
def read (path : Path) : Option (Entry C) := (follow files path).map fun real => .file real.2

/-- The path of the file a path leads to, and the path itself if it leads to none. -/
def canonicalPath (path : Path) : Path := ((follow files path).map Prod.fst).getD path

end Follow

section Start

variable {C F V : Type} (env : DaemonEnv (Entry C) F V) (files : Files (Entry C))

/-- The path leads to a regular file, and its name ends as those of package files do. -/
def isPackageFile (path : Path) : Bool :=
  (read files path).isSome && isPackageFileName env.packagesExt path.fileName

/-- Parse the package file at the path. -/
def parsePackage (path : Path) : PackageParseResult F :=
  let packageFile := parseContent env.toEnv (read files path)
  ⟨parsedName env.toEnv path.fileName packageFile, path, packageFile⟩

/-- Parse the package files among the entries, in their order. -/
def parsePackagesFromDir (dir : String) : DirEntries → List (PackageParseResult F)
  | none => []
  | some entries =>
      ((entries.filterMap (entryToOptPath dir)).filter (isPackageFile env files)).map
        (parsePackage env files)

/-- Put a parsed file into the store. The path of a broken package is resolved. -/
def loadParsedPackage (store : PackageStore F) (parsed : PackageParseResult F) :
    DaemonProg (Entry C) F (PackageStore F) := do
  match ← (createParsed env.toEnv parsed).attempt with
  | .ok package => pure (store.insert parsed.packageName package)
  | .error e => pure (store.insertBroken parsed.packageName ⟨canonicalPath files parsed.path, e⟩)

/-- Record a bundled package, and load it unless it is overridden. -/
def loadBundledPackage (overriddenNames : List String) (store : PackageStore F)
    (parsed : PackageParseResult F) : DaemonProg (Entry C) F (PackageStore F) :=
  let store := store.insertBundledPath parsed.packageName parsed.path
  if parsed.packageName ∈ overriddenNames then pure store
  else loadParsedPackage env files store parsed

/-- Build the store from the two directories. -/
def reloadPackages (bundled downloaded : DirEntries) :
    DaemonProg (Entry C) F (PackageStore F) := do
  let downloadedParsed := parsePackagesFromDir env files env.downloadedDir downloaded
  let overriddenNames := downloadedParsed.map PackageParseResult.packageName
  let bundledParsed := parsePackagesFromDir env files env.bundledDir bundled
  let store ← bundledParsed.foldlM (loadBundledPackage env files overriddenNames) .empty
  downloadedParsed.foldlM (loadParsedPackage env files) store

/-- The bundled package files, each with the regular file it leads to. -/
def bundledFiles (bundled : DirEntries) : List (Path × Path) :=
  (parsePackagesFromDir env files env.bundledDir bundled).map fun parsed =>
    (parsed.path, canonicalPath files parsed.path)

end Start

section Serve

variable {C F V B : Type}

/-- What is created, before it is written, is a regular file. -/
def linkedKernel (k : CallKernel C) : CallKernel (Entry C) :=
  { k with file := { k.file with unwritten := .file k.file.unwritten } }

/-- The message is about a regular file. -/
def linkedMessage (msg : InstallPackage C) : InstallPackage (Entry C) :=
  { msg with source := { msg.source with content := msg.source.content.map .file } }

/-- Carry a call out. A link is followed where a file is read, and nowhere else. -/
def serve (k : Nat → CallKernel C) (env : DaemonEnv (Entry C) F V) {α : Type}
    (w : World (Entry C) B) : Call (Entry C) F α → World (Entry C) B × α
  | .inr (.read path) => ({ w with calls := w.calls + 1 }, read w.files path)
  | c => Daemon.serve (fun n => linkedKernel (k n)) env w c

/-- The daemon, with the bundled package files it has found at a start, each with the
    regular file it led to. -/
structure LinkedState (C F B : Type) extends DaemonState (Entry C) F B where
  found : List (Path × Path)

/-- The daemon before its first start. -/
def stopped (files : Files (Entry C)) (disk : Disk B) : LinkedState C F B :=
  ⟨Daemon.stopped files disk, []⟩

variable [LE V] [DecidableLE V] [ToString V] (env : DaemonEnv (Entry C) F V)

/-- The world an action begins in, and its program. -/
def begin (d : LinkedState C F B) :
    Action C → Option (World (Entry C) B × DaemonProg (Entry C) F (PackageStore F))
  | .start quota scan bundled downloaded =>
      let volumes : VolumeManager := ⟨.new quota env.dataRoot d.world.disk.root scan, ∅⟩
      some ({ d.world with volumes := volumes },
        reloadPackages env d.world.files bundled downloaded)
  | .install msg => Daemon.begin env d.toDaemonState (.install (linkedMessage msg))
  | .remove msg => Daemon.begin env d.toDaemonState (.remove msg)

/-- The bundled files known to the daemon once the action is under way. -/
def foundAfter (d : LinkedState C F B) : Action C → List (Path × Path)
  | .start _ _ bundled _ => bundledFiles env d.world.files bundled ++ d.found
  | _ => d.found

def step (d : LinkedState C F B) (e : DaemonEvent C) : Option (LinkedState C F B) :=
  (begin env d e.action).map fun (w, program) =>
    match e.killed with
    | none =>
        let run := program.eval (serve e.kernel env) w
        ⟨⟨run.2.toOption, run.1⟩, foundAfter env d e.action⟩
    | some n =>
        ⟨⟨none, (program.cut (serve e.kernel env) n w).1⟩, foundAfter env d e.action⟩

end Serve

section Found

variable {C F V : Type} {files : Files (Entry C)}

/-- A path that leads to a regular file is there, and so is the file. -/
theorem followLinks_eq_some {n : Nat} {path : Path} {real : Path × C}
    (h : followLinks files n path = some real) :
    files.get path ≠ none ∧ files.get real.1 = some (.file real.2) := by
  induction n generalizing path with
  | zero =>
      unfold followLinks at h
      cases hget : files.get path with
      | none =>
          rw [hget] at h
          exact absurd h.symm (Option.some_ne_none real)
      | some entry =>
          rw [hget] at h
          cases entry with
          | file content =>
              rw [← Option.some.inj h]
              exact ⟨Option.some_ne_none _, hget⟩
          | link target => exact absurd h.symm (Option.some_ne_none real)
  -- One link less to follow.
  | succ n ih =>
      unfold followLinks at h
      cases hget : files.get path with
      | none =>
          rw [hget] at h
          exact absurd h.symm (Option.some_ne_none real)
      | some entry =>
          rw [hget] at h
          cases entry with
          | file content =>
              rw [← Option.some.inj h]
              exact ⟨Option.some_ne_none _, hget⟩
          | link target => exact ⟨Option.some_ne_none _, (ih h).2⟩

/-- A bundled file that has been found is a name in the bundled directory, and leads to a
    regular file. -/
theorem mem_bundledFiles {env : DaemonEnv (Entry C) F V} {bundled : DirEntries}
    {file : Path × Path} (h : file ∈ bundledFiles env files bundled) :
    file.1.parent = env.bundledDir ∧ files.get file.1 ≠ none ∧
      ∃ content, files.get file.2 = some (.file content) := by
  unfold bundledFiles parsePackagesFromDir at h
  cases bundled with
  | none => exact absurd h (List.not_mem_nil)
  | some entries =>
      rw [List.map_map] at h
      rcases List.mem_map.mp h with ⟨path, hpath, hfile⟩
      rcases List.mem_filter.mp hpath with ⟨hentry, hpackage⟩
      rcases List.mem_filterMap.mp hentry with ⟨entry, -, hentry⟩
      -- The path is one of the directory's entries.
      have hparent : path.parent = env.bundledDir := by
        cases entry with
        | ok fileName => rw [← Option.some.inj hentry]
        | error e => exact absurd hentry.symm (Option.some_ne_none path)
      rw [isPackageFile, Bool.and_eq_true] at hpackage
      rcases Option.isSome_iff_exists.mp hpackage.1 with ⟨entry', hread⟩
      rcases Option.map_eq_some_iff.mp hread with ⟨real, hreal, -⟩
      rcases followLinks_eq_some hreal with ⟨hthere, hget⟩
      -- It could be read, so its links end at a file.
      have hcanonical : canonicalPath files path = real.1 := by
        rw [canonicalPath, hreal]
        rfl
      rw [← hfile]
      refine ⟨hparent, hthere, real.2, ?_⟩
      show files.get (canonicalPath files path) = _
      rw [hcanonical, hget]

end Found

section Frame

variable {C F V B : Type}

/-- The names a call deletes, renames or overwrites if it is carried out. -/
def touched : {β : Type} → Call (Entry C) F β → List Path
  | _, .inl (.copyInto _ temp) => [temp]
  | _, .inl (.persist temp dest) => [temp, dest]
  | _, .inl (.dropTemp temp) => [temp]
  | _, .inl (.rename src dst) => [src, dst]
  | _, .inl (.removeFile path) => [path]
  | _, _ => []

/-- The answer of a call says that it was carried out. -/
def CarriedOut : {β : Type} → Call (Entry C) F β → β → Prop
  | _, .inl (.copyInto _ _), r => ∃ bytes, r = .ok bytes
  | _, .inl (.persist _ _), r => r = .ok ()
  | _, .inl (.rename _ _), r => r = .ok ()
  | _, .inl (.removeFile _), r => r = .ok ()
  | _, _, _ => True

/-- Renaming a file leaves all names but two. -/
theorem get_renameFile {files : Files (Entry C)} {src dst p : Path} (hsrc : p ≠ src)
    (hdst : p ≠ dst) (outcome : Option Error) :
    (renameFile files src dst outcome).1.get p = files.get p := by
  unfold renameFile
  cases outcome with
  | some e => rfl
  | none =>
      cases files.get src with
      | none => rfl
      | some content =>
          dsimp only
          rw [HashMap.get_insert, if_neg hdst, HashMap.get_erase, if_neg hsrc]

variable (k : Nat → CallKernel C) (env : DaemonEnv (Entry C) F V) (w : World (Entry C) B)

/-- A call changes no name that was there but those it is about. -/
theorem get_of_not_touched {β : Type} {c : Call (Entry C) F β} {p : Path}
    (hp : w.files.get p ≠ none) (h : p ∉ touched c) :
    (serve k env w c).1.files.get p = w.files.get p := by
  rcases c with c | c
  · cases c with
    -- The temporary file has a name that was free, and something is at this path.
    | createTemp dir =>
        show (FileKernel.serve _ env.toEnv w.files (.createTemp dir : FileCall _ F _)).1.get p = _
        rw [FileKernel.serve]
        split
        · rfl
        · next temp htemp =>
            split
            · rfl
            · next hfree =>
                rw [HashMap.get_insert, if_neg]
                rintro rfl
                exact hfree (Option.isSome_iff_ne_none.mpr hp)
    | copyInto source temp =>
        have htemp : p ≠ temp := fun heq => h (heq ▸ List.mem_cons_self)
        show (FileKernel.serve _ env.toEnv w.files (.copyInto source temp : FileCall _ F _)).1.get p
          = _
        rw [FileKernel.serve]
        split
        · rfl
        · rfl
        · rw [HashMap.get_insert, if_neg htemp]
    | persist temp dest =>
        refine get_renameFile ?_ ?_ _
        · exact fun heq => h (heq ▸ List.mem_cons_self)
        · exact fun heq => h (heq ▸ List.mem_cons_of_mem _ List.mem_cons_self)
    | dropTemp temp => exact HashMap.get_erase_ne _ fun heq => h (heq ▸ List.mem_cons_self)
    | rename src dst =>
        refine get_renameFile ?_ ?_ _
        · exact fun heq => h (heq ▸ List.mem_cons_self)
        · exact fun heq => h (heq ▸ List.mem_cons_of_mem _ List.mem_cons_self)
    | removeFile path =>
        have hpath : p ≠ path := fun heq => h (heq ▸ List.mem_cons_self)
        show (FileKernel.serve _ env.toEnv w.files (.removeFile path : FileCall _ F _)).1.get p = _
        rw [FileKernel.serve]
        split
        · rfl
        · split
          · rfl
          · exact HashMap.get_erase_ne _ hpath
    | removeDirAll path => rfl
    | renameDir src dst => rfl
    -- The calls about volumes leave the package files alone.
    | acquireVolume volumeMeta =>
        rcases serve_acquireVolume _ env w volumeMeta with ⟨e, -, hserve⟩ | ⟨-, hserve⟩
        · exact congrArg (fun served => served.1.files.get p) hserve
        · exact congrArg (fun served => served.1.files.get p) hserve
    | purgeVolume name =>
        rcases serve_purgeVolume _ env w name with ⟨e, -, hserve⟩ | ⟨-, hserve⟩
        · exact congrArg (fun served => served.1.files.get p) hserve
        · exact congrArg (fun served => served.1.files.get p) hserve
    | newPackage path packageFile =>
        show (FileKernel.serve _ env.toEnv w.files (.newPackage path packageFile)).1.get p = _
        rw [FileKernel.serve]
        split <;> rfl
  · cases c <;> rfl

end Frame

end Links

end Daemon

end Ssam
