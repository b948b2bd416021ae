import Mathlib.Order.Defs.PartialOrder
import Ssam.Manager.Effects

/-!
# Installing a Package

The message that installs a package: what is checked before anything is done, the
transaction, and what becomes of the store.

A package installed over an older one is prepared for the upgrade first. Where the
transaction fails after that, the package is made once more from the file it was
installed at, and a package that cannot be made again leaves the store.

## Main definitions

* `Outcomes`: How the parts outside the manager answer a message.
* `ManagerState`: The store and the files.
* `prepareInstallPackage`, `planInstall`: What is checked, and what is to be done.
* `tryRecover`: A package made once more from its file.
* `handleInstallPackage`: The message.

## Theorems

* `planInstall_eq_ok`: What holds of an install that is carried out.
* `installExit`: How its transaction ends.
-/

namespace Ssam

namespace Manager

open Lib

/-- How a message is answered by what lies outside the manager. -/
structure Outcomes (C : Type) where
  file : FileKernel C
  prepareUpgrade : Except Error Unit
  teardown : Except Error Unit

/-- Everything goes well. -/
def Outcomes.fine {C : Type} (unwritten : C) : Outcomes C := ⟨.fine unwritten, .ok (), .ok ()⟩

/-- The manager's store, and the files of the package directories. -/
structure ManagerState (C F : Type) where
  store : PackageStore F
  files : Files C

/-- The message that installs a package. -/
structure InstallPackage (C : Type) where
  source : Source C
  force : Bool
  removeData : Bool

/-- Install the file `/tmp/a.ssam` with this content. -/
def installFrom (content : String × Nat) : InstallPackage (String × Nat) where
  source := ⟨"/tmp/a.ssam", true, .ok "/tmp/a.ssam", some content⟩
  force := false
  removeData := false

variable {C F V : Type}

/-- The last component of the source's path. -/
def Source.fileName (source : Source C) : Option String :=
  match (components source.path).getLast? with
  | some (.normal fileName) => some fileName
  | _ => none

/-- The path lies in the directory, or is it. -/
def startsWith (path dir : String) : Bool := (components dir).isPrefixOf (components path)

section Install

variable [LE V] [DecidableLE V] [ToString V] (env : Env C F V)

/-- The source is a regular file named as package files are. -/
def isPackageSource (source : Source C) : Bool :=
  source.content.isSome && source.fileName.any (isPackageFileName env.packagesExt)

/-- The source lies in neither of the package directories. -/
def ensureExternalSource (source : Source C) : Except Error Unit := do
  let path := source.path.quote
  let srcCanon ← context s!"Cannot resolve source path: {path}" source.canonical
  let downloadedDir := env.downloadedDir.quote
  ensure (!startsWith srcCanon env.downloadedDir)
    (s!"Source file {path} is inside the downloaded package directory {downloadedDir}; " ++
      "install from an external path")
  let bundledDir := env.bundledDir.quote
  ensure (!startsWith srcCanon env.bundledDir)
    (s!"Source file {path} is inside the bundled package directory {bundledDir}; " ++
      "install from an external path")

/-- Unless it is forced, an upgrade has to be newer than what is installed. -/
def ensureNewer (packageName : String) (version : V) (force : Bool) :
    Option (Package F) → Except Error Unit
  | none => .ok ()
  | some orig =>
      let origVer := env.version orig.file
      ensure (!(version ≤ origVer && !force))
        (s!"A same or newer version of package '{packageName}' is already installed " ++
          s!"(installed: {origVer}, new: {version})")

/-- The install of a parsed file. Its name has to be one a file can have. -/
def prepareInstallPackage (source : Source C) (packageName : String)
    (parsed : Except Error F) (origPkg : Option (Package F)) (force : Bool) :
    Except Error (InstallInfo C F) := do
  let path := source.path.quote
  let packageFile ← context s!"Failed to parse package from file {path}" parsed
  ensureNewer env packageName (env.version packageFile) force origPkg
  ensure (isSafePathSegment packageName) s!"Invalid package name: {packageName}"
  let dest : Path := ⟨env.downloadedDir, destFileName env.packagesExt packageName⟩
  let volumeMeta ← context "Failed to create volume metadata" (env.volumeMetadata dest packageFile)
  .ok ⟨packageName, packageFile, source, dest, volumeMeta⟩

/-- What the message asks for, if it passes the checks, and what it would replace. -/
def planInstall (store : PackageStore F) (msg : InstallPackage C) :
    Except Error (InstallInfo C F × Option (Package F)) := do
  let path := msg.source.path.quote
  let failed := s!"Failed to install package from file: {path}"
  context failed (ensure msg.source.exists_ s!"File not found: {path}")
  context failed (ensure (isPackageSource env msg.source) s!"Invalid package file: {path}")
  context failed (ensureExternalSource env msg.source)
  let parsed := parseContent env msg.source.content
  let packageName := parsedName env (msg.source.fileName.getD "") parsed
  let origPkg := store.get packageName
  let prepared ← prepareInstallPackage env msg.source packageName parsed origPkg msg.force
  .ok (prepared, origPkg)

/-- The file is a bundled one. -/
def isBundledPackage (path : Path) : Bool := path.parent = env.bundledDir

/-- How to install over what is there. -/
def installMode : Option (Package F) → InstallMode
  | none => .fresh
  | some existing =>
      if isBundledPackage env existing.path then .upgradeBundled
      else .upgradeDownloaded existing.path

/-- Make a package from the file at the path. -/
def recoverPackage (files : Files C) (path : Path) : Except Error (Package F) := do
  let shown := path.display.quote
  let packageFile ← context s!"Failed to re-parse package at {shown}"
    (parsePackage env files path).packageFile
  context s!"Failed to recover package from {shown}" (createPackage env path packageFile)

/-- Put what can be made of the file at the path into the store under the name,
    and nothing if nothing can. -/
def tryRecover (files : Files C) (store : PackageStore F) (packageName : String) (path : Path) :
    PackageStore F :=
  match recoverPackage env files path with
  | .ok restored => store.insert packageName restored
  | .error _ => store.remove packageName

/-- The files after the transaction, and how it ends. -/
def doInstall (k : FileKernel C) (files : Files C) (info : InstallInfo C F) (removeData : Bool)
    (mode : InstallMode) : Files C × Except Error (Package F) :=
  Prog.eval (k.serve env) (executeInstallInner info removeData mode) files

/-- Install a package. The parsed package file is what its metadata is read from. -/
def handleInstallPackage (o : Outcomes C) (m : ManagerState C F) (msg : InstallPackage C) :
    ManagerState C F × Except Error F :=
  match planInstall env m.store msg with
  | .error e => (m, .error e)
  | .ok (prepared, origPkg) =>
      let path := msg.source.path.quote
      let failed := s!"Failed to install package from file: {path}"
      let packageName := prepared.packageName
      -- The broken entry goes before anything is tried.
      let store := m.store.removeBroken prepared.dest.fileName
      match origPkg with
      | some existing =>
          match context s!"Cannot prepare upgrade for package({packageName})" o.prepareUpgrade with
          -- The package could not be torn down, so nothing is installed.
          | .error e => (⟨store, m.files⟩, .error e)
          | .ok () =>
              let mode := installMode env (some existing)
              let installed := doInstall env o.file m.files prepared msg.removeData mode
              match installed.2 with
              | .ok built =>
                  (⟨store.insert (env.packageName built.file) built, installed.1⟩, .ok built.file)
              | .error source =>
                  -- The package that was there is loaded again.
                  (⟨tryRecover env installed.1 store packageName existing.path, installed.1⟩,
                    .error (failed :: source))
      | none =>
          let installed := doInstall env o.file m.files prepared false .fresh
          match installed.2 with
          | .ok built =>
              (⟨store.insert (env.packageName built.file) built, installed.1⟩, .ok built.file)
          | .error source => (⟨store, installed.1⟩, .error (failed :: source))

/-- What holds of an install that passes the checks. -/
structure Planned (store : PackageStore F) (msg : InstallPackage C) (info : InstallInfo C F)
    (origPkg : Option (Package F)) (content : C) : Prop where
  source : info.source = msg.source
  readable : msg.source.content = some content
  parses : env.fromFileVerified content = .ok info.packageFile
  name : info.packageName = env.packageName info.packageFile
  dest : info.dest = ⟨env.downloadedDir, destFileName env.packagesExt info.packageName⟩
  destName : isPackageFileName env.packagesExt info.dest.fileName = true
  volume : env.volumeMetadata info.dest info.packageFile = .ok info.volumeMeta
  orig : origPkg = store.get info.packageName
  newer : ∀ existing, origPkg = some existing →
    msg.force = true ∨ ¬ env.version info.packageFile ≤ env.version existing.file

variable {env}

/-- A safe name is not empty. -/
theorem ne_empty_of_safe {name : String} (h : isSafePathSegment name = true) : name ≠ "" := by
  rintro rfl
  exact absurd h (by decide)

theorem planInstall_eq_ok {store : PackageStore F} {msg : InstallPackage C}
    {info : InstallInfo C F} {origPkg : Option (Package F)}
    (h : planInstall env store msg = .ok (info, origPkg)) :
    ∃ content, Planned env store msg info origPkg content := by
  rw [planInstall] at h
  rcases except_bind_eq_ok.mp h with ⟨_, -, h⟩
  rcases except_bind_eq_ok.mp h with ⟨_, hsource, h⟩
  rcases except_bind_eq_ok.mp h with ⟨_, -, h⟩
  rcases except_bind_eq_ok.mp h with ⟨prepared, hprepared, h⟩
  -- The checks of the source, one after the other.
  have hpkg := ensure_eq_ok.mp (context_eq_ok.mp hsource)
  rw [isPackageSource, Bool.and_eq_true_iff, Option.any_eq_true] at hpkg
  rcases hpkg with ⟨-, fileName, -, hfileName⟩
  rw [prepareInstallPackage] at hprepared
  rcases except_bind_eq_ok.mp hprepared with ⟨packageFile, hparse, hprepared⟩
  rcases except_bind_eq_ok.mp hprepared with ⟨_, hnewer, hprepared⟩
  rcases ensure_bind_eq_ok.mp hprepared with ⟨hsafe, hprepared⟩
  rcases except_bind_eq_ok.mp hprepared with ⟨volumeMeta, hvolume, hprepared⟩
  -- What is installed is what the source was parsed as.
  have hparsed := context_eq_ok.mp hparse
  rcases parseContent_eq_ok.mp hparsed with ⟨content, hcontent, hverified⟩
  have hname : parsedName env (msg.source.fileName.getD "")
      (parseContent env msg.source.content) = env.packageName packageFile := by
    rw [hparsed, parsedName]
  simp only [Except.ok.injEq, Prod.mk.injEq] at h hprepared
  rw [← h.1, ← h.2, ← hprepared]
  refine ⟨content, rfl, hcontent, hverified, hname, rfl, ?_, context_eq_ok.mp hvolume, rfl, ?_⟩
  · exact isPackageFileName_dest hfileName (ne_empty_of_safe hsafe)
  · intro existing hexisting
    rw [hexisting] at hnewer
    have hcheck := ensure_eq_ok.mp hnewer
    rw [Bool.not_eq_true', Bool.and_eq_false_iff, decide_eq_false_iff_not,
      Bool.not_eq_false'] at hcheck
    exact hcheck.symm

omit [DecidableLE V] [ToString V] in
/-- The transaction of a planned install ends in one of its ways. -/
theorem installExit {store : PackageStore F} {msg : InstallPackage C} {info : InstallInfo C F}
    {origPkg : Option (Package F)} {content : C} (h : Planned env store msg info origPkg content)
    (k : FileKernel C) (files : Files C) (removeData : Bool) (mode : InstallMode) :
    InstallExit k env info content removeData mode files.get
      (doInstall env k files info removeData mode).2
      (HashMap.get (doInstall env k files info removeData mode).1) := by
  have hsource : info.source.content = some content := by rw [h.source, h.readable]
  have hdest : info.dest.parent ≠ "" := by
    rw [h.dest]
    exact env.nonempty
  exact Prog.eval_of_wp (k.serve env)
    (wp_executeInstallInner k env files removeData mode hsource hdest)

variable (env)

/-- The message gets as far as its transaction. -/
structure Attempt (o : Outcomes C) (m : ManagerState C F) (msg : InstallPackage C)
    (info : InstallInfo C F) (origPkg : Option (Package F)) (content : C) : Prop where
  plan : planInstall env m.store msg = .ok (info, origPkg)
  planned : Planned env m.store msg info origPkg content
  prepared : origPkg = none ∨ o.prepareUpgrade = .ok ()

variable {env} in
/-- A message attempts one install. -/
theorem Attempt.unique {o : Outcomes C} {m : ManagerState C F} {msg : InstallPackage C}
    {info info' : InstallInfo C F} {origPkg origPkg' : Option (Package F)} {content content' : C}
    (h : Attempt env o m msg info origPkg content)
    (h' : Attempt env o m msg info' origPkg' content') :
    info = info' ∧ origPkg = origPkg' ∧ content = content' := by
  have hplan := Except.ok.inj (h.plan.symm.trans h'.plan)
  have hcontent := Option.some.inj (h.planned.readable.symm.trans h'.planned.readable)
  exact ⟨congrArg Prod.fst hplan, congrArg Prod.snd hplan, hcontent⟩

/-- Whether the data of the package is to be replaced as well. -/
def removesData (msg : InstallPackage C) (origPkg : Option (Package F)) : Bool :=
  origPkg.isSome && msg.removeData

/-- What the store makes of an install that failed. -/
def recovered (files : Files C) (store : PackageStore F) (packageName : String) :
    Option (Package F) → PackageStore F
  | none => store
  | some existing => tryRecover env files store packageName existing.path

/-- What the message comes to: it is refused before anything is done, or its
    transaction ends in one of the two ways. -/
inductive Handled (o : Outcomes C) (m : ManagerState C F) (msg : InstallPackage C) :
    ManagerState C F × Except Error F → Prop
  | refused (e : Error) (store : PackageStore F)
      (hno : ¬ ∃ info origPkg content, Attempt env o m msg info origPkg content)
      (hstore : store = m.store ∨ ∃ name, store = m.store.removeBroken name) :
      Handled o m msg (⟨store, m.files⟩, .error e)
  | installed (info : InstallInfo C F) (origPkg : Option (Package F)) (content : C)
      (files : Files C) (built : Package F) (h : Attempt env o m msg info origPkg content)
      (hexit : InstallExit o.file env info content (removesData msg origPkg)
        (installMode env origPkg) m.files.get (.ok built) (HashMap.get files)) :
      Handled o m msg
        (⟨(m.store.removeBroken info.dest.fileName).insert (env.packageName built.file) built,
          files⟩, .ok built.file)
  | failed (info : InstallInfo C F) (origPkg : Option (Package F)) (content : C)
      (files : Files C) (e e' : Error) (h : Attempt env o m msg info origPkg content)
      (hexit : InstallExit o.file env info content (removesData msg origPkg)
        (installMode env origPkg) m.files.get (.error e) (HashMap.get files)) :
      Handled o m msg
        (⟨recovered env files (m.store.removeBroken info.dest.fileName) info.packageName origPkg,
          files⟩, .error e')

theorem handled (o : Outcomes C) (m : ManagerState C F) (msg : InstallPackage C) :
    Handled env o m msg (handleInstallPackage env o m msg) := by
  unfold handleInstallPackage
  cases hplan : planInstall env m.store msg with
  | error e =>
      refine Handled.refused e _ ?_ (Or.inl rfl)
      -- No plan, so there is no attempt.
      rintro ⟨info, origPkg, content, h⟩
      rw [h.plan] at hplan
      exact absurd hplan (by simp only [reduceCtorEq, not_false_eq_true])
  | ok plan =>
      rcases plan with ⟨info, origPkg⟩
      rcases planInstall_eq_ok hplan with ⟨content, hplanned⟩
      cases origPkg with
      | none =>
          have hexit := installExit hplanned o.file m.files false .fresh
          have hattempt : Attempt env o m msg info none content :=
            ⟨hplan, hplanned, Or.inl rfl⟩
          dsimp only
          split
          · next built hbuilt =>
              rw [hbuilt] at hexit
              exact Handled.installed info none content _ built hattempt hexit
          · next e he =>
              rw [he] at hexit
              exact Handled.failed info none content _ e _ hattempt hexit
      | some existing =>
          have hexit := installExit hplanned o.file m.files msg.removeData
            (installMode env (some existing))
          dsimp only
          split
          · next e he =>
              refine Handled.refused e _ ?_ (Or.inr ⟨_, rfl⟩)
              rintro ⟨info', origPkg, content', h⟩
              -- The attempt would have been about a package that was prepared.
              have horig := congrArg Prod.snd (Except.ok.inj (h.plan.symm.trans hplan))
              rcases h.prepared with hnone | hprepared
              · exact absurd (hnone.symm.trans horig) (Option.some_ne_none existing).symm
              · rw [hprepared] at he
                exact absurd he (by simp only [context, reduceCtorEq, not_false_eq_true])
          · next hprepared =>
              have hattempt : Attempt env o m msg info (some existing) content :=
                ⟨hplan, hplanned, Or.inr (context_eq_ok.mp hprepared)⟩
              split
              · next built hbuilt =>
                  rw [hbuilt] at hexit
                  exact Handled.installed info _ content _ built hattempt hexit
              · next e he =>
                  rw [he] at hexit
                  exact Handled.failed info _ content _ e _ hattempt hexit

end Install

end Manager

end Ssam
