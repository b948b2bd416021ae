import Ssam.Manager.Changed
import Ssam.Manager.Install

/-!
# Removing a Package

The message that removes a package, and the messages of the manager as the steps of
a system.

A downloaded package is stopped, leaves the store, and its file is removed; where a
bundled file has its name, that one takes its place. A broken package is removed by
the path it was found at. What the bundled directory holds is never removed.

## Main definitions

* `removePackageFile`: Remove a package file that may be missing.
* `restoreBundled`: The bundled package takes its place again.
* `handleRemovePackage`: The message.
* `Event`, `step`: The messages, with how they are answered.

## Theorems

* `get_tryRecover`: What is in the store after an attempt to recover.
* `removedFile`: A removal leaves the file gone, or fails and changes nothing.
-/

namespace Ssam

namespace Manager

open Lib Function

/-- The message that removes a package. -/
structure RemovePackage where
  packageName : String
  purgeVolume : Bool

section Remove

variable {C F V : Type} (env : Env C F V)

/-- Remove the package file: the files after, and whether it was there. -/
def removePackageFile (k : FileKernel C) (files : Files C) (path : Path) :
    Files C × Except Error Bool :=
  Prog.eval (k.serve env) (removeFileIfExists path : FileProg C F Bool) files

/-- Make the package of the bundled file that has the name, if there is one. -/
def restoreBundled (files : Files C) (store : PackageStore F) (packageName : String) :
    PackageStore F :=
  match store.getBundledPath packageName with
  | some bundledPath => tryRecover env files store packageName bundledPath
  | none => store

/-- Remove a package: from the store, its volume if asked for, and its file. -/
def removePackage (o : Outcomes C) (m : ManagerState C F) (packageName : String) (purge : Bool) :
    ManagerState C F × Except Error Unit :=
  match m.store.get packageName with
  | some package =>
      if isBundledPackage env package.path then
        (m, .error [s!"Cannot remove bundled package '{packageName}': system-provided"])
      else
        match context s!"Failed to teardown package {packageName} before removal"
          (context s!"Failed to teardown package {packageName}" o.teardown) with
        | .error e => (m, .error e)
        | .ok () =>
            -- The entry goes before the volume and the file do.
            let store := m.store.remove packageName
            match (if purge then o.file.purgeVolume packageName else .ok ()) with
            | .error e =>
                (⟨tryRecover env m.files store packageName package.path, m.files⟩, .error
                  (s!"Failed to purge package volume for package: {packageName}" :: e))
            | .ok () =>
                let removed := removePackageFile env o.file m.files package.path
                match removed.2 with
                | .error e => (⟨store, removed.1⟩, .error ("Failed to remove package file" :: e))
                | .ok _ => (⟨restoreBundled env removed.1 store packageName, removed.1⟩, .ok ())
  | none =>
      match m.store.getBroken packageName with
      | some brokenInfo =>
          if isBundledPackage env brokenInfo.packagePath then
            (m, .error [s!"Cannot remove broken bundled package '{packageName}': " ++
              "system-provided"])
          else
            -- A broken package has no volume to purge and is not torn down.
            let store := m.store.removeBroken packageName
            let removed := removePackageFile env o.file m.files brokenInfo.packagePath
            match removed.2 with
            | .error e =>
                (⟨store, removed.1⟩, .error ("Failed to remove broken package file" :: e))
            | .ok _ => (⟨restoreBundled env removed.1 store packageName, removed.1⟩, .ok ())
      | none => (m, .error [s!"Package not found: {packageName}"])

def handleRemovePackage (o : Outcomes C) (m : ManagerState C F) (msg : RemovePackage) :
    ManagerState C F × Except Error Unit :=
  let removed := removePackage env o m msg.packageName msg.purgeVolume
  let packageName := msg.packageName
  (removed.1, context s!"Failed to remove package: {packageName}" removed.2)

/-- A message, with how it is answered. -/
inductive Event (C : Type) where
  | install (msg : InstallPackage C) (o : Outcomes C)
  | remove (msg : RemovePackage) (o : Outcomes C)

/-- Handle a message to its end. -/
def step [LE V] [DecidableLE V] [ToString V] (m : ManagerState C F) :
    Event C → Option (ManagerState C F)
  | .install msg o => some (handleInstallPackage env o m msg).1
  | .remove msg o => some (handleRemovePackage env o m msg).1

variable {env}

theorem recoverPackage_eq_ok {files : Files C} {path : Path} {package : Package F} :
    recoverPackage env files path = .ok package ↔
      createParsed env (parsePackage env files path) = .ok package := by
  rw [recoverPackage, createParsed_eq_ok, except_bind_eq_ok]
  constructor
  · rintro ⟨packageFile, hparsed, hcreate⟩
    have hcreate' := context_eq_ok.mp hcreate
    have hp := createPackage_eq_ok hcreate'
    rw [hp] at hcreate' ⊢
    exact ⟨context_eq_ok.mp hparsed, hcreate'⟩
  · rintro ⟨hparsed, hcreate⟩
    exact ⟨package.file, context_eq_ok.mpr hparsed, context_eq_ok.mpr hcreate⟩

/-- What is in the store after an attempt to recover a package. -/
theorem get_tryRecover (files : Files C) (store : PackageStore F) (name n : String)
    (path : Path) :
    (tryRecover env files store name path).get n =
      if n = name then made env files path else store.get n := by
  rw [tryRecover]
  cases hrecover : recoverPackage env files path with
  | ok p =>
      rw [made_eq_some.mpr (recoverPackage_eq_ok.mp hrecover)]
      exact PackageStore.get_insert store name n p
  | error e =>
      have hnone : made env files path = none := by
        rw [Option.eq_none_iff_forall_ne_some]
        intro p hp
        rw [recoverPackage_eq_ok.mpr (made_eq_some.mp hp)] at hrecover
        exact absurd hrecover (by simp only [reduceCtorEq, not_false_eq_true])
      rw [hnone]
      exact PackageStore.get_remove store name n

@[simp] theorem getBundledPath_tryRecover (files : Files C) (store : PackageStore F)
    (name n : String) (path : Path) :
    (tryRecover env files store name path).getBundledPath n = store.getBundledPath n := by
  rw [tryRecover]
  split <;> rfl

@[simp] theorem getBroken_tryRecover (files : Files C) (store : PackageStore F)
    (name n : String) (path : Path) :
    (tryRecover env files store name path).getBroken n = store.getBroken n := by
  rw [tryRecover]
  split <;> rfl

theorem get_restoreBundled (files : Files C) (store : PackageStore F) (name n : String) :
    (restoreBundled env files store name).get n =
      match store.getBundledPath name with
      | some bundledPath => if n = name then made env files bundledPath else store.get n
      | none => store.get n := by
  rw [restoreBundled]
  cases store.getBundledPath name with
  | some bundledPath => exact get_tryRecover files store name n bundledPath
  | none => rfl

variable (env) in
/-- A removal that is carried out leaves the file gone, and it fails only where the
    file is there and stays. -/
theorem removedFile (k : FileKernel C) (files : Files C) (path : Path) :
    (∃ b, (removePackageFile env k files path).2 = .ok b ∧
        HashMap.get (removePackageFile env k files path).1 = update files.get path none ∧
        (k.removeFile path = none ∨ files.get path = none)) ∨
      ∃ e, (removePackageFile env k files path).2 = .error e ∧
        HashMap.get (removePackageFile env k files path).1 = files.get ∧
        k.removeFile path ≠ none ∧ files.get path ≠ none := by
  rw [removePackageFile, removeFileIfExists]
  simp only [Prog.bind_eq, Prog.eval_bind, Prog.eval_ask]
  cases hfile : files.get path with
  | none =>
      -- There is no such file, which is no error.
      left
      refine ⟨false, ?_, ?_, Or.inr rfl⟩
      · simp only [FileKernel.serve, hfile]
        rfl
      · simp only [FileKernel.serve, hfile]
        rw [← hfile, update_eq_self]
        rfl
  | some content =>
      cases hfault : k.removeFile path with
      | none =>
          left
          refine ⟨true, ?_, ?_, Or.inl rfl⟩
          · simp only [FileKernel.serve, hfile, hfault]
            rfl
          · simp only [FileKernel.serve, hfile, hfault]
            exact get_erase_eq files path
      | some e =>
          right
          refine ⟨e, ?_, ?_, Option.some_ne_none e, Option.some_ne_none content⟩
          · simp only [FileKernel.serve, hfile, hfault]
            rfl
          · simp only [FileKernel.serve, hfile, hfault]
            rfl

/-- Nothing keeps the package from being removed before its file is. -/
def Released (o : Outcomes C) (packageName : String) (purge : Bool) : Prop :=
  o.teardown = .ok () ∧ (purge = true → o.file.purgeVolume packageName = .ok ())

/-- What a removal comes to. -/
inductive Removed (env : Env C F V) (o : Outcomes C) (m : ManagerState C F) (n : String)
    (purge : Bool) : ManagerState C F → Prop
  | unchanged : Removed env o m n purge m
  | purgeFailed (p : Package F) (hstored : m.store.get n = some p)
      (hbundled : isBundledPackage env p.path = false) :
      Removed env o m n purge ⟨tryRecover env m.files (m.store.remove n) n p.path, m.files⟩
  | fileStays (p : Package F) (files : Files C) (hstored : m.store.get n = some p)
      (hbundled : isBundledPackage env p.path = false) (hreleased : Released o n purge)
      (hfault : o.file.removeFile p.path ≠ none) (hfiles : HashMap.get files = m.files.get) :
      Removed env o m n purge ⟨m.store.remove n, files⟩
  | fileGone (p : Package F) (files : Files C) (hstored : m.store.get n = some p)
      (hbundled : isBundledPackage env p.path = false) (hreleased : Released o n purge)
      (hfiles : HashMap.get files = update m.files.get p.path none) :
      Removed env o m n purge ⟨restoreBundled env files (m.store.remove n) n, files⟩
  | brokenStays (info : BrokenPackageInfo) (files : Files C) (hstored : m.store.get n = none)
      (hbroken : m.store.getBroken n = some info)
      (hfiles : HashMap.get files = m.files.get) :
      Removed env o m n purge ⟨m.store.removeBroken n, files⟩
  | brokenGone (info : BrokenPackageInfo) (files : Files C) (hstored : m.store.get n = none)
      (hbroken : m.store.getBroken n = some info)
      (hbundled : isBundledPackage env info.packagePath = false)
      (hgone : o.file.removeFile info.packagePath = none ∨ m.files.get info.packagePath = none)
      (hfiles : HashMap.get files = update m.files.get info.packagePath none) :
      Removed env o m n purge ⟨restoreBundled env files (m.store.removeBroken n) n, files⟩

theorem removed (env : Env C F V) (o : Outcomes C) (m : ManagerState C F) (n : String)
    (purge : Bool) : Removed env o m n purge (removePackage env o m n purge).1 := by
  unfold removePackage
  cases hstored : m.store.get n with
  | some p =>
      dsimp only
      split
      · exact Removed.unchanged
      · next hbundled =>
          rw [Bool.not_eq_true] at hbundled
          split
          · exact Removed.unchanged
          · next hteardown =>
              have hdown := context_eq_ok.mp (context_eq_ok.mp hteardown)
              split
              · exact Removed.purgeFailed p hstored hbundled
              · next hpurge =>
                  -- The package was torn down, and purged if that was asked for.
                  have hreleased : Released o n purge := by
                    refine ⟨hdown, fun h => ?_⟩
                    rw [if_pos h] at hpurge
                    exact hpurge
                  rcases removedFile env o.file m.files p.path with
                    ⟨b, hb, hfiles, -⟩ | ⟨e, he, hfiles, hfault, -⟩
                  · simp only [hb]
                    exact Removed.fileGone p _ hstored hbundled hreleased hfiles
                  · simp only [he]
                    exact Removed.fileStays p _ hstored hbundled hreleased hfault hfiles
  | none =>
      dsimp only
      cases hbroken : m.store.getBroken n with
      | none => exact Removed.unchanged
      | some info =>
          dsimp only
          split
          · exact Removed.unchanged
          · next hbundled =>
              rw [Bool.not_eq_true] at hbundled
              rcases removedFile env o.file m.files info.packagePath with
                ⟨b, hb, hfiles, hgone⟩ | ⟨e, he, hfiles, -, -⟩
              · simp only [hb]
                exact Removed.brokenGone info _ hstored hbroken hbundled hgone hfiles
              · simp only [he]
                exact Removed.brokenStays info _ hstored hbroken hfiles

end Remove

end Manager

end Ssam
