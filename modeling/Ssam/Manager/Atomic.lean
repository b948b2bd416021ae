import Ssam.Manager.Install

/-!
# Failed Installs and the Package Files

When an install that fails leaves the package files of the downloaded directory as
they were.

The way back of a transaction knows where it has to put the old file, but not what
was in the place of the new one. Clearing that place, where no file was set aside,
takes away whatever was there before; and where the file set aside had another
name than the new one, the new one stays. What the install finds at the two paths
decides, and `Restores` is exactly the condition on them.

## Main definitions

* `Seen`: The path of a package file in the downloaded directory.
* `Undone`: The package files are what they were.
* `Restores`: The condition on the files before.

## Theorems

* `exit_undone_iff`: A transaction that fails is undone when the condition holds.
* `handleInstallPackage_undone_iff`: The same of the message.
-/

namespace Ssam

namespace Manager

open Lib Function

section Atomic

variable {C F V : Type} (env : Env C F V) (k : FileKernel C)

/-- The path is one of a package file in the downloaded directory. -/
def Seen (path : Path) : Prop :=
  path.parent = env.downloadedDir ∧ isPackageFileName env.packagesExt path.fileName = true

/-- The package files of the downloaded directory are the same, and so is what is
    in each of them. -/
def Undone (before after : Path → Option C) : Prop :=
  ∀ path, Seen env path → after path = before path

/-- A failing install of `content` at `dest` can be undone: where no file is set
    aside, there is nothing at `dest`; where one is, no package file is in the way
    of the backup, and the copy fails, or goes to the installed file's own place,
    or finds at its place what it would put there. -/
def Restores (mode : InstallMode) (dest : Path) (content : C) (at_ : Path → Option C) : Prop :=
  match mode with
  | .upgradeDownloaded installedPath =>
      BackupFails k mode at_ ∨
        (Seen env (backupPathOf installedPath) → at_ (backupPathOf installedPath) = none) ∧
          (k.copies (setAside mode at_) dest.parent = false ∨ dest = installedPath ∨
            dest = backupPathOf installedPath ∧
              (Seen env installedPath → at_ installedPath = some content) ∨
            dest ≠ backupPathOf installedPath ∧ at_ dest = some content)
  | .upgradeBundled | .fresh => at_ dest = none

variable {env k} {at_ : Path → Option C} {dest installedPath : Path} {content : C}

/-- What a change at one path undoes. -/
theorem undone_update_none {path : Path} :
    Undone env at_ (update at_ path none) ↔ (Seen env path → at_ path = none) := by
  constructor
  · intro h hseen
    rw [← h path hseen, update_self]
  · intro h q hq
    rw [update_apply]
    split
    · next hpath => rw [hpath, h (hpath ▸ hq)]
    · rfl

/-- An upgrade that fails once the new file is in its place is undone exactly
    under the condition. -/
theorem undone_replaced_iff (hdest : Seen env dest)
    (hroll : RollsBack k (.upgradeDownloaded installedPath) dest)
    (hbackup : ¬ BackupFails k (.upgradeDownloaded installedPath) at_) :
    Undone env at_ (rolledBack k (.upgradeDownloaded installedPath) dest
        (update (setAside (.upgradeDownloaded installedPath) at_) dest (some content))) ↔
      (Seen env (backupPathOf installedPath) → at_ (backupPathOf installedPath) = none) ∧
        (dest = installedPath ∨
          dest = backupPathOf installedPath ∧
            (Seen env installedPath → at_ installedPath = some content) ∨
          dest ≠ backupPathOf installedPath ∧ at_ dest = some content) := by
  have hne := backupPathOf_ne installedPath
  constructor
  · intro h
    refine ⟨fun hseen => ?_, ?_⟩
    · rw [← h _ hseen, rolledBack_replaced hroll hbackup, if_neg hne, if_pos rfl]
    · -- The new file is left at its own name, if that is neither of the two.
      by_cases hd : dest = installedPath
      · exact Or.inl hd
      · right
        by_cases hdb : dest = backupPathOf installedPath
        · refine Or.inl ⟨hdb, fun hseen => ?_⟩
          rw [← h _ hseen, rolledBack_replaced hroll hbackup, if_pos rfl, if_pos hdb]
        · refine Or.inr ⟨hdb, ?_⟩
          rw [← h _ hdest, rolledBack_replaced hroll hbackup, if_neg hd, if_neg hdb, if_pos rfl]
  · rintro ⟨hfree, hcase⟩ path hseen
    rw [rolledBack_replaced hroll hbackup]
    by_cases hpath : path = installedPath
    · rw [if_pos hpath, hpath]
      split
      · next hdb =>
          rcases hcase with hd | ⟨-, hsame⟩ | ⟨hdb', -⟩
          · exact absurd (hdb.symm.trans hd) hne
          · exact (hsame (hpath ▸ hseen)).symm
          · exact absurd hdb hdb'
      · rfl
    · rw [if_neg hpath]
      by_cases hb : path = backupPathOf installedPath
      · rw [if_pos hb, hb, hfree (hb ▸ hseen)]
      · rw [if_neg hb]
        split
        · next hd =>
            rcases hcase with hd' | ⟨hdb, -⟩ | ⟨-, hsame⟩
            · exact absurd (hd.trans hd') hpath
            · exact absurd (hd.trans hdb) hb
            · rw [hd, hsame]
        · rfl

/-- A transaction that fails and whose way back is carried out leaves the package
    files as they were exactly under the condition. -/
theorem exit_undone_iff {info : InstallInfo C F} {removeData : Bool} {mode : InstallMode}
    {e : Error}
    {after : Path → Option C} (hdest : Seen env info.dest)
    (hexit : InstallExit k env info content removeData mode at_ (.error e) after)
    (hroll : RollsBack k mode info.dest) :
    Undone env at_ after ↔ Restores env k mode info.dest content at_ := by
  cases mode with
  | upgradeDownloaded installedPath =>
      cases hexit with
      | backupFailed _ hbackup =>
          exact ⟨fun _ => Or.inl hbackup, fun _ path _ => rfl⟩
      -- No new file is left, and the old one is back.
      | copyFailed _ hbackup hcopy =>
          rw [rolledBack_setAside hroll hbackup, undone_update_none]
          constructor
          · exact fun h => Or.inr ⟨h, Or.inl hcopy⟩
          · exact fun h => (h.resolve_left hbackup).1
      | finishFailed _ hbackup hcopy _ =>
          rw [undone_replaced_iff hdest hroll hbackup]
          have hcopies : ¬ k.copies (setAside (.upgradeDownloaded installedPath) at_)
              info.dest.parent = false := by
            rw [hcopy]
            exact Bool.noConfusion
          constructor
          · exact fun h => Or.inr ⟨h.1, Or.inr h.2⟩
          · intro h
            rcases h.resolve_left hbackup with ⟨hfree, hcase⟩
            exact ⟨hfree, hcase.resolve_left hcopies⟩
  | fresh =>
      -- Nothing was set aside: the rollback takes the new file away.
      have hrolled : after = update at_ info.dest none := by
        cases hexit with
        | backupFailed _ hbackup => exact hbackup.elim
        | copyFailed _ _ _ => exact if_pos hroll
        | finishFailed _ _ _ _ => exact (if_pos hroll).trans (update_idem _ _ _)
      rw [hrolled, undone_update_none]
      exact ⟨fun h => h hdest, fun h _ => h⟩
  | upgradeBundled =>
      have hrolled : after = update at_ info.dest none := by
        cases hexit with
        | backupFailed _ hbackup => exact hbackup.elim
        | copyFailed _ _ _ => exact if_pos hroll
        | finishFailed _ _ _ _ => exact (if_pos hroll).trans (update_idem _ _ _)
      rw [hrolled, undone_update_none]
      exact ⟨fun h => h hdest, fun h _ => h⟩

/-- An install that fails, and whose way back is carried out where there is one,
    leaves the package files as they were exactly if it was refused or what it
    found can be restored. -/
theorem handleInstallPackage_undone_iff [LE V] [DecidableLE V] [ToString V] (o : Outcomes C)
    (m : ManagerState C F) (msg : InstallPackage C)
    (herr : (handleInstallPackage env o m msg).2.isOk = false)
    (hroll : ∀ info origPkg content, Attempt env o m msg info origPkg content →
      RollsBack o.file (installMode env origPkg) info.dest) :
    Undone env m.files.get (HashMap.get (handleInstallPackage env o m msg).1.files) ↔
      ∀ info origPkg content, Attempt env o m msg info origPkg content →
        Restores env o.file (installMode env origPkg) info.dest content m.files.get := by
  have hhandled := handled env o m msg
  revert herr
  generalize handleInstallPackage env o m msg = r at hhandled ⊢
  cases hhandled with
  | refused e store hno hstore =>
      intro _
      constructor
      · intro _ info origPkg content h
        exact absurd ⟨info, origPkg, content, h⟩ hno
      · exact fun _ path _ => rfl
  | installed info origPkg content files built h hexit =>
      exact fun herr => absurd herr (by simp only [Except.isOk, Except.toBool, Bool.true_eq_false,
        not_false_eq_true])
  | failed info origPkg content files e e' h hexit =>
      intro _
      have hdest : Seen env info.dest := ⟨by rw [h.planned.dest], h.planned.destName⟩
      refine (exit_undone_iff hdest hexit (hroll info origPkg content h)).trans ?_
      constructor
      · intro hrestores info' origPkg' content' h'
        -- There is one attempt only.
        rcases h.unique h' with ⟨rfl, rfl, rfl⟩
        exact hrestores
      · exact fun hall => hall info origPkg content h

/-- Version 2 of the package cannot be made. -/
def refusesTwo : Env (String × Nat) (String × Nat) Nat :=
  plainEnv fun packageFile =>
    if packageFile.2 = 2 then .error ["Failed to make the package"] else .ok ()

/-- The manager starts with the package `a` in a file that has another name than
    an install would give it. -/
def installedElsewhere : ManagerState (String × Nat) (String × Nat) :=
  let files : Files (String × Nat) := AList.insert ⟨"/d", "a-1.ssam"⟩ ("a", 1) ∅
  ⟨reloadPackages refusesTwo files (some []) (some [.ok "a-1.ssam"]), files⟩

/-- Where every call is carried out, so is the way back. -/
theorem rollsBack_fine (unwritten : C) (mode : InstallMode) (dest : Path) :
    RollsBack (.fine unwritten) mode dest := by
  cases mode <;> rfl

theorem handleInstallPackage_undone_iff_elsewhere :
    Undone refusesTwo installedElsewhere.files.get (HashMap.get
        (handleInstallPackage refusesTwo (.fine ("", 0)) installedElsewhere
          (installFrom ("a", 2))).1.files) ↔
      ∀ info origPkg content,
        Attempt refusesTwo (.fine ("", 0)) installedElsewhere (installFrom ("a", 2)) info origPkg
          content →
        Restores refusesTwo (.fine ("", 0)) (installMode refusesTwo origPkg) info.dest content
          installedElsewhere.files.get :=
  handleInstallPackage_undone_iff (.fine ("", 0)) installedElsewhere (installFrom ("a", 2))
    (by decide +kernel) fun _ _ _ _ => rollsBack_fine _ _ _

/-- The new version cannot be made once its file was copied: the old file is put
    back, and the new one stays beside it. -/
theorem handleInstallPackage_leaves_copy :
    ¬ ∀ (o : Outcomes (String × Nat)) (m : ManagerState (String × Nat) (String × Nat))
      (msg : InstallPackage (String × Nat)),
      (handleInstallPackage refusesTwo o m msg).2.isOk = false →
      (∀ info origPkg content, Attempt refusesTwo o m msg info origPkg content →
        RollsBack o.file (installMode refusesTwo origPkg) info.dest) →
      Undone refusesTwo m.files.get
        (HashMap.get (handleInstallPackage refusesTwo o m msg).1.files) := by
  intro h
  have hundone := h (.fine ("", 0)) installedElsewhere (installFrom ("a", 2)) (by decide +kernel)
    fun _ _ _ _ => rollsBack_fine _ _ _
  have hcopy := hundone ⟨"/d", "a.ssam"⟩ ⟨by decide +kernel, by decide +kernel⟩
  exact absurd hcopy (by decide +kernel)

end Atomic

end Manager

end Ssam
