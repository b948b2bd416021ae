import Ssam.Lib.Run
import Ssam.Manager.Consistent

/-!
# The Store and the Directories

When the store agrees with what a reload would make of the directories, after every
message of a run.

A message changes the store and the directories by different means, and each of its
ways to fail leaves the two at another place. `Keeps` says of a message and the
state it meets that the two still agree after it: that no file goes that another
name needs, and that what is put into the store under the message's own name is
what the files now offer. A run whose messages all meet it keeps them in agreement.

## Main definitions

* `OverKeeps`, `UpgradeKeeps`, `RemoveKeeps`: The conditions on the messages.
* `Keeps`: The condition on an event.

## Theorems

* `consistent_install`, `consistent_remove`: The messages keep the invariant.
* `store_agrees`: The store agrees with the directories in every state of a run
  whose messages meet the condition.
-/

namespace Ssam

namespace Manager

open Lib Function

section Agreement

variable {C F V : Type} (env : Env C F V)

/-- An install that sets no file aside keeps the agreement: it only takes the place
    of a file that can be spared, and one that fails does not leave a file the
    package could be made of; nor does a fresh one, clearing its place, let in a
    bundled package of the name. -/
def OverKeeps (k : FileKernel C) (files : Files C) (info : InstallInfo C F) (removeData : Bool)
    (mode : InstallMode) : Prop :=
  let copied := k.copies files.get info.dest.parent = true
  let cleared := k.removeFile info.dest = none
  let finishes := Finishes k env info removeData mode
  (copied ∨ cleared → Spare env files info.packageName (· = info.dest)) ∧
    (¬ (copied ∧ finishes) → cleared → mode = .fresh →
      OthersClaim env files info.packageName (· = info.dest) ∨
        NothingBundled env files info.packageName) ∧
    (copied → ¬ finishes → ¬ cleared →
      mode = .fresh ∧ ¬ Makes env info.dest info.packageFile)

/-- An upgrade of a downloaded package keeps the agreement: it does not get as far as
    setting the installed file aside, or the files that are in its way can be spared
    and, whichever way it ends, the only package its files can be made into is the
    one in the store. -/
def UpgradeKeeps (k : FileKernel C) (files : Files C) (info : InstallInfo C F)
    (removeData : Bool) (p : Package F) : Prop :=
  let mode := InstallMode.upgradeDownloaded p.path
  let backup := backupPathOf p.path
  let copied := k.copies (setAside mode files.get) info.dest.parent = true
  let finishes := Finishes k env info removeData mode
  let putBack := k.rename backup p.path = none
  let backupServes := isPackageFileName env.packagesExt backup.fileName = true ∧
    Makes env backup p.file
  -- Either nothing was touched, or nothing else of the name is touched and, in each of the
  -- outcomes, the files that are left make what the store has.
  BackupFails k mode files.get ∨
    Spare env files info.packageName
      (fun path => path = p.path ∨ path = backup ∨ copied ∧ path = info.dest) ∧
    (¬ copied → ¬ putBack → ¬ backupServes ∧
      (isPackageFileName env.packagesExt backup.fileName = true ∨
        OthersClaim env files info.packageName (· = p.path) ∨
        NothingBundled env files info.packageName)) ∧
    (copied → ¬ finishes → putBack → info.dest = p.path ∨ info.dest = backup ∨
      ¬ Makes env info.dest info.packageFile) ∧
    (copied → ¬ finishes → ¬ putBack → (backup ≠ info.dest → ¬ backupServes) ∧
      (info.dest ≠ p.path → ¬ Makes env info.dest info.packageFile)) ∧
    (copied → finishes → k.removeFile backup = none → info.dest ≠ backup) ∧
    (copied → finishes → k.removeFile backup ≠ none → backup ≠ info.dest → ¬ backupServes)

/-- The condition on an install that gets as far as its transaction. -/
def InstallKeeps (k : FileKernel C) (files : Files C) (info : InstallInfo C F)
    (removeData : Bool) (origPkg : Option (Package F)) : Prop :=
  match origPkg with
  | none => OverKeeps env k files info removeData .fresh
  | some p =>
      if isBundledPackage env p.path then OverKeeps env k files info removeData .upgradeBundled
      else UpgradeKeeps env k files info removeData p

/-- What is put into the store once the file at the path is gone is what a reload
    finds: the bundled package where it can be made, and nothing otherwise. -/
def RestoresBundled (m : ManagerState C F) (n : String) (path : Path) : Prop :=
  match m.store.getBundledPath n with
  | none => True
  | some bundledPath =>
      if (made env m.files bundledPath).isSome then
        ¬ OthersClaim env m.files n (· = path) ∧
          ∀ q, Offers env m.files env.bundledDir n q → q.path = bundledPath
      else OthersClaim env m.files n (· = path) ∨ NothingBundled env m.files n

/-- A removal keeps the agreement: it is refused or fails before it touches the file,
    or the file is removed and can be spared, and what is restored is what a reload
    finds. -/
def RemoveKeeps (o : Outcomes C) (m : ManagerState C F) (n : String) (purge : Bool) : Prop :=
  match m.store.get n with
  | some p =>
      isBundledPackage env p.path = true ∨ ¬ Released o n purge ∨
        o.file.removeFile p.path = none ∧ RestoresBundled env m n p.path
  | none =>
      match m.store.getBroken n with
      | none => True
      | some info =>
          isBundledPackage env info.packagePath = true ∨
            o.file.removeFile info.packagePath ≠ none ∧ m.files.get info.packagePath ≠ none ∨
            Spare env m.files n (· = info.packagePath) ∧
              RestoresBundled env m n info.packagePath

/-- The condition on a message and the state it meets. -/
def Keeps [LE V] [DecidableLE V] [ToString V] (m : ManagerState C F) : Event C → Prop
  | .install msg o => ∀ info origPkg content, Attempt env o m msg info origPkg content →
      InstallKeeps env o.file m.files info (removesData msg origPkg) origPkg
  | .remove msg o => RemoveKeeps env o m msg.packageName msg.purgeVolume

variable {env}

section Cases

variable {m : ManagerState C F}

/-- How an install that sets no file aside ends: the files are as they were, or its
    place is empty, or the new file is there. -/
theorem exit_over {k : FileKernel C} {info : InstallInfo C F} {content : C} {removeData : Bool}
    {mode : InstallMode} {at_ after : Path → Option C} {r : Except Error (Package F)}
    (hmode : mode = .fresh ∨ mode = .upgradeBundled)
    (h : InstallExit k env info content removeData mode at_ r after) :
    (after = at_ ∧ ∃ e, r = .error e) ∨
      (after = update at_ info.dest none ∧ k.removeFile info.dest = none ∧
        ¬ (k.copies at_ info.dest.parent = true ∧ Finishes k env info removeData mode) ∧
          ∃ e, r = .error e) ∨
      after = update at_ info.dest (some content) ∧ k.copies at_ info.dest.parent = true ∧
        (¬ Finishes k env info removeData mode ∧ k.removeFile info.dest ≠ none ∧
          (∃ e, r = .error e) ∨
        Finishes k env info removeData mode ∧ r = .ok ⟨info.packageFile, info.dest⟩) := by
  -- Nothing is set aside, so nothing is cleaned and the rollback only removes.
  have haside : setAside mode at_ = at_ := by rcases hmode with rfl | rfl <;> rfl
  have hclean : ∀ x : Path → Option C, cleaned k mode x = x := by
    rcases hmode with rfl | rfl <;> exact fun _ => rfl
  have hroll : ∀ x : Path → Option C, rolledBack k mode info.dest x =
      if k.removeFile info.dest = none then update x info.dest none else x := by
    rcases hmode with rfl | rfl <;> exact fun _ => rfl
  cases h with
  | backupFailed e hbackup => rcases hmode with rfl | rfl <;> exact hbackup.elim
  | copyFailed e hbackup hcopy =>
      rw [haside] at hcopy ⊢
      rw [hroll]
      -- The new file is gone if it can be removed.
      by_cases hclear : k.removeFile info.dest = none
      · rw [if_pos hclear]
        refine Or.inr (Or.inl ⟨rfl, hclear, fun h => ?_, e, rfl⟩)
        rw [hcopy] at h
        exact Bool.false_ne_true h.1
      · rw [if_neg hclear]
        exact Or.inl ⟨rfl, e, rfl⟩
  | finishFailed e hbackup hcopy hfinish =>
      rw [haside] at hcopy ⊢
      rw [hroll]
      by_cases hclear : k.removeFile info.dest = none
      · rw [if_pos hclear, update_idem]
        exact Or.inr (Or.inl ⟨rfl, hclear, fun h => hfinish h.2, e, rfl⟩)
      · rw [if_neg hclear]
        exact Or.inr (Or.inr ⟨rfl, hcopy, Or.inl ⟨hfinish, hclear, e, rfl⟩⟩)
  | installed hbackup hcopy hfinish =>
      rw [haside] at hcopy ⊢
      rw [hclean]
      exact Or.inr (Or.inr ⟨rfl, hcopy, Or.inr ⟨hfinish, rfl⟩⟩)

section Over

variable [LE V] {msg : InstallPackage C} {info : InstallInfo C F}
  {origPkg : Option (Package F)} {content : C} {files' : Files C} {v : Option C}

/-- Emptying or filling the place a package is installed in is a change for the sake
    of its name. -/
theorem changed_dest (hplan : Planned env m.store msg info origPkg content)
    (hfiles : HashMap.get files' = update m.files.get info.dest v)
    (hv : v = none ∨ v = some content) :
    Changed env m.files files' info.packageName (· = info.dest) := by
  refine changed_of_contents ?_ ?_ ?_
  · rintro path rfl
    rw [hplan.dest]
  · intro path _ hpath
    rw [hfiles, update_of_ne hpath]
  · rintro path rfl _
    rw [hfiles, update_self]
    exact hv.imp id fun h => ⟨content, info.packageFile, h, hplan.parses, hplan.name.symm⟩

/-- With nothing offered before, only the new file can be offered after. -/
theorem offers_dest (hplan : Planned env m.store msg info origPkg content)
    (hfiles : HashMap.get files' = update m.files.get info.dest v)
    (hv : v = none ∨ v = some content)
    (hbefore : ∀ q, ¬ Offers env m.files env.downloadedDir info.packageName q) {q : Package F}
    (hq : Offers env files' env.downloadedDir info.packageName q) :
    v = some content ∧ q = ⟨info.packageFile, info.dest⟩ ∧
      Makes env info.dest info.packageFile := by
  have hchanged := changed_dest hplan hfiles hv
  have hpath : q.path = info.dest := by
    by_contra hne
    exact hbefore q ((hchanged.offers hne).mp hq)
  have hget : HashMap.get files' q.path = v := by rw [hpath, hfiles, update_self]
  rcases hv with hv | hv
  · exact absurd (hget.trans hv) hq.get_ne_none
  · have hmade := hq.of_get (hget.trans hv) hplan.parses
    rw [hpath] at hmade
    exact ⟨hv, hmade.1, hmade.2⟩

/-- The new file has the name. -/
theorem claims_dest (hplan : Planned env m.store msg info origPkg content)
    (hfiles : HashMap.get files' info.dest = some content) :
    Claims env files' env.downloadedDir info.packageName info.dest.fileName := by
  refine claims_iff_get.mpr ⟨hplan.destName, content, ?_, ?_⟩
  · have hdest : (⟨env.downloadedDir, info.dest.fileName⟩ : Path) = info.dest := by
      rw [hplan.dest]
    rw [hdest, hfiles]
  · rw [parseContent_eq_ok.mpr ⟨content, rfl, hplan.parses⟩]
    exact hplan.name.symm

/-- What is served once the new file is in a place where nothing of the name was
    offered. -/
theorem serves_dest (hplan : Planned env m.store msg info origPkg content)
    (hfiles : HashMap.get files' = update m.files.get info.dest (some content))
    (hbefore : ∀ q, ¬ Offers env m.files env.downloadedDir info.packageName q)
    {o : Option (Package F)} (ho : Serves env files' info.packageName o) :
    (Makes env info.dest info.packageFile → o = some ⟨info.packageFile, info.dest⟩) ∧
      (¬ Makes env info.dest info.packageFile → o = none) := by
  have hget : HashMap.get files' info.dest = some content := by rw [hfiles, update_self]
  have honly : ∀ q, Offers env files' env.downloadedDir info.packageName q →
      q = ⟨info.packageFile, info.dest⟩ ∧ Makes env info.dest info.packageFile :=
    fun q hq => (offers_dest hplan hfiles (Or.inr rfl) hbefore hq).2
  constructor
  · intro hmakes
    have hoffer : Offers env files' env.downloadedDir info.packageName
        ⟨info.packageFile, info.dest⟩ :=
      offers_iff_get.mpr ⟨by rw [hplan.dest], hplan.destName, ⟨content, hget, hplan.parses⟩,
        hplan.name.symm, hmakes⟩
    exact serves_eq_some hoffer (fun q hq => (honly q hq).1) ho
  · intro hnot
    exact serves_eq_none (fun q hq => hnot (honly q hq).2)
      (Or.inl ⟨_, claims_dest hplan hget⟩) ho

end Over

section Handled

variable [LE V] {msg : InstallPackage C} {info : InstallInfo C F}
  {origPkg : Option (Package F)} {content : C} {files' : Files C} {S : Path → Prop}

omit [LE V] in
/-- What the store has under the name after a failed install is what can be made of
    the file the package was installed at. -/
theorem get_recovered (store : PackageStore F) (name n : String) (origPkg : Option (Package F))
    (hstore : origPkg = store.get name) :
    (recovered env files' store name origPkg).get n =
      if n = name then origPkg.bind fun p => made env files' p.path else store.get n := by
  cases origPkg with
  | some p => exact get_tryRecover files' store name n p.path
  | none =>
      rw [recovered, Option.bind_none]
      split
      · next hn => rw [hn, ← hstore]
      · rfl

/-- An install that fails keeps the invariant if what is served is what can be made of
    the file the package was installed at. -/
theorem Consistent.failed (h : Consistent env m)
    (hplan : Planned env m.store msg info origPkg content)
    (hchanged : Changed env m.files files' info.packageName S)
    (hspare : Spare env m.files info.packageName S)
    (hn : ∀ o, Serves env files' info.packageName o →
      o = origPkg.bind fun p => made env files' p.path) :
    Consistent env ⟨recovered env files' (m.store.removeBroken info.dest.fileName)
      info.packageName origPkg, files'⟩ := by
  have horig : origPkg = (m.store.removeBroken info.dest.fileName).get info.packageName :=
    hplan.orig
  refine h.change hchanged hspare ?_ ?_ ?_ ?_
  · intro x hx
    rw [get_recovered _ _ _ _ horig, if_neg hx, PackageStore.get_removeBroken]
  · intro x
    cases origPkg with
    | none => rfl
    | some p => exact getBundledPath_tryRecover files' _ _ x p.path
  · intro x found hfound
    -- Nothing new is broken, and the entry of the file was cleared.
    have hbroken : (m.store.removeBroken info.dest.fileName).getBroken x = some found := by
      cases origPkg with
      | none => exact hfound
      | some p => rwa [recovered, getBroken_tryRecover] at hfound
    rw [PackageStore.getBroken_removeBroken] at hbroken
    split at hbroken
    · exact absurd hbroken.symm (Option.some_ne_none found)
    · exact hbroken
  · intro o ho
    rw [get_recovered _ _ _ _ horig, if_pos rfl]
    exact hn o ho

/-- An install that changed no file keeps the invariant. -/
theorem Consistent.untouched (h : Consistent env m)
    (hplan : Planned env m.store msg info origPkg content)
    (hfiles : HashMap.get files' = m.files.get) :
    Consistent env ⟨recovered env files' (m.store.removeBroken info.dest.fileName)
      info.packageName origPkg, files'⟩ := by
  -- The files are the same, so the package is loaded as it was.
  have hsame : ∀ path : Path, isPackageFileName env.packagesExt path.fileName = true →
      HashMap.get files' path = m.files.get path := fun path _ => by rw [hfiles]
  refine h.failed (S := fun _ => False) hplan ?_ ?_ ?_
  · exact ⟨fun _ hS => hS.elim, fun path hpath _ => hsame path hpath, fun _ _ hS => hS.elim⟩
  · exact fun _ _ hS => hS.elim
  · intro o ho
    rw [h.agrees _ o (serves_same hsame ho), ← hplan.orig]
    cases horig : origPkg with
    | none => rfl
    | some p =>
        have hserves := h.serves info.packageName
        rw [← hplan.orig, horig] at hserves
        have hmade : made env files' p.path = made env m.files p.path :=
          made_congr (by rw [hfiles])
        rw [Option.bind_some, hmade]
        cases hserves with
        | downloaded _ hp => exact hp.made.symm
        | bundled _ _ hp => exact hp.made.symm

/-- An install that succeeds keeps the invariant if the new file is what is served. -/
theorem Consistent.replaced (h : Consistent env m)
    (hplan : Planned env m.store msg info origPkg content)
    (hchanged : Changed env m.files files' info.packageName S)
    (hspare : Spare env m.files info.packageName S)
    (hn : ∀ o, Serves env files' info.packageName o → o = some ⟨info.packageFile, info.dest⟩) :
    Consistent env ⟨(m.store.removeBroken info.dest.fileName).insert
      (env.packageName info.packageFile) ⟨info.packageFile, info.dest⟩, files'⟩ := by
  rw [← hplan.name]
  refine h.change hchanged hspare ?_ (fun x => rfl) ?_ ?_
  · intro x hx
    rw [PackageStore.get_insert, if_neg hx, PackageStore.get_removeBroken]
  · intro x found hfound
    rw [PackageStore.getBroken_insert, PackageStore.getBroken_removeBroken] at hfound
    split at hfound
    · exact absurd hfound.symm (Option.some_ne_none found)
    · exact hfound
  · intro o ho
    rw [PackageStore.get_insert, if_pos rfl]
    exact hn o ho

/-- How an install leaves the store. -/
def settled (env : Env C F V) (m : ManagerState C F) (info : InstallInfo C F)
    (origPkg : Option (Package F)) (files' : Files C) : Except Error (Package F) →
    ManagerState C F
  | .ok built => ⟨(m.store.removeBroken info.dest.fileName).insert
      (env.packageName built.file) built, files'⟩
  | .error _ => ⟨recovered env files' (m.store.removeBroken info.dest.fileName)
      info.packageName origPkg, files'⟩

/-- An install that sets no file aside keeps the invariant under its condition. -/
theorem consistent_over (h : Consistent env m)
    (hplan : Planned env m.store msg info origPkg content)
    (hbundled : ∀ p, origPkg = some p → isBundledPackage env p.path = true)
    {k : FileKernel C} {removeData : Bool}
    (hkeeps : OverKeeps env k m.files info removeData (installMode env origPkg))
    {r : Except Error (Package F)}
    (hexit : InstallExit k env info content removeData (installMode env origPkg) m.files.get r
      (HashMap.get files')) :
    Consistent env (settled env m info origPkg files' r) := by
  have hmode : installMode env origPkg = .fresh ∨ installMode env origPkg = .upgradeBundled := by
    cases origPkg with
    | none => exact Or.inl rfl
    | some p => exact Or.inr (if_pos (hbundled p rfl))
  -- Nothing of the name is on offer in the directory the new file goes to.
  have hbefore : ∀ q, ¬ Offers env m.files env.downloadedDir info.packageName q := by
    cases horig : origPkg with
    | none => exact (h.absent (hplan.orig.symm.trans horig)).1
    | some p =>
        have hfree := (h.bundled (hplan.orig.symm.trans horig) (hbundled p horig)).1
        exact fun q hq => (not_exists.mpr hfree) hq.claims
  rcases hkeeps with ⟨hspare, hclears, hstays⟩
  rcases exit_over hmode hexit with ⟨hfiles, e, rfl⟩ | ⟨hfiles, hclear, hnot, e, rfl⟩ |
    ⟨hfiles, hcopied, ⟨hnot, hclear, e, rfl⟩ | ⟨hfinish, rfl⟩⟩
  · exact h.untouched hplan hfiles
  · have hchanged := changed_dest hplan hfiles (Or.inl rfl)
    have hnone : ∀ q, ¬ Offers env files' env.downloadedDir info.packageName q := fun q hq =>
      Option.some_ne_none content (offers_dest hplan hfiles (Or.inl rfl) hbefore hq).1.symm
    refine h.failed hplan hchanged (hspare (Or.inr hclear)) fun o ho => ?_
    cases horig : origPkg with
    | none =>
        refine serves_eq_none hnone ?_ ho
        rcases hclears hnot hclear (by rw [horig]; rfl) with ⟨f, hf, hne⟩ | hno
        · exact Or.inl ⟨f, (hchanged.claims hne).mpr hf⟩
        · exact Or.inr fun q hq => hno q (hchanged.bundled_offers.mp hq)
    | some p =>
        rcases h.bundled (hplan.orig.symm.trans horig) (hbundled p horig) with
          ⟨hfree, hoffer, hsole⟩
        have hoffer' := hchanged.bundled_offers.mpr hoffer
        rw [Option.bind_some, hoffer'.made]
        refine serves_eq_bundled (fun f hf => ?_) hoffer'
          (fun q hq => hsole q (hchanged.bundled_offers.mp hq)) ho
        by_cases hdest : (⟨env.downloadedDir, f⟩ : Path) = info.dest
        · rcases claims_iff_get.mp hf with ⟨-, found, hget, -⟩
          rw [hdest, hfiles, update_self] at hget
          exact Option.some_ne_none found hget.symm
        · exact hfree f ((hchanged.claims hdest).mp hf)
  · rcases hstays hcopied hnot hclear with ⟨hfresh, hmakes⟩
    have horig : origPkg = none := by
      cases horig : origPkg with
      | none => rfl
      | some p =>
          rw [horig, installMode, if_pos (hbundled p horig)] at hfresh
          exact absurd hfresh (by simp only [reduceCtorEq, not_false_eq_true])
    refine h.failed hplan (changed_dest hplan hfiles (Or.inr rfl)) (hspare (Or.inl hcopied))
      fun o ho => ?_
    rw [horig]
    exact (serves_dest hplan hfiles hbefore ho).2 hmakes
  · refine h.replaced hplan (changed_dest hplan hfiles (Or.inr rfl)) (hspare (Or.inl hcopied))
      fun o ho => ?_
    exact (serves_dest hplan hfiles hbefore ho).1 (makes_of_finishes hplan hfinish)

section Upgrade

variable {p : Package F} (hinst : Installed env m info.packageName p)
  (hplan : Planned env m.store msg info (some p) content)

include hinst hplan

/-- Moving the old file or putting the new one in its place is a change for the sake of
    the name. -/
theorem changed_upgrade (hS : ∀ path, S path → path = p.path ∨ path = backupPathOf p.path ∨
      path = info.dest)
    (hframe : ∀ path, ¬ S path → HashMap.get files' path = m.files.get path)
    (hin : ∀ path, S path → HashMap.get files' path = none ∨
      HashMap.get files' path = m.files.get p.path ∨ HashMap.get files' path = some content) :
    Changed env m.files files' info.packageName S := by
  rcases hinst.file with ⟨-, ⟨old, hget, hold⟩, hname, -⟩
  refine changed_of_contents ?_ (fun path _ hpath => hframe path hpath) ?_
  · intro path hpath
    rcases hS path hpath with rfl | rfl | rfl
    · exact hinst.downloaded
    · exact hinst.downloaded
    · rw [hplan.dest]
  · intro path hpath _
    rcases hin path hpath with h | h | h
    · exact Or.inl h
    · exact Or.inr ⟨old, p.file, h.trans hget, hold, hname⟩
    · exact Or.inr ⟨content, info.packageFile, h, hplan.parses, hplan.name.symm⟩

omit hplan [LE V] in
/-- What is offered after the change is offered from a file that was changed. -/
theorem offers_upgrade (hchanged : Changed env m.files files' info.packageName S)
    (hp : S p.path) {q : Package F}
    (hq : Offers env files' env.downloadedDir info.packageName q) : S q.path := by
  by_contra hne
  rw [hinst.sole.2 q ((hchanged.offers hne).mp hq)] at hne
  exact hne hp

/-- A package file that holds the old content or the new one has the name. -/
theorem claims_upgrade {path : Path} (hparent : path.parent = env.downloadedDir)
    (hpkg : isPackageFileName env.packagesExt path.fileName = true)
    (hget : HashMap.get files' path = m.files.get p.path ∨
      HashMap.get files' path = some content) :
    Claims env files' env.downloadedDir info.packageName path.fileName := by
  rcases hinst.file with ⟨-, ⟨old, hold, hparses⟩, hname, -⟩
  have hpath : (⟨env.downloadedDir, path.fileName⟩ : Path) = path := by rw [← hparent]
  rw [claims_iff_get, hpath]
  rcases hget with hget | hget
  · refine ⟨hpkg, old, hget.trans hold, ?_⟩
    rw [parseContent_eq_ok.mpr ⟨old, rfl, hparses⟩]
    exact hname
  · refine ⟨hpkg, content, hget, ?_⟩
    rw [parseContent_eq_ok.mpr ⟨content, rfl, hplan.parses⟩]
    exact hplan.name.symm

omit [LE V] hplan in
/-- What is offered from a file with the old content is the old package, made there. -/
theorem offers_old {q : Package F}
    (hq : Offers env files' env.downloadedDir info.packageName q)
    (hget : HashMap.get files' q.path = m.files.get p.path) : Makes env q.path p.file := by
  rcases hinst.file with ⟨-, ⟨old, hold, hparses⟩, -, -⟩
  exact (hq.of_get (hget.trans hold) hparses).2

omit hinst in
/-- What is offered from a file with the new content is made of the new file. -/
theorem offers_new {q : Package F}
    (hq : Offers env files' env.downloadedDir info.packageName q)
    (hget : HashMap.get files' q.path = some content) : Makes env q.path info.packageFile :=
  (hq.of_get hget hplan.parses).2

/-- An upgrade that fails with a file at the installed path keeps the invariant, if a
    package can be made of no other file it changed. -/
theorem Consistent.failed_there (h : Consistent env m)
    (hchanged : Changed env m.files files' info.packageName S)
    (hspare : Spare env m.files info.packageName S) (hp : S p.path)
    (hget : HashMap.get files' p.path = m.files.get p.path ∨
      HashMap.get files' p.path = some content)
    (hsole : ∀ q, Offers env files' env.downloadedDir info.packageName q → S q.path →
      q.path = p.path) :
    Consistent env ⟨recovered env files' (m.store.removeBroken info.dest.fileName)
      info.packageName (some p), files'⟩ := by
  refine h.failed hplan hchanged hspare fun o ho => ?_
  exact serves_eq_made hinst.downloaded
    (claims_upgrade hinst hplan hinst.downloaded hinst.file.1 hget)
    (fun q hq => hsole q hq (offers_upgrade hinst hchanged hp hq)) ho

/-- One that fails and leaves no file there keeps it if a package can be made of none
    of the files it changed, and a file that has the name keeps the bundled ones out. -/
theorem Consistent.failed_gone (h : Consistent env m)
    (hchanged : Changed env m.files files' info.packageName S)
    (hspare : Spare env m.files info.packageName S) (hp : S p.path)
    (hget : HashMap.get files' p.path = none)
    (hsole : ∀ q, Offers env files' env.downloadedDir info.packageName q → ¬ S q.path)
    (hout : (∃ f, Claims env files' env.downloadedDir info.packageName f) ∨
      NothingBundled env files' info.packageName) :
    Consistent env ⟨recovered env files' (m.store.removeBroken info.dest.fileName)
      info.packageName (some p), files'⟩ := by
  refine h.failed hplan hchanged hspare fun o ho => ?_
  rw [Option.bind_some, made_of_none hget]
  exact serves_eq_none (fun q hq => hsole q hq (offers_upgrade hinst hchanged hp hq)) hout ho

/-- The files after the installed one was set aside and put back: the backup's
    place is empty. -/
theorem consistent_putBack (h : Consistent env m) (hp : S p.path) (hb : S (backupPathOf p.path))
    (hS : ∀ path, S path → path = p.path ∨ path = backupPathOf p.path)
    (hspare : Spare env m.files info.packageName S)
    (hfiles : HashMap.get files' = update m.files.get (backupPathOf p.path) none) :
    Consistent env ⟨recovered env files' (m.store.removeBroken info.dest.fileName)
      info.packageName (some p), files'⟩ := by
  -- The installed file is back, and no backup is left.
  have hgetI : HashMap.get files' p.path = m.files.get p.path := by
    rw [hfiles, update_of_ne (backupPathOf_ne p.path).symm]
  have hgetB : HashMap.get files' (backupPathOf p.path) = none := by rw [hfiles, update_self]
  have hchanged : Changed env m.files files' info.packageName S := by
    refine changed_upgrade hinst hplan (fun path hpath => ?_) (fun path hpath => ?_)
      fun path hpath => ?_
    · exact (hS path hpath).imp_right Or.inl
    · rw [hfiles, update_of_ne]
      rintro rfl
      exact hpath hb
    · rcases hS path hpath with rfl | rfl
      · exact Or.inr (Or.inl hgetI)
      · exact Or.inl hgetB
  refine h.failed_there hinst hplan hchanged hspare hp (Or.inl hgetI) fun q hq hSq => ?_
  rcases hS _ hSq with hI | hB
  · exact hI
  · rw [← hB] at hgetB
    exact absurd hgetB hq.get_ne_none

/-- The files after the installed one was set aside and not put back. -/
theorem consistent_aside (h : Consistent env m) (hp : S p.path) (hb : S (backupPathOf p.path))
    (hS : ∀ path, S path → path = p.path ∨ path = backupPathOf p.path)
    (hspare : Spare env m.files info.packageName S)
    (hserves : ¬ (isPackageFileName env.packagesExt (backupPathOf p.path).fileName = true ∧
      Makes env (backupPathOf p.path) p.file))
    (hout : isPackageFileName env.packagesExt (backupPathOf p.path).fileName = true ∨
      OthersClaim env m.files info.packageName (· = p.path) ∨
        NothingBundled env m.files info.packageName)
    (hfiles : HashMap.get files' = setAside (.upgradeDownloaded p.path) m.files.get) :
    Consistent env ⟨recovered env files' (m.store.removeBroken info.dest.fileName)
      info.packageName (some p), files'⟩ := by
  -- The installed file is at the name of the backup, and nothing at its own.
  have hgetB : HashMap.get files' (backupPathOf p.path) = m.files.get p.path := by
    rw [hfiles, setAside, renamed, update_self]
  have hgetI : HashMap.get files' p.path = none := by
    rw [hfiles, setAside, renamed, update_of_ne (backupPathOf_ne p.path).symm, update_self]
  have hframe : ∀ path, path ≠ p.path → path ≠ backupPathOf p.path →
      HashMap.get files' path = m.files.get path := by
    intro path hI hB
    rw [hfiles, setAside, renamed, update_of_ne hB, update_of_ne hI]
  have hchanged : Changed env m.files files' info.packageName S := by
    refine changed_upgrade hinst hplan (fun path hpath => ?_) (fun path hpath => ?_)
      fun path hpath => ?_
    · exact (hS path hpath).imp_right Or.inl
    · exact hframe path (fun hI => hpath (hI ▸ hp)) fun hB => hpath (hB ▸ hb)
    · rcases hS path hpath with rfl | rfl
      · exact Or.inl hgetI
      · exact Or.inr (Or.inl hgetB)
  refine h.failed_gone hinst hplan hchanged hspare hp hgetI (fun q hq hSq => ?_) ?_
  · rcases hS _ hSq with hI | hB
    · rw [← hI] at hgetI
      exact hq.get_ne_none hgetI
    · have hmakes := offers_old hinst hq (hB ▸ hgetB)
      have hpkg := (offers_iff_get.mp hq).2.1
      rw [hB] at hmakes hpkg
      exact hserves ⟨hpkg, hmakes⟩
  · -- Either the backup counts as a package file, or another file keeps the bundled one out.
    by_cases hpkg : isPackageFileName env.packagesExt (backupPathOf p.path).fileName = true
    · have hparent : (backupPathOf p.path).parent = env.downloadedDir := hinst.downloaded
      exact Or.inl ⟨_, claims_upgrade hinst hplan hparent hpkg (Or.inl hgetB)⟩
    · rcases hout.resolve_left hpkg with ⟨f, hf, hne⟩ | hnone
      · have hB : (⟨env.downloadedDir, f⟩ : Path) ≠ backupPathOf p.path := by
          intro hB
          rw [← hB] at hpkg
          exact hpkg (claims_iff_get.mp hf).1
        refine Or.inl ⟨f, (hchanged.claims fun hSf => ?_).mpr hf⟩
        exact (hS _ hSf).elim hne hB
      · exact Or.inr fun q hq => hnone q (hchanged.bundled_offers.mp hq)

/-- The files after a later failure, with the backup put back. -/
theorem consistent_replacedBack (h : Consistent env m) {k : FileKernel C}
    (hroll : k.rename (backupPathOf p.path) p.path = none)
    (hbackup : ¬ BackupFails k (.upgradeDownloaded p.path) m.files.get)
    (hS : ∀ path, S path ↔ path = p.path ∨ path = backupPathOf p.path ∨ path = info.dest)
    (hspare : Spare env m.files info.packageName S)
    (hmakes : info.dest = p.path ∨ info.dest = backupPathOf p.path ∨
      ¬ Makes env info.dest info.packageFile)
    (hfiles : HashMap.get files' = rolledBack k (.upgradeDownloaded p.path) info.dest
      (update (setAside (.upgradeDownloaded p.path) m.files.get) info.dest (some content))) :
    Consistent env ⟨recovered env files' (m.store.removeBroken info.dest.fileName)
      info.packageName (some p), files'⟩ := by
  have hget : ∀ path, HashMap.get files' path =
      if path = p.path then
        if info.dest = backupPathOf p.path then some content else m.files.get p.path
      else if path = backupPathOf p.path then none
      else if path = info.dest then some content
      else m.files.get path := by
    intro path
    rw [hfiles]
    exact rolledBack_replaced hroll hbackup path
  -- At the name of the installed file is that file or the new one.
  have hgetI : HashMap.get files' p.path = m.files.get p.path ∨
      HashMap.get files' p.path = some content := by
    rw [hget, if_pos rfl]
    split
    · exact Or.inr rfl
    · exact Or.inl rfl
  have hchanged : Changed env m.files files' info.packageName S := by
    refine changed_upgrade hinst hplan (fun path hpath => (hS path).mp hpath)
      (fun path hpath => ?_) fun path hpath => ?_
    · rw [hS, not_or, not_or] at hpath
      rw [hget, if_neg hpath.1, if_neg hpath.2.1, if_neg hpath.2.2]
    · by_cases hI : path = p.path
      · rw [hI]
        exact Or.inr hgetI
      · rw [hget, if_neg hI]
        by_cases hB : path = backupPathOf p.path
        · exact Or.inl (if_pos hB)
        · rw [if_neg hB, if_pos ((((hS path).mp hpath).resolve_left hI).resolve_left hB)]
          exact Or.inr (Or.inr rfl)
  refine h.failed_there hinst hplan hchanged hspare ((hS _).mpr (Or.inl rfl)) hgetI
    fun q hq hSq => ?_
  -- Another file that makes the package would be the backup or the new one.
  by_contra hI
  by_cases hB : q.path = backupPathOf p.path
  · refine hq.get_ne_none ?_
    rw [hget, if_neg hI, if_pos hB]
  · have hD : q.path = info.dest := (((hS _).mp hSq).resolve_left hI).resolve_left hB
    have hnew := offers_new hplan hq (by rw [hget, if_neg hI, if_neg hB, if_pos hD])
    rw [hD] at hnew hI hB
    exact (hmakes.resolve_left hI).resolve_left hB hnew

/-- What the files are once the new one is in its place. -/
theorem changed_replaced
    (hS : ∀ path, S path ↔ path = p.path ∨ path = backupPathOf p.path ∨ path = info.dest)
    (hfiles : HashMap.get files' =
      update (setAside (.upgradeDownloaded p.path) m.files.get) info.dest (some content)) :
    Changed env m.files files' info.packageName S ∧
      HashMap.get files' info.dest = some content ∧
      (p.path ≠ info.dest → HashMap.get files' p.path = none) ∧
      (backupPathOf p.path ≠ info.dest →
        HashMap.get files' (backupPathOf p.path) = m.files.get p.path) := by
  -- What is at each of the three names, as far as they differ.
  have hgetD : HashMap.get files' info.dest = some content := by rw [hfiles, update_self]
  have hgetI : p.path ≠ info.dest → HashMap.get files' p.path = none := by
    intro hne
    rw [hfiles, update_of_ne hne, setAside, renamed,
      update_of_ne (backupPathOf_ne p.path).symm, update_self]
  have hgetB : backupPathOf p.path ≠ info.dest →
      HashMap.get files' (backupPathOf p.path) = m.files.get p.path := by
    intro hne
    rw [hfiles, update_of_ne hne, setAside, renamed, update_self]
  refine ⟨?_, hgetD, hgetI, hgetB⟩
  refine changed_upgrade hinst hplan (fun path hpath => (hS path).mp hpath)
    (fun path hpath => ?_) fun path hpath => ?_
  · rw [hS, not_or, not_or] at hpath
    rw [hfiles, update_of_ne hpath.2.2, setAside, renamed, update_of_ne hpath.2.1,
      update_of_ne hpath.1]
  · by_cases hD : path = info.dest
    · rw [hD]
      exact Or.inr (Or.inr hgetD)
    · rcases (hS path).mp hpath with rfl | rfl | hdest
      · exact Or.inl (hgetI hD)
      · exact Or.inr (Or.inl (hgetB hD))
      · exact absurd hdest hD

/-- The files after a later failure, with the backup left where it is. -/
theorem consistent_replaced (h : Consistent env m)
    (hS : ∀ path, S path ↔ path = p.path ∨ path = backupPathOf p.path ∨ path = info.dest)
    (hspare : Spare env m.files info.packageName S)
    (hserves : backupPathOf p.path ≠ info.dest →
      ¬ (isPackageFileName env.packagesExt (backupPathOf p.path).fileName = true ∧
        Makes env (backupPathOf p.path) p.file))
    (hmakes : info.dest ≠ p.path → ¬ Makes env info.dest info.packageFile)
    (hfiles : HashMap.get files' =
      update (setAside (.upgradeDownloaded p.path) m.files.get) info.dest (some content)) :
    Consistent env ⟨recovered env files' (m.store.removeBroken info.dest.fileName)
      info.packageName (some p), files'⟩ := by
  rcases changed_replaced hinst hplan hS hfiles with ⟨hchanged, hgetD, hgetI, hgetB⟩
  have hp : S p.path := (hS _).mpr (Or.inl rfl)
  -- The backup does not make the package.
  have hnotB : ∀ q, Offers env files' env.downloadedDir info.packageName q →
      backupPathOf p.path ≠ info.dest → q.path ≠ backupPathOf p.path := by
    intro q hq hne hB
    have hold := offers_old hinst hq (hB ▸ hgetB hne)
    have hpkg := (offers_iff_get.mp hq).2.1
    rw [hB] at hold hpkg
    exact hserves hne ⟨hpkg, hold⟩
  -- The new file is where the installed one was, or else it makes nothing there.
  by_cases hD : info.dest = p.path
  · refine h.failed_there hinst hplan hchanged hspare hp (Or.inr (hD ▸ hgetD)) fun q hq hSq => ?_
    rcases (hS _).mp hSq with hI | hB | hdest
    · exact hI
    · exact absurd hB (hnotB q hq (hD ▸ backupPathOf_ne p.path))
    · exact hdest.trans hD
  · have hparent : info.dest.parent = env.downloadedDir := by rw [hplan.dest]
    refine h.failed_gone hinst hplan hchanged hspare hp (hgetI fun hI => hD hI.symm)
      (fun q hq hSq => ?_)
      (Or.inl ⟨_, claims_upgrade hinst hplan hparent hplan.destName (Or.inr hgetD)⟩)
    by_cases hdest : q.path = info.dest
    · have hnew := offers_new hplan hq (hdest ▸ hgetD)
      rw [hdest] at hnew
      exact hmakes hD hnew
    · rcases (hS _).mp hSq with hI | hB | hdest'
      · rw [hI] at hdest
        have hnone := hgetI hdest
        rw [← hI] at hnone
        exact hq.get_ne_none hnone
      · exact hnotB q hq (fun hne => hdest (hB.trans hne)) hB
      · exact hdest hdest'

/-- The files after an upgrade that succeeds. -/
theorem consistent_upgraded (h : Consistent env m) {k : FileKernel C}
    (hS : ∀ path, S path ↔ path = p.path ∨ path = backupPathOf p.path ∨ path = info.dest)
    (hspare : Spare env m.files info.packageName S)
    (hmakes : Makes env info.dest info.packageFile)
    (hremoved : k.removeFile (backupPathOf p.path) = none → info.dest ≠ backupPathOf p.path)
    (hserves : k.removeFile (backupPathOf p.path) ≠ none → backupPathOf p.path ≠ info.dest →
      ¬ (isPackageFileName env.packagesExt (backupPathOf p.path).fileName = true ∧
        Makes env (backupPathOf p.path) p.file))
    (hfiles : HashMap.get files' = cleaned k (.upgradeDownloaded p.path)
      (update (setAside (.upgradeDownloaded p.path) m.files.get) info.dest (some content))) :
    Consistent env ⟨(m.store.removeBroken info.dest.fileName).insert
      (env.packageName info.packageFile) ⟨info.packageFile, info.dest⟩, files'⟩ := by
  have hget : ∀ path, HashMap.get files' path =
      if k.removeFile (backupPathOf p.path) = none ∧ path = backupPathOf p.path then none
      else update (setAside (.upgradeDownloaded p.path) m.files.get) info.dest (some content)
        path := by
    intro path
    rw [hfiles, cleaned]
    by_cases hremove : k.removeFile (backupPathOf p.path) = none
    · rw [if_pos hremove, update_apply]
      simp only [hremove, true_and]
    · simp only [hremove, false_and, if_false]
  -- The new file is in place, and not taken away as the backup.
  have hgetD : HashMap.get files' info.dest = some content := by
    rw [hget, if_neg fun hb => hremoved hb.1 hb.2, update_self]
  -- The installed file is gone, unless the new one took its place.
  have hgetI : p.path ≠ info.dest → HashMap.get files' p.path = none := by
    intro hne
    rw [hget]
    split
    · rfl
    · rw [update_of_ne hne, setAside, renamed, update_of_ne (backupPathOf_ne p.path).symm,
        update_self]
  -- The backup is gone, or it holds the old file.
  have hgetB : backupPathOf p.path ≠ info.dest →
      HashMap.get files' (backupPathOf p.path) = none ∨
        k.removeFile (backupPathOf p.path) ≠ none ∧
          HashMap.get files' (backupPathOf p.path) = m.files.get p.path := by
    intro hne
    rw [hget]
    by_cases hremove : k.removeFile (backupPathOf p.path) = none
    · exact Or.inl (if_pos ⟨hremove, rfl⟩)
    · rw [if_neg fun hb => hremove hb.1, update_of_ne hne, setAside, renamed, update_self]
      exact Or.inr ⟨hremove, rfl⟩
  have hchanged : Changed env m.files files' info.packageName S := by
    refine changed_upgrade hinst hplan (fun path hpath => (hS path).mp hpath)
      (fun path hpath => ?_) fun path hpath => ?_
    · rw [hS, not_or, not_or] at hpath
      rw [hget, if_neg fun hb => hpath.2.1 hb.2, update_of_ne hpath.2.2, setAside, renamed,
        update_of_ne hpath.2.1, update_of_ne hpath.1]
    · by_cases hD : path = info.dest
      · rw [hD]
        exact Or.inr (Or.inr hgetD)
      · rcases (hS path).mp hpath with rfl | rfl | hdest
        · exact Or.inl (hgetI hD)
        · exact (hgetB hD).imp id fun hold => Or.inl hold.2
        · exact absurd hdest hD
  refine h.replaced hplan hchanged hspare fun o ho => ?_
  have hparent : info.dest.parent = env.downloadedDir := by rw [hplan.dest]
  have hmade : made env files' info.dest = some ⟨info.packageFile, info.dest⟩ :=
    (made_of_get hgetD hplan.parses).mpr ⟨rfl, hmakes⟩
  rw [← hmade]
  refine serves_eq_made hparent
    (claims_upgrade hinst hplan hparent hplan.destName (Or.inr hgetD)) (fun q hq => ?_) ho
  -- Whatever else makes the package is one of the files that were touched.
  by_contra hD
  rcases (hS _).mp (offers_upgrade hinst hchanged ((hS _).mpr (Or.inl rfl)) hq) with
    hI | hB | hdest
  · rw [hI] at hD
    have hnone := hgetI hD
    rw [← hI] at hnone
    exact hq.get_ne_none hnone
  · rw [hB] at hD
    rcases hgetB hD with hnone | ⟨hremove, hold⟩
    · rw [← hB] at hnone
      exact hq.get_ne_none hnone
    · have hmakesB := offers_old hinst hq (hB ▸ hold)
      have hpkg := (offers_iff_get.mp hq).2.1
      rw [hB] at hmakesB hpkg
      exact hserves hremove hD ⟨hpkg, hmakesB⟩
  · exact hD hdest

omit hplan [LE V] hinst in
/-- Where the copy fails, its place is none of those that are changed. -/
theorem touched_iff {copied : Prop} (hcopied : ¬ copied) (q dest path : Path) :
    (path = q ∨ path = backupPathOf q ∨ copied ∧ path = dest) ↔
      path = q ∨ path = backupPathOf q := by
  simp only [hcopied, false_and, or_false]

/-- An upgrade of a downloaded package keeps the invariant under its condition. -/
theorem consistent_upgrade (h : Consistent env m) {k : FileKernel C} {removeData : Bool}
    (hkeeps : UpgradeKeeps env k m.files info removeData p) {r : Except Error (Package F)}
    (hexit : InstallExit k env info content removeData (.upgradeDownloaded p.path) m.files.get r
      (HashMap.get files')) :
    Consistent env (settled env m info (some p) files' r) := by
  generalize hget : HashMap.get files' = got at hexit
  cases hexit with
  | backupFailed e hbackup => exact h.untouched hplan hget
  | copyFailed e hbackup hcopy =>
      rcases hkeeps.resolve_left hbackup with ⟨hspare, hkept, -⟩
      -- There is no copy, so only the two names of the installed file are touched.
      have hnot : ¬ k.copies (setAside (.upgradeDownloaded p.path) m.files.get)
          info.dest.parent = true := by
        rw [hcopy]
        exact Bool.false_ne_true
      have hS := fun path hpath => (touched_iff hnot p.path info.dest path).mp hpath
      by_cases hroll : k.rename (backupPathOf p.path) p.path = none
      · rw [rolledBack_setAside hroll hbackup] at hget
        exact consistent_putBack hinst hplan h (Or.inl rfl) (Or.inr (Or.inl rfl)) hS hspare hget
      · rw [rolledBack, if_neg fun hback => hroll hback.1] at hget
        rcases hkept hnot hroll with ⟨hserves, hout⟩
        exact consistent_aside hinst hplan h (Or.inl rfl) (Or.inr (Or.inl rfl)) hS hspare hserves
          hout hget
  | finishFailed e hbackup hcopy hfinish =>
      rcases hkeeps.resolve_left hbackup with ⟨hspare, -, hback, hleft, -⟩
      simp only [hcopy, true_and] at hspare
      by_cases hroll : k.rename (backupPathOf p.path) p.path = none
      · exact consistent_replacedBack hinst hplan h hroll hbackup (fun _ => Iff.rfl) hspare
          (hback hcopy hfinish hroll) hget
      · rw [rolledBack, if_neg fun hput => hroll hput.1] at hget
        rcases hleft hcopy hfinish hroll with ⟨hserves, hmakes⟩
        exact consistent_replaced hinst hplan h (fun _ => Iff.rfl) hspare hserves hmakes hget
  | installed hbackup hcopy hfinish =>
      rcases hkeeps.resolve_left hbackup with ⟨hspare, -, -, -, hremoved, hstays⟩
      simp only [hcopy, true_and] at hspare
      exact consistent_upgraded hinst hplan h (fun _ => Iff.rfl) hspare
        (makes_of_finishes hplan hfinish) (hremoved hcopy hfinish) (hstays hcopy hfinish) hget

end Upgrade

/-- An install that gets as far as its transaction keeps the invariant under its
    condition. -/
theorem consistent_settled (h : Consistent env m)
    (hplan : Planned env m.store msg info origPkg content) {k : FileKernel C} {removeData : Bool}
    (hkeeps : InstallKeeps env k m.files info removeData origPkg)
    {r : Except Error (Package F)}
    (hexit : InstallExit k env info content removeData (installMode env origPkg) m.files.get r
      (HashMap.get files')) :
    Consistent env (settled env m info origPkg files' r) := by
  cases origPkg with
  | none =>
      refine consistent_over h hplan (fun p hp => ?_) hkeeps hexit
      exact absurd hp.symm (Option.some_ne_none p)
  | some p =>
      rw [InstallKeeps] at hkeeps
      by_cases hb : isBundledPackage env p.path = true
      · have hmode : installMode env (some p) = .upgradeBundled := if_pos hb
        rw [if_pos hb, ← hmode] at hkeeps
        refine consistent_over h hplan (fun q hq => ?_) hkeeps hexit
        rwa [← Option.some.inj hq]
      · rw [if_neg hb] at hkeeps
        -- A downloaded one is set aside.
        have hinst := h.installed hplan.orig.symm (Bool.not_eq_true _ ▸ hb)
        rw [hinst.mode] at hexit
        exact consistent_upgrade hinst hplan h hkeeps hexit

end Handled

section Removal

variable {n : String} {path : Path} {store : PackageStore F} {files' : Files C}

/-- Once the file at the path is gone, what is restored is what is served. -/
theorem get_restored (h : Consistent env m)
    (hchanged : Changed env m.files files' n (· = path))
    (hgone : HashMap.get files' path = none)
    (hsole : ∀ q, Offers env m.files env.downloadedDir n q → q.path = path)
    (hrestores : RestoresBundled env m n path) {o : Option (Package F)}
    (ho : Serves env files' n o) :
    o = (m.store.getBundledPath n).bind (made env files') := by
  -- The file that is gone was the only one of the name among the downloaded.
  have hnone : ∀ q, ¬ Offers env files' env.downloadedDir n q := by
    intro q hq
    have hne : q.path ≠ path := fun hpath => hq.get_ne_none (hpath ▸ hgone)
    exact hne (hsole q ((hchanged.offers hne).mp hq))
  have hbundled : NothingBundled env m.files n → NothingBundled env files' n :=
    fun hno q hq => hno q (hchanged.bundled_offers.mp hq)
  cases hpath : m.store.getBundledPath n with
  | none =>
      refine serves_eq_none hnone (Or.inr (hbundled fun q hq => ?_)) ho
      rcases hq.claims with ⟨f, hf⟩
      exact h.noBundledPath n hpath f hf
  | some bundledPath =>
      rcases h.bundledPath n bundledPath hpath with ⟨f, rfl, hf⟩
      -- The bundled file is not touched.
      have hmade : made env files' ⟨env.bundledDir, f⟩ = made env m.files ⟨env.bundledDir, f⟩ := by
        by_cases hpkg : isPackageFileName env.packagesExt f = true
        · refine made_congr (hchanged.frame _ hpkg fun hS => ?_)
          exact env.distinct (hchanged.parent _ hS)
        · exact absurd (claims_iff_get.mp hf).1 hpkg
      rw [RestoresBundled, hpath] at hrestores
      rw [Option.bind_some, hmade]
      cases hfound : made env m.files ⟨env.bundledDir, f⟩ with
      | none =>
          simp only [hfound, Option.isSome_none, Bool.false_eq_true, if_false] at hrestores
          refine serves_eq_none hnone ?_ ho
          rcases hrestores with ⟨g, hg, hne⟩ | hno
          · exact Or.inl ⟨g, (hchanged.claims hne).mpr hg⟩
          · exact Or.inr (hbundled hno)
      | some q =>
          simp only [hfound, Option.isSome_some, if_true] at hrestores
          -- Nothing downloaded claims the name, and the bundled directory offers one.
          rcases hrestores with ⟨hothers, hone⟩
          have hcreate := made_eq_some.mp hfound
          have hqpath : q.path = ⟨env.bundledDir, f⟩ := createParsed_path hcreate
          have hoffer : Offers env m.files env.bundledDir n q := ⟨f, hf, hcreate⟩
          refine serves_eq_bundled (fun g hg => ?_) (hchanged.bundled_offers.mpr hoffer)
            (fun r hr => ?_) ho
          · by_cases hS : (⟨env.downloadedDir, g⟩ : Path) = path
            · rcases claims_iff_get.mp hg with ⟨-, found, hget, -⟩
              rw [hS, hgone] at hget
              exact Option.some_ne_none found hget.symm
            · exact hothers ⟨g, (hchanged.claims hS).mp hg, hS⟩
          · have hr' := (hchanged.bundled_offers.mp hr)
            have hmader := hr'.made
            rw [hone r hr', hfound] at hmader
            exact (Option.some.inj hmader).symm

/-- A removal that takes the file away keeps the invariant, if the file can be spared
    and what is restored is what a reload finds. -/
theorem Consistent.gone (h : Consistent env m) (hparent : path.parent = env.downloadedDir)
    (hfiles : HashMap.get files' = update m.files.get path none)
    (hspare : Spare env m.files n (· = path))
    (hsole : ∀ q, Offers env m.files env.downloadedDir n q → q.path = path)
    (hrestores : RestoresBundled env m n path)
    (hget : ∀ x, store.get x = if x = n then none else m.store.get x)
    (hpath : ∀ x, store.getBundledPath x = m.store.getBundledPath x)
    (hbroken : ∀ x info, store.getBroken x = some info → m.store.getBroken x = some info) :
    Consistent env ⟨restoreBundled env files' store n, files'⟩ := by
  have hgone : HashMap.get files' path = none := by rw [hfiles, update_self]
  have hchanged : Changed env m.files files' n (· = path) := by
    refine changed_of_contents ?_ (fun q _ hq => ?_) ?_
    · rintro q rfl
      exact hparent
    · rw [hfiles, update_of_ne hq]
    · rintro q rfl _
      exact Or.inl hgone
  -- The entry is what the bundled file makes, if one is recorded.
  have hstore : ∀ x, (restoreBundled env files' store n).get x =
      if x = n then (m.store.getBundledPath n).bind (made env files') else m.store.get x := by
    intro x
    rw [get_restoreBundled, hpath]
    cases m.store.getBundledPath n with
    | some bundledPath =>
        rw [Option.bind_some]
        dsimp only
        split
        · rfl
        · next hx => rw [hget, if_neg hx]
    | none => rw [Option.bind_none, hget]
  refine h.change hchanged hspare ?_ ?_ ?_ ?_
  · intro x hx
    rw [hstore, if_neg hx]
  · intro x
    rw [← hpath x, restoreBundled]
    split
    · exact getBundledPath_tryRecover _ _ _ _ _
    · rfl
  · intro x info hinfo
    refine hbroken x info ?_
    rw [restoreBundled] at hinfo
    split at hinfo
    · rwa [getBroken_tryRecover] at hinfo
    · exact hinfo
  · intro o ho
    rw [hstore, if_pos rfl]
    exact get_restored h hchanged hgone hsole hrestores ho

/-- A removal keeps the invariant under its condition. -/
theorem consistent_remove (h : Consistent env m) {o : Outcomes C} {purge : Bool}
    (hkeeps : RemoveKeeps env o m n purge) :
    Consistent env (removePackage env o m n purge).1 := by
  have hremoved := removed env o m n purge
  revert hremoved
  generalize (removePackage env o m n purge).1 = m'
  intro hremoved
  cases hremoved with
  | unchanged => exact h
  | purgeFailed p hstored hbundled =>
      have hmade := (h.installed hstored hbundled).sole.1.made
      refine h.same rfl (fun x => ?_) (fun x => ?_) fun x info hx => ?_
      · rw [get_tryRecover, hmade, PackageStore.get_remove]
        by_cases hx : x = n
        · rw [if_pos hx, hx, hstored]
        · rw [if_neg hx, if_neg hx]
      · exact getBundledPath_tryRecover _ _ _ _ _
      · rwa [getBroken_tryRecover] at hx
  | fileStays p files hstored hbundled hreleased hfault hfiles =>
      rw [RemoveKeeps, hstored] at hkeeps
      rcases hkeeps with hb | hnot | ⟨hremove, -⟩
      · rw [hbundled] at hb
        exact absurd hb Bool.false_ne_true
      · exact absurd hreleased hnot
      · exact absurd hremove hfault
  | fileGone p files hstored hbundled hreleased hfiles =>
      rw [RemoveKeeps, hstored] at hkeeps
      have hinst := h.installed hstored hbundled
      rcases hkeeps with hb | hnot | ⟨-, hrestores⟩
      · rw [hbundled] at hb
        exact absurd hb Bool.false_ne_true
      · exact absurd hreleased hnot
      · refine h.gone hinst.downloaded hfiles ?_ (fun q hq => ?_) hrestores
          (fun x => PackageStore.get_remove _ _ x) (fun x => rfl) fun x info hx => hx
        · -- The file of the package has no other name.
          intro f n' hS hclaims hne
          have hname := (offers_iff.mp hinst.sole.1).2.1
          have hf : p.path.fileName = f := by rw [← hS]
          rw [hf] at hname
          exact absurd (hclaims.unique hname) hne
        · rw [hinst.sole.2 q hq]
  | brokenStays info files hstored hbroken hfiles =>
      refine h.same hfiles (fun x => rfl) (fun x => rfl) fun x found hx => ?_
      rw [PackageStore.getBroken_removeBroken] at hx
      split at hx
      · exact absurd hx.symm (Option.some_ne_none found)
      · exact hx
  | brokenGone info files hstored hbroken hbundled hgone hfiles =>
      rw [RemoveKeeps, hstored, hbroken] at hkeeps
      have hparent : info.packagePath.parent = env.downloadedDir :=
        (h.broken n info hbroken).resolve_left (of_decide_eq_false hbundled)
      rcases hkeeps with hb | ⟨hfault, hthere⟩ | ⟨hspare, hrestores⟩
      · rw [hbundled] at hb
        exact absurd hb Bool.false_ne_true
      · exact (hgone.elim hfault hthere).elim
      · refine h.gone hparent hfiles hspare (fun q hq => ?_) hrestores (fun x => ?_) (fun x => rfl)
          fun x found hx => ?_
        · exact absurd hq ((h.absent hstored).1 q)
        · rw [PackageStore.get_removeBroken]
          split
          · next hx => rw [hx, hstored]
          · rfl
        · rw [PackageStore.getBroken_removeBroken] at hx
          split at hx
          · exact absurd hx.symm (Option.some_ne_none found)
          · exact hx

end Removal

section Steps

variable [LE V] [DecidableLE V] [ToString V]

/-- An install keeps the invariant under its condition. -/
theorem consistent_install (h : Consistent env m) {msg : InstallPackage C} {o : Outcomes C}
    (hkeeps : Keeps env m (.install msg o)) :
    Consistent env (handleInstallPackage env o m msg).1 := by
  have hhandled := handled env o m msg
  revert hhandled
  generalize handleInstallPackage env o m msg = r
  intro hhandled
  cases hhandled with
  | refused e store hno hstore =>
      refine h.same rfl (fun x => ?_) (fun x => ?_) fun x info hx => ?_
      · -- A refusal may clear the broken entry, and leaves the rest.
        rcases hstore with rfl | ⟨name, rfl⟩ <;> rfl
      · rcases hstore with rfl | ⟨name, rfl⟩ <;> rfl
      · rcases hstore with rfl | ⟨name, rfl⟩
        · exact hx
        · rw [PackageStore.getBroken_removeBroken] at hx
          split at hx
          · exact absurd hx.symm (Option.some_ne_none info)
          · exact hx
  | installed info origPkg content files built hattempt hexit =>
      exact consistent_settled h hattempt.planned (hkeeps info origPkg content hattempt) hexit
  | failed info origPkg content files e e' hattempt hexit =>
      exact consistent_settled h hattempt.planned (hkeeps info origPkg content hattempt) hexit

/-- A message keeps the invariant under its condition. -/
theorem consistent_step {m' : ManagerState C F} {event : Event C} (h : Consistent env m)
    (hkeeps : Keeps env m event) (hstep : step env m event = some m') : Consistent env m' := by
  cases event with
  | install msg o =>
      rw [← Option.some.inj hstep]
      exact consistent_install h hkeeps
  | remove msg o =>
      rw [← Option.some.inj hstep]
      exact consistent_remove h hkeeps

end Steps

end Cases

/-- From a reload of unambiguous directories on, in every run whose messages meet the
    condition, the store agrees with the directories after each message. -/
theorem store_agrees [LE V] [DecidableLE V] [ToString V] (files : Files C)
    (bundled downloaded : DirEntries) (es : List (Event C))
    (hb : Lists files env.bundledDir bundled) (hd : Lists files env.downloadedDir downloaded)
    (h : Unambiguous env files)
    (hkeeps : Along (step env) (Keeps env)
      ⟨reloadPackages env files bundled downloaded, files⟩ es) :
    Always (step env) (Agrees env) ⟨reloadPackages env files bundled downloaded, files⟩ es := by
  have hconsistent : Always (step env) (Consistent env)
      ⟨reloadPackages env files bundled downloaded, files⟩ es :=
    always_of_along (fun _ _ _ hm hc hstep => consistent_step hm hc hstep)
      (consistent_reload h hb hd) hkeeps
  exact always_mono (fun _ hm => Consistent.reload_eq hm) hconsistent

/-- One package file, in the downloaded directory. -/
def aloneFiles : Files (String × Nat) := AList.insert ⟨"/d", "a.ssam"⟩ ("a", 1) ∅

theorem get_aloneFiles (path : Path) :
    aloneFiles.get path = if path = ⟨"/d", "a.ssam"⟩ then some ("a", 1) else none :=
  HashMap.get_insert _ _ _ _

theorem lists_aloneFiles :
    Lists aloneFiles "/b" (some []) ∧ Lists aloneFiles "/d" (some [.ok "a.ssam"]) := by
  refine ⟨⟨[], rfl, List.nodup_nil, fun f => ?_⟩, ⟨["a.ssam"], rfl, List.nodup_singleton _,
    fun f => ?_⟩⟩
  · have hparent : "/b" ≠ "/d" := by decide
    rw [get_aloneFiles, if_neg fun h => hparent (congrArg Path.parent h)]
    simp only [List.not_mem_nil, Option.isSome_none, Bool.false_eq_true]
  · rw [get_aloneFiles, List.mem_singleton]
    by_cases hf : f = "a.ssam"
    · rw [if_pos (by rw [hf])]
      exact iff_of_true hf rfl
    · rw [if_neg fun h => hf (congrArg Path.fileName h)]
      exact iff_of_false hf Bool.false_ne_true

theorem unambiguous_aloneFiles : Unambiguous (plainEnv fun _ => .ok ()) aloneFiles := by
  have hpath : ∀ dir n q, Offers (plainEnv fun _ => .ok ()) aloneFiles dir n q →
      q.path = ⟨"/d", "a.ssam"⟩ := by
    intro dir n q hq
    by_contra hne
    exact hq.get_ne_none (by rw [get_aloneFiles, if_neg hne])
  have hsole : ∀ dir n p q, Offers (plainEnv fun _ => .ok ()) aloneFiles dir n p →
      Offers (plainEnv fun _ => .ok ()) aloneFiles dir n q → p = q := by
    intro dir n p q hp hq
    have hp' := hp.made
    rw [hpath dir n p hp, ← hpath dir n q hq, hq.made] at hp'
    exact (Option.some.inj hp').symm
  exact fun n => ⟨hsole "/d" n, fun _ => hsole "/b" n⟩

theorem store_agrees_removal :
    Always (step (plainEnv fun _ => .ok ())) (Agrees (plainEnv fun _ => .ok ()))
      ⟨reloadPackages (plainEnv fun _ => .ok ()) aloneFiles (some []) (some [.ok "a.ssam"]),
        aloneFiles⟩ [.remove ⟨"a", false⟩ (.fine ("", 0))] :=
  store_agrees aloneFiles (some []) (some [.ok "a.ssam"]) [.remove ⟨"a", false⟩ (.fine ("", 0))]
    lists_aloneFiles.1 lists_aloneFiles.2 unambiguous_aloneFiles
    fun _ _ => ⟨Or.inr (Or.inr ⟨rfl, trivial⟩), trivial⟩

/-- A removal whose file cannot be removed takes the package out of the store, and a
    reload finds it again. -/
theorem store_forgets_package :
    ¬ ∀ (files : Files (String × Nat)) (bundled downloaded : DirEntries)
      (es : List (Event (String × Nat))),
      Lists files "/b" bundled → Lists files "/d" downloaded →
      Always (step (plainEnv fun _ => .ok ())) (Agrees (plainEnv fun _ => .ok ()))
        ⟨reloadPackages (plainEnv fun _ => .ok ()) files bundled downloaded, files⟩ es := by
  intro h
  let busy : Outcomes (String × Nat) :=
    ⟨{ FileKernel.fine ("", 0) with removeFile := fun _ => some ["Device or resource busy"] },
      .ok (), .ok ()⟩
  have halways := h aloneFiles (some []) (some [.ok "a.ssam"]) [.remove ⟨"a", false⟩ busy]
    lists_aloneFiles.1 lists_aloneFiles.2
  have hagrees := halways.2 _ rfl (some []) (some [.ok "a.ssam"]) lists_aloneFiles.1
    lists_aloneFiles.2 "a"
  exact absurd hagrees (by decide +kernel)

end Agreement

end Manager

end Ssam
