import Ssam.Manager.Changed

/-!
# Stopping in the Middle of an Upgrade

What a reload finds when the daemon stopped somewhere in the upgrade of a downloaded
package.

The copy of the new file is renamed into its place as a whole, but the old file is
renamed away before that. In between the package is in a file that a reload does not
take for a package file, and it is found only if the bundled directory can stand in
for it. And once the new file is in its place, the old one no longer counts: what a
reload finds is what can be made of the new file.

## Main definitions

* `Finds`: Every reload finds a good package under the name.
* `FallsBack`: The bundled directory stands in for a package.
* `SurvivesStop`: The condition on the files before.

## Theorems

* `finds_iff_touched`: What is found where only some files were changed.
* `finds_setAside_iff`, `finds_replaced_iff`: The two states in the middle.
* `upgrade_survives_stop_iff`: The package is found wherever the daemon stops
  exactly under the condition.
-/

namespace Ssam

namespace Manager

open Lib Function

section Crash

variable {C F V : Type} (env : Env C F V)

/-- Every reload finds a package under the name, made of a good file. -/
def Finds (files : Files C) (n : String) (Good : F → Prop) : Prop :=
  ∀ bundled downloaded, Lists files env.bundledDir bundled →
    Lists files env.downloadedDir downloaded →
    ∃ q, (reloadPackages env files bundled downloaded).get n = some q ∧ Good q.file

/-- The bundled directory stands in for the package: no file of the downloaded
    directory has its name but those at these two paths, and all that the bundled
    directory has under the name is good. -/
def FallsBack (files : Files C) (n : String) (Good : F → Prop) (path path' : Path) : Prop :=
  (∀ f, Claims env files env.downloadedDir n f →
    (⟨env.downloadedDir, f⟩ : Path) = path ∨ (⟨env.downloadedDir, f⟩ : Path) = path') ∧
    (∃ q, Offers env files env.bundledDir n q) ∧
      ∀ q, Offers env files env.bundledDir n q → Good q.file

variable {env}

/-- What every reload finds, told from the files. -/
theorem finds_iff {files : Files C} {n : String} {Good : F → Prop} :
    Finds env files n Good ↔
      (∀ q, Offers env files env.downloadedDir n q → Good q.file) ∧
        ((∃ q, Offers env files env.downloadedDir n q) ∨
          (∀ f, ¬ Claims env files env.downloadedDir n f) ∧
            (∃ q, Offers env files env.bundledDir n q) ∧
              ∀ q, Offers env files env.bundledDir n q → Good q.file) :=
  (forall_reload_iff (P := fun o => ∃ q, o = some q ∧ Good q.file)).trans forall_serves_some_iff

section Touched

variable (files : Files C) {files' : Files C} {n : String} {Good : F → Prop} {T : Path → Prop}

/-- Where the files of the downloaded directory that were changed all have the name
    or are gone, and none of the others offers it, the package is found if it can
    be made of one of them, or if none is left and the bundled directory stands
    in. -/
theorem finds_iff_touched (hT : ∀ path, T path → path.parent = env.downloadedDir)
    (hout : ∀ path, isPackageFileName env.packagesExt path.fileName = true → ¬ T path →
      files'.get path = files.get path)
    (hin : ∀ path content, T path → isPackageFileName env.packagesExt path.fileName = true →
      files'.get path = some content → ∃ g, env.fromFileVerified content = .ok g ∧
        env.packageName g = n ∧ Good g)
    (hsole : ∀ q, Offers env files env.downloadedDir n q → T q.path) :
    Finds env files' n Good ↔
      (∃ path content g, T path ∧ isPackageFileName env.packagesExt path.fileName = true ∧
        files'.get path = some content ∧ env.fromFileVerified content = .ok g ∧
          Makes env path g) ∨
        (∀ path, T path → isPackageFileName env.packagesExt path.fileName = true →
          files'.get path = none) ∧
        (∀ f, Claims env files env.downloadedDir n f → T ⟨env.downloadedDir, f⟩) ∧
          (∃ q, Offers env files env.bundledDir n q) ∧
            ∀ q, Offers env files env.bundledDir n q → Good q.file := by
  have hbundled : ∀ q, Offers env files' env.bundledDir n q ↔
      Offers env files env.bundledDir n q := by
    refine fun q => offers_congr fun hdir hpkg => hout q.path hpkg fun ht => ?_
    exact env.distinct (hdir.symm.trans (hT q.path ht))
  -- What the directory offers now is made of a file that was changed.
  have hoffer : ∀ q, Offers env files' env.downloadedDir n q → T q.path := by
    intro q hq
    by_contra ht
    exact ht (hsole q ((offers_congr fun _ hpkg => hout q.path hpkg ht).mp hq))
  have hgood : ∀ q, Offers env files' env.downloadedDir n q → Good q.file := by
    intro q hq
    rcases offers_iff_get.mp hq with ⟨-, hpkg, ⟨content, hget, hfile⟩, -, -⟩
    rcases hin q.path content (hoffer q hq) hpkg hget with ⟨g, hg, -, hgoodg⟩
    rw [Except.ok.inj (hfile.symm.trans hg)]
    exact hgoodg
  have hmade : (∃ q, Offers env files' env.downloadedDir n q) ↔
      ∃ path content g, T path ∧ isPackageFileName env.packagesExt path.fileName = true ∧
        files'.get path = some content ∧ env.fromFileVerified content = .ok g ∧
          Makes env path g := by
    constructor
    · rintro ⟨q, hq⟩
      rcases offers_iff_get.mp hq with ⟨-, hpkg, ⟨content, hget, hfile⟩, -, hcreate⟩
      exact ⟨q.path, content, q.file, hoffer q hq, hpkg, hget, hfile, hcreate⟩
    · rintro ⟨path, content, g, ht, hpkg, hget, hfile, hmakes⟩
      rcases hin path content ht hpkg hget with ⟨g', hg', hname, -⟩
      have hgg := Except.ok.inj (hfile.symm.trans hg')
      refine ⟨⟨g, path⟩, offers_iff_get.mpr ⟨hT path ht, hpkg, ⟨content, hget, hfile⟩, ?_, hmakes⟩⟩
      rw [hgg]
      exact hname
  have hfree : (∀ f, ¬ Claims env files' env.downloadedDir n f) ↔
      (∀ path, T path → isPackageFileName env.packagesExt path.fileName = true →
          files'.get path = none) ∧
        ∀ f, Claims env files env.downloadedDir n f → T ⟨env.downloadedDir, f⟩ := by
    constructor
    · intro hnone
      constructor
      · intro path ht hpkg
        by_contra hsome
        rcases Option.ne_none_iff_exists'.mp hsome with ⟨content, hget⟩
        rcases hin path content ht hpkg hget with ⟨g, hg, hname, -⟩
        refine hnone path.fileName (claims_iff_get.mpr ⟨hpkg, content, ?_, ?_⟩)
        · rw [← hT path ht]
          exact hget
        · rw [parseContent_eq_ok.mpr ⟨content, rfl, hg⟩]
          exact hname
      · intro f hf
        by_contra ht
        exact hnone f ((claims_congr fun hpkg => hout _ hpkg ht).mpr hf)
    · rintro ⟨hgone, hall⟩ f hf
      by_cases ht : T ⟨env.downloadedDir, f⟩
      · rcases claims_iff_get.mp hf with ⟨hpkg, content, hget, -⟩
        rw [hgone _ ht hpkg] at hget
        exact Option.some_ne_none content hget.symm
      · exact ht (hall f ((claims_congr fun hpkg => hout _ hpkg ht).mp hf))
  rw [finds_iff, hmade, hfree]
  simp only [hbundled, and_assoc]
  exact and_iff_right hgood

end Touched

section States

variable [LE V] {m : ManagerState C F} {msg : InstallPackage C} {info : InstallInfo C F}
  {p : Package F} {content : C}

/-- The version before the upgrade, or the one after it. -/
def OneOf (env : Env C F V) (p : Package F) (info : InstallInfo C F) (g : F) : Prop :=
  env.version g = env.version p.file ∨ env.version g = env.version info.packageFile

variable (hinst : Installed env m info.packageName p)
  (hplan : Planned env m.store msg info (some p) content)

include hinst hplan

/-- The paths of an upgrade are all in the downloaded directory. -/
theorem parent_of_touched {path : Path}
    (h : path = p.path ∨ path = backupPathOf p.path ∨ path = info.dest) :
    path.parent = env.downloadedDir := by
  rcases h with rfl | rfl | rfl
  · exact hinst.downloaded
  · exact hinst.downloaded
  · rw [hplan.dest]

/-- What is at these paths is the old file or the new one. -/
theorem good_of_touched {found : C}
    (h : some found = m.files.get p.path ∨ some found = some content) :
    ∃ g, env.fromFileVerified found = .ok g ∧ env.packageName g = info.packageName ∧
      OneOf env p info g := by
  rcases hinst.file with ⟨-, ⟨old, hget, hold⟩, hname, -⟩
  rcases h with h | h
  · rw [hget] at h
    rw [Option.some.inj h]
    exact ⟨p.file, hold, hname, Or.inl rfl⟩
  · rw [Option.some.inj h]
    exact ⟨info.packageFile, hplan.parses, hplan.name.symm, Or.inr rfl⟩

/-- What is found where only the paths of the upgrade were changed, and hold the
    old file, the new one or nothing. -/
theorem finds_iff_paths {f : Files C}
    (hout : ∀ path, isPackageFileName env.packagesExt path.fileName = true → path ≠ p.path →
      path ≠ backupPathOf p.path → path ≠ info.dest → f.get path = m.files.get path)
    (hin : ∀ path, isPackageFileName env.packagesExt path.fileName = true →
      path = p.path ∨ path = backupPathOf p.path ∨ path = info.dest →
      f.get path = none ∨ f.get path = m.files.get p.path ∨ f.get path = some content) :
    Finds env f info.packageName (OneOf env p info) ↔
      (∃ path found g, (path = p.path ∨ path = backupPathOf p.path ∨ path = info.dest) ∧
        isPackageFileName env.packagesExt path.fileName = true ∧ f.get path = some found ∧
          env.fromFileVerified found = .ok g ∧ Makes env path g) ∨
        (∀ path, (path = p.path ∨ path = backupPathOf p.path ∨ path = info.dest) →
          isPackageFileName env.packagesExt path.fileName = true → f.get path = none) ∧
        (∀ x, Claims env m.files env.downloadedDir info.packageName x →
          (⟨env.downloadedDir, x⟩ : Path) = p.path ∨
            (⟨env.downloadedDir, x⟩ : Path) = backupPathOf p.path ∨
            (⟨env.downloadedDir, x⟩ : Path) = info.dest) ∧
          (∃ q, Offers env m.files env.bundledDir info.packageName q) ∧
            ∀ q, Offers env m.files env.bundledDir info.packageName q →
              OneOf env p info q.file := by
  refine finds_iff_touched m.files (fun path hT => parent_of_touched hinst hplan hT) ?_ ?_ ?_
  · intro path hpath hT
    rw [not_or, not_or] at hT
    exact hout path hpath hT.1 hT.2.1 hT.2.2
  · intro path found hT hpath hfound
    refine good_of_touched hinst hplan ?_
    -- What lies at one of the three names is the old content or the new.
    rcases hin path hpath hT with h | h | h
    · rw [hfound] at h
      exact absurd h (Option.some_ne_none found)
    · exact Or.inl (hfound.symm.trans h)
    · exact Or.inr (hfound.symm.trans h)
  · intro q hq
    rw [hinst.sole.2 q hq]
    exact Or.inl rfl

/-- While the installed file is set aside the package is found in the backup, if that
    counts as a package file, and else if the bundled directory stands in. -/
theorem finds_setAside_iff {f : Files C}
    (hf : ∀ path, isPackageFileName env.packagesExt path.fileName = true →
      f.get path = setAside (.upgradeDownloaded p.path) m.files.get path) :
    Finds env f info.packageName (OneOf env p info) ↔
      (isPackageFileName env.packagesExt (backupPathOf p.path).fileName = true →
        Makes env (backupPathOf p.path) p.file) ∧
      (isPackageFileName env.packagesExt (backupPathOf p.path).fileName = false →
        FallsBack env m.files info.packageName (OneOf env p info) p.path
          (backupPathOf p.path)) := by
  have hne := backupPathOf_ne p.path
  rcases hinst.file with ⟨hpkg, ⟨old, hget, hold⟩, hname, -⟩
  -- The installed file is not at its own name, and perhaps at that of the backup.
  have hfI : isPackageFileName env.packagesExt p.path.fileName = true → f.get p.path = none := by
    intro h
    rw [hf _ h, setAside, renamed, update_of_ne hne.symm, update_self]
  have hfB : isPackageFileName env.packagesExt (backupPathOf p.path).fileName = true →
      f.get (backupPathOf p.path) = some old := by
    intro h
    rw [hf _ h, setAside, renamed, update_self, hget]
  rw [finds_iff_touched m.files
    (T := fun path => path = p.path ∨ path = backupPathOf p.path)]
  · constructor
    · rintro (⟨path, found, g, hT, hpath, hfound, hg, hmakes⟩ | ⟨hgone, hrest⟩)
      · rcases hT with rfl | rfl
        · rw [hfI hpath] at hfound
          exact absurd hfound.symm (Option.some_ne_none found)
        · rw [hfB hpath] at hfound
          rw [← Option.some.inj hfound, hold] at hg
          rw [← Except.ok.inj hg] at hmakes
          refine ⟨fun _ => hmakes, fun h => ?_⟩
          rw [h] at hpath
          exact absurd hpath Bool.false_ne_true
      · refine ⟨fun h => ?_, fun _ => hrest⟩
        have hnone := hgone _ (Or.inr rfl) h
        rw [hfB h] at hnone
        exact absurd hnone (Option.some_ne_none old)
    · -- A backup that is no package file leaves the bundled package, if any.
      rintro ⟨hmakes, hfalls⟩
      cases hb : isPackageFileName env.packagesExt (backupPathOf p.path).fileName with
      | true => exact Or.inl ⟨_, old, p.file, Or.inr rfl, hb, hfB hb, hold, hmakes hb⟩
      | false =>
          refine Or.inr ⟨?_, hfalls hb⟩
          rintro path (rfl | rfl) hpath
          · exact hfI hpath
          · rw [hb] at hpath
            exact absurd hpath Bool.false_ne_true
  · rintro path hT
    exact parent_of_touched hinst hplan (hT.imp_right Or.inl)
  · intro path hpath hT
    rw [not_or] at hT
    rw [hf path hpath, setAside, renamed, update_of_ne hT.2, update_of_ne hT.1]
  · rintro path found hT hpath hfound
    refine good_of_touched hinst hplan (Or.inl ?_)
    -- What is found is the backup.
    rcases hT with rfl | rfl
    · rw [hfI hpath] at hfound
      exact absurd hfound.symm (Option.some_ne_none found)
    · rw [hget, ← hfB hpath, hfound]
  · intro q hq
    rw [hinst.sole.2 q hq]
    exact Or.inl rfl

/-- Once the new file is in its place the package is found if it can be made of
    it, or of the backup where that counts as a package file. -/
theorem finds_replaced_iff {f : Files C}
    (hf : ∀ path, isPackageFileName env.packagesExt path.fileName = true →
      f.get path =
        update (setAside (.upgradeDownloaded p.path) m.files.get) info.dest (some content) path) :
    Finds env f info.packageName (OneOf env p info) ↔
      Makes env info.dest info.packageFile ∨
        isPackageFileName env.packagesExt (backupPathOf p.path).fileName = true ∧
          backupPathOf p.path ≠ info.dest ∧ Makes env (backupPathOf p.path) p.file := by
  have hne := backupPathOf_ne p.path
  rcases hinst.file with ⟨hpkg, ⟨old, hget, hold⟩, hname, -⟩
  have hfd : f.get info.dest = some content := by rw [hf _ hplan.destName, update_self]
  have hfI : p.path ≠ info.dest → f.get p.path = none := by
    intro h
    rw [hf _ hpkg, update_of_ne h, setAside, renamed, update_of_ne hne.symm, update_self]
  have hfB : isPackageFileName env.packagesExt (backupPathOf p.path).fileName = true →
      backupPathOf p.path ≠ info.dest → f.get (backupPathOf p.path) = some old := by
    intro h hd
    rw [hf _ h, update_of_ne hd, setAside, renamed, update_self, hget]
  rw [finds_iff_paths hinst hplan]
  · constructor
    · rintro (⟨path, found, g, hT, hpath, hfound, hg, hmakes⟩ | ⟨hgone, -⟩)
      · -- What is found is the new file or the backup.
        by_cases hd : path = info.dest
        · rw [hd, hfd] at hfound
          rw [← Option.some.inj hfound, hplan.parses] at hg
          rw [← Except.ok.inj hg, hd] at hmakes
          exact Or.inl hmakes
        · rcases hT with rfl | rfl | h
          · rw [hfI hd] at hfound
            exact absurd hfound.symm (Option.some_ne_none found)
          · rw [hfB hpath hd] at hfound
            rw [← Option.some.inj hfound, hold] at hg
            rw [← Except.ok.inj hg] at hmakes
            exact Or.inr ⟨hpath, hd, hmakes⟩
          · exact absurd h hd
      · have hnone := hgone _ (Or.inr (Or.inr rfl)) hplan.destName
        rw [hfd] at hnone
        exact absurd hnone (Option.some_ne_none content)
    · rintro (hmakes | ⟨hb, hd, hmakes⟩)
      · exact Or.inl ⟨_, content, _, Or.inr (Or.inr rfl), hplan.destName, hfd, hplan.parses,
          hmakes⟩
      · exact Or.inl ⟨_, old, p.file, Or.inr (Or.inl rfl), hb, hfB hb hd, hold, hmakes⟩
  · intro path hpath hI hB hd
    rw [hf path hpath, update_of_ne hd, setAside, renamed, update_of_ne hB, update_of_ne hI]
  · intro path hpath hT
    -- What lies at the name is the new file, nothing, or the old file set aside.
    by_cases hd : path = info.dest
    · exact Or.inr (Or.inr (by rw [hd, hfd]))
    · rcases hT with rfl | rfl | h
      · exact Or.inl (hfI hd)
      · exact Or.inr (Or.inl (by rw [hfB hpath hd, hget]))
      · exact absurd h hd

/-- After the way back the package is found in the installed place, unless the new
    file went to the place of the backup and is there now. -/
theorem finds_rolledBack_iff {k : FileKernel C} {f : Files C}
    (hroll : RollsBack k (.upgradeDownloaded p.path) info.dest)
    (hbackup : ¬ BackupFails k (.upgradeDownloaded p.path) m.files.get)
    (hf : ∀ path, isPackageFileName env.packagesExt path.fileName = true →
      f.get path = rolledBack k (.upgradeDownloaded p.path) info.dest
        (update (setAside (.upgradeDownloaded p.path) m.files.get) info.dest (some content)) path) :
    Finds env f info.packageName (OneOf env p info) ↔
      (info.dest = backupPathOf p.path → Makes env p.path info.packageFile) := by
  have hne := backupPathOf_ne p.path
  rcases hinst.file with ⟨hpkg, ⟨old, hget, hold⟩, hname, hmakesI⟩
  have hf' : ∀ path, isPackageFileName env.packagesExt path.fileName = true → f.get path =
      if path = p.path then
        if info.dest = backupPathOf p.path then some content else m.files.get p.path
      else if path = backupPathOf p.path then none
      else if path = info.dest then some content
      else m.files.get path := by
    intro path hpath
    rw [hf path hpath, rolledBack_replaced hroll hbackup]
  have hpaths := finds_iff_paths hinst hplan (f := f) ?_ ?_
  · rw [hpaths]
    -- If the new file took the name of the backup, it is what was put back.
    by_cases hdb : info.dest = backupPathOf p.path
    · have hfI : f.get p.path = some content := by rw [hf' _ hpkg, if_pos rfl, if_pos hdb]
      constructor
      · rintro (⟨path, found, g, hT, hpath, hfound, hg, hmakes⟩ | ⟨hgone, -⟩) -
        · by_cases hI : path = p.path
          · rw [hI, hfI] at hfound
            rw [← Option.some.inj hfound, hplan.parses] at hg
            rw [← Except.ok.inj hg, hI] at hmakes
            exact hmakes
          · have hB : path = backupPathOf p.path := by
              rcases hT with h | h | h
              · exact absurd h hI
              · exact h
              · exact h.trans hdb
            rw [hf' path hpath, if_neg hI, if_pos hB] at hfound
            exact absurd hfound.symm (Option.some_ne_none found)
        · have hnone := hgone _ (Or.inl rfl) hpkg
          rw [hfI] at hnone
          exact absurd hnone (Option.some_ne_none content)
      · exact fun h => Or.inl ⟨p.path, content, info.packageFile, Or.inl rfl, hpkg, hfI,
          hplan.parses, h hdb⟩
    · have hfI : f.get p.path = some old := by rw [hf' _ hpkg, if_pos rfl, if_neg hdb, hget]
      exact iff_of_true (Or.inl ⟨p.path, old, p.file, Or.inl rfl, hpkg, hfI, hold, hmakesI⟩)
        fun h => absurd h hdb
  · intro path hpath hI hB hd
    rw [hf' path hpath, if_neg hI, if_neg hB, if_neg hd]
  · intro path hpath hT
    rw [hf' path hpath]
    by_cases hI : path = p.path
    · rw [if_pos hI]
      by_cases hdb : info.dest = backupPathOf p.path
      · rw [if_pos hdb]
        exact Or.inr (Or.inr rfl)
      · rw [if_neg hdb]
        exact Or.inr (Or.inl rfl)
    · rw [if_neg hI]
      by_cases hB : path = backupPathOf p.path
      · rw [if_pos hB]
        exact Or.inl rfl
      · have hd : path = info.dest := (hT.resolve_left hI).resolve_left hB
        rw [if_neg hB, if_pos hd]
        exact Or.inr (Or.inr rfl)

/-- Once the backup is removed the package is found in its new place, unless that
    was the backup's. -/
theorem finds_cleaned_iff {k : FileKernel C} {f : Files C}
    (hmakes : Makes env info.dest info.packageFile)
    (hf : ∀ path, isPackageFileName env.packagesExt path.fileName = true →
      f.get path = cleaned k (.upgradeDownloaded p.path)
        (update (setAside (.upgradeDownloaded p.path) m.files.get) info.dest (some content)) path) :
    Finds env f info.packageName (OneOf env p info) ↔
      (info.dest = backupPathOf p.path → k.removeFile (backupPathOf p.path) = none →
        FallsBack env m.files info.packageName (OneOf env p info) p.path
          (backupPathOf p.path)) := by
  by_cases hremove : k.removeFile (backupPathOf p.path) = none
  · have hne := backupPathOf_ne p.path
    -- The backup is gone, and the new file with it if it had that name.
    have hf' : ∀ path, isPackageFileName env.packagesExt path.fileName = true → f.get path =
        if path = backupPathOf p.path then none
        else if path = info.dest then some content
        else if path = p.path then none
        else m.files.get path := by
      intro path hpath
      rw [hf path hpath, cleaned, if_pos hremove, update_apply, update_apply, setAside, renamed,
        update_apply, update_apply]
      by_cases hB : path = backupPathOf p.path
      · simp only [if_pos hB]
      · simp only [if_neg hB]
    rw [finds_iff_paths hinst hplan]
    · by_cases hdb : info.dest = backupPathOf p.path
      · have hgone : ∀ path, (path = p.path ∨ path = backupPathOf p.path ∨ path = info.dest) →
            isPackageFileName env.packagesExt path.fileName = true → f.get path = none := by
          intro path hT hpath
          rw [hf' path hpath, hdb]
          by_cases hB : path = backupPathOf p.path
          · rw [if_pos hB]
          · have hI : path = p.path := hT.resolve_right fun h => hB (h.elim id (·.trans hdb))
            rw [if_neg hB, if_neg hB, if_pos hI]
        have hT : ∀ path : Path, (path = p.path ∨ path = backupPathOf p.path ∨ path = info.dest) ↔
            path = p.path ∨ path = backupPathOf p.path := by
          intro path
          rw [hdb, or_self]
        constructor
        · rintro (⟨path, found, g, hpathT, hpath, hfound, -⟩ | ⟨-, hrest⟩) - -
          · rw [hgone path hpathT hpath] at hfound
            exact absurd hfound.symm (Option.some_ne_none found)
          · simp only [hT] at hrest
            exact hrest
        · intro h
          refine Or.inr ⟨hgone, ?_⟩
          simp only [hT]
          exact h hdb hremove
      · have hfd : f.get info.dest = some content := by
          rw [hf' _ hplan.destName, if_neg hdb, if_pos rfl]
        exact iff_of_true (Or.inl ⟨_, content, _, Or.inr (Or.inr rfl), hplan.destName, hfd,
          hplan.parses, hmakes⟩) fun h => absurd h hdb
    · intro path hpath hI hB hd
      rw [hf' path hpath, if_neg hB, if_neg hd, if_neg hI]
    · intro path hpath hT
      rw [hf' path hpath]
      by_cases hB : path = backupPathOf p.path
      · rw [if_pos hB]
        exact Or.inl rfl
      · rw [if_neg hB]
        by_cases hd : path = info.dest
        · rw [if_pos hd]
          exact Or.inr (Or.inr rfl)
        · have hI : path = p.path := hT.resolve_right fun h => h.elim hB hd
          rw [if_neg hd, if_pos hI]
          exact Or.inl rfl
  · -- The backup stays, as it was before the cleaning.
    refine iff_of_true ?_ fun _ h => absurd h hremove
    refine (finds_replaced_iff hinst hplan ?_).mpr (Or.inl hmakes)
    intro path hpath
    rw [hf path hpath, cleaned, if_neg hremove]

/-- After the way back from a copy that failed the package is where it was. -/
theorem finds_restored {f : Files C}
    (hf : ∀ path, isPackageFileName env.packagesExt path.fileName = true →
      f.get path = update m.files.get (backupPathOf p.path) none path) :
    Finds env f info.packageName (OneOf env p info) := by
  rcases hinst.file with ⟨hpkg, ⟨old, hget, hold⟩, -, hmakes⟩
  -- The installed file is at its own name, and makes the package.
  have hfI : f.get p.path = some old := by
    rw [hf _ hpkg, update_of_ne (backupPathOf_ne p.path).symm, hget]
  refine finds_iff_touched m.files
    (T := fun path => path = p.path ∨ path = backupPathOf p.path) ?_ ?_ ?_ ?_ |>.mpr
      (Or.inl ⟨p.path, old, p.file, Or.inl rfl, hpkg, hfI, hold, hmakes⟩)
  · exact fun path hT => parent_of_touched hinst hplan (hT.imp_right Or.inl)
  · intro path hpath hT
    rw [hf path hpath, update_of_ne fun hB => hT (Or.inr hB)]
  · intro path found hT hpath hfound
    refine good_of_touched hinst hplan (Or.inl ?_)
    rcases hT with rfl | rfl
    · rw [← hfound, hfI, hget]
    · rw [hf _ hpath, update_self] at hfound
      exact absurd hfound.symm (Option.some_ne_none found)
  · intro q hq
    rw [hinst.sole.2 q hq]
    exact Or.inl rfl

/-- Before anything is done the package is where it was. -/
theorem finds_untouched {f : Files C}
    (hf : ∀ path, isPackageFileName env.packagesExt path.fileName = true →
      f.get path = m.files.get path) : Finds env f info.packageName (OneOf env p info) := by
  rcases hinst.file with ⟨hpkg, ⟨old, hget, hold⟩, -, hmakes⟩
  refine finds_iff_touched m.files (T := fun path => path = p.path) ?_ ?_ ?_ ?_ |>.mpr
    (Or.inl ⟨p.path, old, p.file, rfl, hpkg, (hf _ hpkg).trans hget, hold, hmakes⟩)
  · exact fun path hT => parent_of_touched hinst hplan (Or.inl hT)
  · exact fun path hpath _ => hf path hpath
  · intro path found hT hpath hfound
    rw [hT] at hpath hfound
    exact good_of_touched hinst hplan (Or.inl (hfound.symm.trans (hf _ hpath)))
  · exact fun q hq => congrArg Package.path (hinst.sole.2 q hq)

end States

/-- The package is found wherever the daemon stops in the upgrade. The old file is
    not set aside at all; or else, while it is, the bundled directory stands in for
    it, and where the copy does not fail a package can be made of the new file. If the
    backup itself counts as a package file, a package has to be made of that one, and
    the new file may only go to its place if it is still found afterwards. -/
def SurvivesStop (env : Env C F V) (k : FileKernel C) (files : Files C) (info : InstallInfo C F)
    (removeData : Bool) (p : Package F) : Prop :=
  let mode := InstallMode.upgradeDownloaded p.path
  let backup := backupPathOf p.path
  let falls := FallsBack env files info.packageName (OneOf env p info) p.path backup
  -- Nothing was touched, or every state on the way has a file that makes the package.
  BackupFails k mode files.get ∨
    ((isPackageFileName env.packagesExt backup.fileName = true → Makes env backup p.file) ∧
      (isPackageFileName env.packagesExt backup.fileName = false → falls)) ∧
    (k.copies (setAside mode files.get) info.dest.parent = false ∨
      (Makes env info.dest info.packageFile ∨
        isPackageFileName env.packagesExt backup.fileName = true ∧ backup ≠ info.dest ∧
          Makes env backup p.file) ∧
      (info.dest = backup →
        (Finishes k env info removeData mode → k.removeFile backup = none → falls) ∧
        (¬ Finishes k env info removeData mode → k.rename backup p.path = none →
          Makes env p.path info.packageFile)))

section Stop

variable [LE V] {o : Outcomes C} {m : ManagerState C F} {msg : InstallPackage C}
  {info : InstallInfo C F} {p : Package F} {content : C} {removeData : Bool}

omit [LE V] in
/-- A temporary file is no package file. -/
theorem eq_of_beside {at_ at_' : Path → Option C} {dir : String} (h : Beside at_ dir at_')
    {path : Path} (hpath : isPackageFileName env.packagesExt path.fileName = true) :
    at_' path = at_ path := by
  rcases h with rfl | ⟨temp, found, rfl⟩
  · rfl
  · refine update_of_ne ?_ _ _
    rintro rfl
    rw [isPackageFileName_temp] at hpath
    exact absurd hpath Bool.false_ne_true

/-- The package is found after a failure that follows the copy, whether or not the
    way back is carried out. -/
theorem finds_after_failure (hinst : Installed env m info.packageName p)
    (hplan : Planned env m.store msg info (some p) content) {k : FileKernel C}
    (hcond : SurvivesStop env k m.files info removeData p)
    (hbackup : ¬ BackupFails k (.upgradeDownloaded p.path) m.files.get)
    (hcopy : k.copies (setAside (.upgradeDownloaded p.path) m.files.get) info.dest.parent = true)
    (hfinish : ¬ Finishes k env info removeData (.upgradeDownloaded p.path)) {f : Files C}
    (hf : HashMap.get f = rolledBack k (.upgradeDownloaded p.path) info.dest
      (update (setAside (.upgradeDownloaded p.path) m.files.get) info.dest (some content))) :
    Finds env f info.packageName (OneOf env p info) := by
  rcases hcond.resolve_left hbackup with ⟨-, hnot | ⟨hmade, hplace⟩⟩
  · rw [hcopy] at hnot
    exact absurd hnot Bool.noConfusion
  · by_cases hroll : k.rename (backupPathOf p.path) p.path = none
    · refine (finds_rolledBack_iff hinst hplan hroll hbackup fun path _ => by rw [hf]).mpr ?_
      exact fun hdest => (hplace hdest).2 hfinish hroll
    · refine (finds_replaced_iff hinst hplan fun path _ => ?_).mpr hmade
      rw [hf, rolledBack, if_neg fun h => hroll h.1]

/-- The package is found after all of the steps were carried out. -/
theorem finds_after_success (hinst : Installed env m info.packageName p)
    (hplan : Planned env m.store msg info (some p) content) {k : FileKernel C}
    (hcond : SurvivesStop env k m.files info removeData p)
    (hbackup : ¬ BackupFails k (.upgradeDownloaded p.path) m.files.get)
    (hcopy : k.copies (setAside (.upgradeDownloaded p.path) m.files.get) info.dest.parent = true)
    (hfinish : Finishes k env info removeData (.upgradeDownloaded p.path)) {f : Files C}
    (hf : HashMap.get f = cleaned k (.upgradeDownloaded p.path)
      (update (setAside (.upgradeDownloaded p.path) m.files.get) info.dest (some content))) :
    Finds env f info.packageName (OneOf env p info) := by
  rcases hcond.resolve_left hbackup with ⟨-, hnot | ⟨-, hplace⟩⟩
  · rw [hcopy] at hnot
    exact absurd hnot Bool.noConfusion
  · refine (finds_cleaned_iff hinst hplan (makes_of_finishes hplan hfinish)
      fun path _ => by rw [hf]).mpr ?_
    exact fun hdest => (hplace hdest).1 hfinish

/-- Under the condition the package is found in every state the upgrade passes
    through. -/
theorem finds_during (hinst : Installed env m info.packageName p)
    (hplan : Planned env m.store msg info (some p) content) {k : FileKernel C}
    (hcond : SurvivesStop env k m.files info removeData p) {f : Files C}
    (h : InstallDuring k env info content removeData (.upgradeDownloaded p.path) m.files.get
      (HashMap.get f)) :
    Finds env f info.packageName (OneOf env p info) := by
  generalize hget : HashMap.get f = got at h
  -- One case for each state the files go through.
  cases h with
  | untouched => exact finds_untouched hinst hplan fun path _ => by rw [hget]
  | settingAside _ hbackup hbeside =>
      refine (finds_setAside_iff hinst hplan fun path hpath => ?_).mpr
        (hcond.resolve_left hbackup).1
      rw [hget, eq_of_beside hbeside hpath]
  | replaced hbackup hcopy =>
      rcases hcond.resolve_left hbackup with ⟨-, hnot | ⟨hmade, -⟩⟩
      · rw [hcopy] at hnot
        exact absurd hnot Bool.noConfusion
      · exact (finds_replaced_iff hinst hplan fun path _ => by rw [hget]).mpr hmade
  | rolledBack hbackup hcopy hfinish =>
      exact finds_after_failure hinst hplan hcond hbackup hcopy hfinish hget
  | cleaned hbackup hcopy hfinish =>
      exact finds_after_success hinst hplan hcond hbackup hcopy hfinish hget

/-- And it is found in every state the upgrade ends in. -/
theorem finds_exit (hinst : Installed env m info.packageName p)
    (hplan : Planned env m.store msg info (some p) content) {k : FileKernel C}
    (hcond : SurvivesStop env k m.files info removeData p) {r : Except Error (Package F)}
    {f : Files C}
    (h : InstallExit k env info content removeData (.upgradeDownloaded p.path) m.files.get r
      (HashMap.get f)) :
    Finds env f info.packageName (OneOf env p info) := by
  generalize hget : HashMap.get f = got at h
  cases h with
  | backupFailed e hbackup => exact finds_untouched hinst hplan fun path _ => by rw [hget]
  | copyFailed e hbackup hcopy =>
      by_cases hroll : k.rename (backupPathOf p.path) p.path = none
      · rw [rolledBack_setAside hroll hbackup] at hget
        exact finds_restored hinst hplan fun path _ => by rw [hget]
      · refine (finds_setAside_iff hinst hplan fun path _ => ?_).mpr
          (hcond.resolve_left hbackup).1
        rw [hget, rolledBack, if_neg fun h => hroll h.1]
  | finishFailed e hbackup hcopy hfinish =>
      exact finds_after_failure hinst hplan hcond hbackup hcopy hfinish hget
  | installed hbackup hcopy hfinish =>
      exact finds_after_success hinst hplan hcond hbackup hcopy hfinish hget

omit [LE V] in
/-- What every state of an upgrade has in common holds with the old file set aside,
    and, where the copy does not fail, with the new one in its place. -/
theorem wp_upgrade_states {k : FileKernel C} {files : Files C} {installedPath : Path}
    {P : Files C → Prop} (hsource : info.source.content = some content)
    (hdest : info.dest.parent ≠ "")
    (hbackup : ¬ BackupFails k (.upgradeDownloaded installedPath) files.get)
    (h : Prog.wp (k.serve env) (fun f _ => P f) (fun _ f => P f)
      (executeInstallInner info removeData (.upgradeDownloaded installedPath)) files) :
    (∃ f, HashMap.get f = setAside (.upgradeDownloaded installedPath) files.get ∧ P f) ∧
      (k.copies (setAside (.upgradeDownloaded installedPath) files.get) info.dest.parent = true →
        ∃ f, HashMap.get f = update (setAside (.upgradeDownloaded installedPath) files.get)
          info.dest (some content) ∧ P f) := by
  unfold executeInstallInner at h
  simp only [Prog.bind_eq, Prog.wp_bind] at h
  -- The state after the backup.
  have hmoved := Prog.eval_of_wp (k.serve env) h
  have hset : (Prog.eval (k.serve env) (backupFile installedPath) files).2 = .ok () ∧
      HashMap.get (Prog.eval (k.serve env) (backupFile installedPath) files).1 =
        setAside (.upgradeDownloaded installedPath) files.get := by
    refine Prog.eval_of_wp (k.serve env) (G := fun _ _ => True)
      (Q := fun r f => r = .ok () ∧ HashMap.get f =
        setAside (.upgradeDownloaded installedPath) files.get) ?_
    rw [backupFile, Prog.wp_context]
    exact wp_rename k env trivial (fun _ _ f hf => ⟨rfl, hf⟩) fun hfail => absurd hfail hbackup
  generalize Prog.eval (k.serve env) (backupFile installedPath) files = moved at hmoved hset
  rcases moved with ⟨f₁, r₁⟩
  rcases hset with ⟨rfl, hf₁⟩
  rw [Prog.branch_ok] at hmoved
  refine ⟨⟨f₁, hf₁, Prog.head_of_wp (k.serve env) hmoved⟩, fun hcopy => ?_⟩
  rw [← hf₁] at hcopy ⊢
  rw [Prog.wp_bind, Prog.wp_onError] at hmoved
  -- The state after the copy.
  have hcopied := Prog.eval_of_wp (k.serve env) hmoved
  have hset : ∃ n, (Prog.eval (k.serve env) (copyToPkgDir info.source info.dest) f₁).2 = .ok n ∧
      HashMap.get (Prog.eval (k.serve env) (copyToPkgDir info.source info.dest) f₁).1 =
        update f₁.get info.dest (some content) := by
    refine Prog.eval_of_wp (k.serve env) (G := fun _ _ => True)
      (Q := fun r f => ∃ n, r = .ok n ∧ HashMap.get f =
        update f₁.get info.dest (some content)) ?_
    rw [copyToPkgDir, Prog.wp_context]
    refine wp_copy k env hsource hdest (fun _ _ => trivial) (fun _ n f hf => ⟨n, rfl, hf⟩) ?_
    intro hnot
    rw [hcopy] at hnot
    exact absurd hnot Bool.noConfusion
  generalize Prog.eval (k.serve env) (copyToPkgDir info.source info.dest) f₁ = copied
    at hcopied hset
  rcases copied with ⟨f₂, r₂⟩
  rcases hset with ⟨n, rfl, hf₂⟩
  exact ⟨f₂, hf₂, Prog.head_of_wp (k.serve env) hcopied⟩

/-- Where the package is found in every state, it is found with the old file set
    aside and with the new one in its place, and at the end. -/
theorem survivesStop_of_wp (hinst : Installed env m info.packageName p)
    (hplan : Planned env m.store msg info (some p) content) {k : FileKernel C}
    (h : Prog.wp (k.serve env) (fun f _ => Finds env f info.packageName (OneOf env p info))
      (fun _ f => Finds env f info.packageName (OneOf env p info))
      (executeInstallInner info removeData (.upgradeDownloaded p.path)) m.files) :
    SurvivesStop env k m.files info removeData p := by
  have hsource : info.source.content = some content := by rw [hplan.source, hplan.readable]
  have hdest : info.dest.parent ≠ "" := by
    rw [hplan.dest]
    exact env.nonempty
  by_cases hbackup : BackupFails k (.upgradeDownloaded p.path) m.files.get
  · exact Or.inl hbackup
  · rcases wp_upgrade_states hsource hdest hbackup h with ⟨⟨f₁, hf₁, hfinds₁⟩, hreplaced⟩
    refine Or.inr ⟨(finds_setAside_iff hinst hplan fun path _ => by rw [hf₁]).mp hfinds₁, ?_⟩
    cases hcopy : k.copies (setAside (.upgradeDownloaded p.path) m.files.get) info.dest.parent with
    | false => exact Or.inl rfl
    | true =>
        rcases hreplaced hcopy with ⟨f₂, hf₂, hfinds₂⟩
        refine Or.inr ⟨(finds_replaced_iff hinst hplan fun path _ => by rw [hf₂]).mp hfinds₂, ?_⟩
        intro hplace
        -- The last state tells what happens to a new file in the place of the backup.
        have hend := Prog.eval_of_wp (k.serve env) h
        have hexit := Prog.eval_of_wp (k.serve env)
          (wp_executeInstallInner k env m.files removeData (.upgradeDownloaded p.path) hsource
            hdest)
        revert hend hexit
        generalize Prog.eval (k.serve env)
          (executeInstallInner info removeData (.upgradeDownloaded p.path)) m.files = last
        rcases last with ⟨f, r⟩
        intro hend hexit
        generalize hget : HashMap.get f = got at hexit
        cases hexit with
        | backupFailed e hfails => exact absurd hfails hbackup
        | copyFailed e _ hnot => exact absurd (hcopy.symm.trans hnot) Bool.noConfusion
        | finishFailed e _ _ hfinish =>
            refine ⟨fun h => absurd h hfinish, fun _ hroll => ?_⟩
            exact (finds_rolledBack_iff hinst hplan hroll hbackup
              fun path _ => by rw [hget]).mp hend hplace
        | installed _ _ hfinish =>
            refine ⟨fun _ hremove => ?_, fun h => absurd hfinish h⟩
            exact (finds_cleaned_iff hinst hplan (makes_of_finishes hplan hfinish)
              fun path _ => by rw [hget]).mp hend hplace hremove

end Stop

/-- Wherever the daemon stops in the upgrade of an installed package, every reload
    finds the package in one of its two versions, exactly under the condition. -/
theorem upgrade_survives_stop_iff [LE V] [DecidableLE V] [ToString V] (o : Outcomes C)
    (m : ManagerState C F) (msg : InstallPackage C) (info : InstallInfo C F) (p : Package F)
    (content : C) (hinst : Installed env m info.packageName p)
    (h : Attempt env o m msg info (some p) content) :
    (∀ j, Finds env (Prog.cut (o.file.serve env) j (executeInstallInner info msg.removeData
        (installMode env (some p))) m.files).1 info.packageName (OneOf env p info)) ↔
      SurvivesStop env o.file m.files info msg.removeData p := by
  have hsource : info.source.content = some content := by
    rw [h.planned.source, h.planned.readable]
  have hdest : info.dest.parent ≠ "" := by
    rw [h.planned.dest]
    exact env.nonempty
  rw [hinst.mode]
  -- A stop after any number of calls leaves one of the states of the run.
  refine (Prog.forall_cut_iff (o.file.serve env)
    (P := fun f => Finds env f info.packageName (OneOf env p info))).trans ⟨?_, ?_⟩
  · exact survivesStop_of_wp hinst h.planned
  · intro hcond
    refine Prog.wp_mono (o.file.serve env) ?_ ?_
      (wp_executeInstallInner o.file env m.files msg.removeData (.upgradeDownloaded p.path) hsource
        hdest)
    · exact fun f _ hduring => finds_during hinst h.planned hcond hduring
    · exact fun r f hexit => finds_exit hinst h.planned hcond hexit

variable (env) in
/-- Where there is one package file, and it is in the downloaded directory, its
    package is found. -/
theorem installed_single {path : Path} {content : C} {g : F}
    (hparent : path.parent = env.downloadedDir)
    (hpkg : isPackageFileName env.packagesExt path.fileName = true)
    (hfile : env.fromFileVerified content = .ok g) (hmakes : Makes env path g)
    {store : PackageStore F} (hstore : store.get (env.packageName g) = some ⟨g, path⟩) :
    Installed env ⟨store, AList.insert path content ∅⟩ (env.packageName g) ⟨g, path⟩ := by
  have hget : ∀ q : Path, HashMap.get (AList.insert path content (∅ : Files C)) q =
      if q = path then some content else none := fun q => HashMap.get_insert _ path q content
  have hoffer : Offers env (AList.insert path content ∅) env.downloadedDir (env.packageName g)
      ⟨g, path⟩ :=
    offers_iff_get.mpr ⟨hparent, hpkg, ⟨content, by rw [hget, if_pos rfl], hfile⟩, rfl, hmakes⟩
  refine ⟨hstore, hparent,
    (forall_reload_iff (P := fun o => o = some ⟨g, path⟩)).mpr fun o ho => ?_⟩
  -- The one file is what every reload finds.
  cases ho with
  | downloaded q hq =>
      rcases offers_iff_get.mp hq with ⟨-, -, ⟨found, hfound, hq'⟩, -, hcreate⟩
      rw [hget] at hfound
      split at hfound
      · next hpath =>
          rw [← Option.some.inj hfound, hfile] at hq'
          rw [createPackage_eq_ok hcreate, hpath, Except.ok.inj hq']
      · exact absurd hfound.symm (Option.some_ne_none found)
  | overridden _ hnone => exact absurd hoffer (hnone _)
  | bundled q hfree _ => exact absurd hoffer.claims (not_exists.mpr hfree)
  | absent hfree _ => exact absurd hoffer.claims (not_exists.mpr hfree)

/-- The package `a` is installed, and nothing is bundled. -/
def installedAlone : ManagerState (String × Nat) (String × Nat) where
  store := PackageStore.empty.insert "a" ⟨("a", 1), ⟨"/d", "a.ssam"⟩⟩
  files := AList.insert ⟨"/d", "a.ssam"⟩ ("a", 1) ∅

/-- The upgrade of the package `a` to version 2. -/
def upgradeInfo : InstallInfo (String × Nat) (String × Nat) where
  packageName := "a"
  packageFile := ("a", 2)
  source := (installFrom ("a", 2)).source
  dest := ⟨"/d", "a.ssam"⟩
  volumeMeta := ⟨"a", "/data/a", none, none⟩

theorem installed_alone : Installed (plainEnv fun _ => .ok ()) installedAlone "a"
    ⟨("a", 1), ⟨"/d", "a.ssam"⟩⟩ :=
  installed_single (plainEnv fun _ => .ok ()) (g := ("a", 1)) rfl (by decide +kernel) rfl
    rfl rfl

theorem attempt_alone : Attempt (plainEnv fun _ => .ok ()) (.fine ("", 0)) installedAlone
    (installFrom ("a", 2)) upgradeInfo (some ⟨("a", 1), ⟨"/d", "a.ssam"⟩⟩) ("a", 2) := by
  have hplan : planInstall (plainEnv fun _ => .ok ()) installedAlone.store (installFrom ("a", 2)) =
      .ok (upgradeInfo, some ⟨("a", 1), ⟨"/d", "a.ssam"⟩⟩) := by
    rfl
  rcases planInstall_eq_ok hplan with ⟨content, hplanned⟩
  rw [← Option.some.inj hplanned.readable] at hplanned
  exact ⟨hplan, hplanned, Or.inr rfl⟩

theorem upgrade_survives_stop_iff_alone :
    (∀ j, Finds (plainEnv fun _ => .ok ()) (Prog.cut
        ((Outcomes.fine ("", 0)).file.serve (plainEnv fun _ => .ok ())) j
        (executeInstallInner upgradeInfo false (installMode (plainEnv fun _ => .ok ())
          (some ⟨("a", 1), ⟨"/d", "a.ssam"⟩⟩))) installedAlone.files).1 "a"
        (OneOf (plainEnv fun _ => .ok ()) ⟨("a", 1), ⟨"/d", "a.ssam"⟩⟩ upgradeInfo)) ↔
      SurvivesStop (plainEnv fun _ => .ok ()) (.fine ("", 0)) installedAlone.files upgradeInfo false
        ⟨("a", 1), ⟨"/d", "a.ssam"⟩⟩ :=
  upgrade_survives_stop_iff (.fine ("", 0)) installedAlone (installFrom ("a", 2)) upgradeInfo
    ⟨("a", 1), ⟨"/d", "a.ssam"⟩⟩ ("a", 2) installed_alone attempt_alone

/-- The daemon stops once the old file is set aside, and nothing is bundled: a
    reload does not find the package. -/
theorem upgrade_loses_package :
    ¬ ∀ (o : Outcomes (String × Nat)) (m : ManagerState (String × Nat) (String × Nat))
      (msg : InstallPackage (String × Nat)) (info : InstallInfo (String × Nat) (String × Nat))
      (p : Package (String × Nat)) (content : String × Nat),
      Installed (plainEnv fun _ => .ok ()) m info.packageName p →
      Attempt (plainEnv fun _ => .ok ()) o m msg info (some p) content →
      ∀ j, Finds (plainEnv fun _ => .ok ()) (Prog.cut
        (o.file.serve (plainEnv fun _ => .ok ())) j (executeInstallInner info msg.removeData
          (installMode (plainEnv fun _ => .ok ()) (some p))) m.files).1 info.packageName
        (OneOf (plainEnv fun _ => .ok ()) p info) := by
  intro h
  have hfinds := h (.fine ("", 0)) installedAlone (installFrom ("a", 2)) upgradeInfo
    ⟨("a", 1), ⟨"/d", "a.ssam"⟩⟩ ("a", 2) installed_alone attempt_alone 1
  rw [installed_alone.mode] at hfinds
  -- The first call renames the installed file.
  have hcut : (Prog.cut ((Outcomes.fine ("", 0)).file.serve (plainEnv fun _ => .ok ())) 1
      (executeInstallInner upgradeInfo false (.upgradeDownloaded ⟨"/d", "a.ssam"⟩))
      installedAlone.files).1 = (renameFile installedAlone.files ⟨"/d", "a.ssam"⟩
        (backupPathOf ⟨"/d", "a.ssam"⟩) none).1 := Prog.cut_one _ _ _ _
  have hinstalled : installedAlone.files.get ⟨"/d", "a.ssam"⟩ = some ("a", 1) := rfl
  have hget := (renameFile_of_some (backupPathOf ⟨"/d", "a.ssam"⟩) hinstalled).2
  have haside := (finds_setAside_iff installed_alone attempt_alone.planned fun path _ =>
    congrFun ((congrArg HashMap.get hcut).trans hget) path).mp hfinds
  rcases (haside.2 (by decide +kernel)).2.1 with ⟨q, hq⟩
  rcases offers_iff_get.mp hq with ⟨hparent, -, ⟨found, hfound, -⟩, -⟩
  have hpath : q.path ≠ ⟨"/d", "a.ssam"⟩ := fun h =>
    absurd (hparent.symm.trans (congrArg Path.parent h)) (by decide)
  have hnone : HashMap.get installedAlone.files q.path = none :=
    HashMap.get_insert_ne _ _ hpath
  rw [hnone] at hfound
  exact Option.some_ne_none found hfound.symm

end Crash

end Manager

end Ssam
