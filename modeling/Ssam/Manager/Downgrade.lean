import Mathlib.Order.Lattice
import Ssam.Manager.Agreement

/-!
# Versions Along a Run

Whether the version of an installed package can go down, over runs of reloads, starts,
stops and installs that are not forced.

An install compares with the version in the store. That is the version on disk as long
as the store and the directories agree. A package that cannot be made again after a
failed upgrade leaves the store while its file stays, and from then on any version can
be installed over it.

## Main definitions

* `DirOrder`, `readDir`: The order a directory is read in.
* `Env.failing`, `Outcomes.failing`: No package can be made while a message is handled.
* `VersionEvent`, `versionStep`: The messages that leave packages installed.
* `Has`: A version the store has or a reload would serve.
* `NeverOlder`: The versions do not go down in the step.
* `Compares`: The step leaves the store to be compared with.

## Theorems

* `handleInstallPackage_failing`: A fresh install without a package to be made.
* `not_older_of_handled`: An install leaves no older version in the store.
* `versions_never_decrease`: No version goes down in a run whose steps compare.
-/

namespace Ssam

namespace Manager

open Lib Function

/-- An order in which the entries of directories are read. -/
structure DirOrder where
  run : List String → List String
  perm : ∀ names, (run names).Perm names

/-- The entries of the directory, in the order. -/
def readDir {C : Type} (order : DirOrder) (files : Files C) (dir : String) : DirEntries :=
  some ((order.run (namesIn files dir)).map .ok)

theorem lists_readDir {C : Type} (order : DirOrder) (files : Files C) (dir : String) :
    Lists files dir (readDir order files dir) :=
  lists_of_perm (order.perm _)

/-- A reload, a start or a stop, or an install. Where `broken` is an error, no package
    can be made while the install is handled. -/
inductive VersionEvent (C : Type) where
  | reload (bundled downloaded : DirOrder)
  | request (packageName : String)
  | install (msg : InstallPackage C) (o : Outcomes C) (broken : Option Error)

section Failing

variable {C F V : Type}

/-- The environment while packages cannot be made. -/
def Env.failing (env : Env C F V) : Option Error → Env C F V
  | none => env
  | some e => { env with buildPackage := fun _ _ => .error e }

/-- The transaction cannot make the package. -/
def Outcomes.failing (o : Outcomes C) (e : Error) : Outcomes C :=
  { o with file := { o.file with newPackage := some (o.file.newPackage.getD e) } }

variable (env : Env C F V) (k : FileKernel C)

/-- That no package can be made is all the same to the transaction as that its own
    cannot. -/
theorem doInstall_failing (e : Error) (files : Files C) (info : InstallInfo C F)
    (removeData : Bool) (mode : InstallMode) :
    doInstall (env.failing (some e)) k files info removeData mode =
      doInstall env { k with newPackage := some (k.newPackage.getD e) } files info removeData
        mode := by
  refine Prog.eval_congr _ (fun {α} f c => ?_) _ files
  cases c with
  | newPackage path packageFile =>
      rw [FileKernel.serve, FileKernel.serve]
      cases k.newPackage <;> rfl
  | _ => rfl

variable {env} in
/-- Where there is no package to be made once more, an install that cannot make
    packages is one whose transaction cannot. -/
theorem handleInstallPackage_failing [LE V] [DecidableLE V] [ToString V] {o : Outcomes C}
    {m : ManagerState C F} {msg : InstallPackage C} (e : Error)
    (h : ∀ info existing content, ¬ Attempt env o m msg info (some existing) content) :
    handleInstallPackage (env.failing (some e)) o m msg =
      handleInstallPackage env (o.failing e) m msg := by
  have hplan : planInstall (env.failing (some e)) m.store msg = planInstall env m.store msg := rfl
  unfold handleInstallPackage
  rw [hplan]
  cases hp : planInstall env m.store msg with
  | error e' => rfl
  | ok plan =>
      rcases plan with ⟨info, origPkg⟩
      rcases planInstall_eq_ok hp with ⟨content, hplanned⟩
      cases origPkg with
      | none =>
          dsimp only
          rw [doInstall_failing]
          rfl
      | some existing =>
          -- The upgrade is refused, or there would be a package to be made once more.
          cases hprepare : o.prepareUpgrade with
          | error e' =>
              have hprepare' : (o.failing e).prepareUpgrade = .error e' := hprepare
              simp only [hprepare', context]
          | ok _ => exact absurd ⟨hp, hplanned, Or.inr hprepare⟩ (h info existing content)

end Failing

section Has

variable {C F V : Type} (env : Env C F V)

/-- A version of the package: one the store has, or one a reload would serve. -/
def Has (m : ManagerState C F) (n : String) (v : V) : Prop :=
  ∃ p, (m.store.get n = some p ∨ Serves env m.files n (some p)) ∧ env.version p.file = v

variable {env} {m : ManagerState C F}

/-- What the store agrees with has one package under a name. -/
theorem Consistent.unambiguous (h : Consistent env m) : Unambiguous env m.files := by
  intro n
  constructor
  · intro p q hp hq
    have hp' := h.agrees n _ (Serves.downloaded p hp)
    rw [← h.agrees n _ (Serves.downloaded q hq)] at hp'
    exact Option.some.inj hp'
  · intro hfree p q hp hq
    have hp' := h.agrees n _ (Serves.bundled p hfree hp)
    rw [← h.agrees n _ (Serves.bundled q hfree hq)] at hp'
    exact Option.some.inj hp'

/-- The one version of a package is that in the store. -/
theorem Consistent.has (h : Consistent env m) {n : String} {v : V} (hv : Has env m n v) :
    ∃ p, m.store.get n = some p ∧ env.version p.file = v := by
  rcases hv with ⟨p, hp | hp, hversion⟩
  · exact ⟨p, hp, hversion⟩
  · exact ⟨p, (h.agrees n _ hp).symm, hversion⟩

/-- What a package in the store was made from. -/
theorem Consistent.made_eq (h : Consistent env m) {n : String} {p : Package F}
    (hp : m.store.get n = some p) : made env m.files p.path = some p := by
  have hserves := h.serves n
  rw [hp] at hserves
  cases hserves with
  | downloaded _ hoffer => exact hoffer.made
  | bundled _ _ hoffer => exact hoffer.made

/-- After an install that failed, the file a package was installed at is as it was, or
    gone, or the new one. -/
theorem exit_installed {k : FileKernel C} {info : InstallInfo C F} {content : C}
    {removeData : Bool} {p : Package F} {at_ after : Path → Option C} {e : Error}
    (h : InstallExit k env info content removeData (installMode env (some p)) at_ (.error e)
      after) :
    after p.path = at_ p.path ∨ after p.path = none ∨ after p.path = some content := by
  have hplace : ∀ x : Path → Option C, ∀ path, (update x info.dest (some content)) path = x path ∨
      (update x info.dest (some content)) path = some content := by
    intro x path
    rw [update_apply]
    split
    · exact Or.inr rfl
    · exact Or.inl rfl
  revert h
  rw [installMode]
  split
  · intro h
    rcases exit_over (Or.inr rfl) h with ⟨hafter, -⟩ | ⟨hafter, -⟩ | ⟨hafter, -⟩
    · exact Or.inl (congrFun hafter p.path)
    · rw [hafter, update_apply]
      split
      · exact Or.inr (Or.inl rfl)
      · exact Or.inl rfl
    · rw [hafter]
      exact (hplace at_ p.path).imp_right Or.inr
  · intro h
    -- The file is renamed and perhaps renamed back, and the new one may meet it at
    -- either name.
    have haside : setAside (.upgradeDownloaded p.path) at_ p.path = none := by
      rw [setAside, renamed, update_of_ne (backupPathOf_ne p.path).symm, update_self]
    have hbackup : setAside (.upgradeDownloaded p.path) at_ (backupPathOf p.path) = at_ p.path :=
      update_self _ _ _
    have hback : ∀ x : Path → Option C,
        rolledBack k (.upgradeDownloaded p.path) info.dest x p.path = x (backupPathOf p.path) ∨
          rolledBack k (.upgradeDownloaded p.path) info.dest x p.path = x p.path := by
      intro x
      rw [rolledBack]
      split
      · exact Or.inl (update_self _ _ _)
      · exact Or.inr rfl
    cases h with
    | backupFailed _ _ => exact Or.inl rfl
    | copyFailed _ _ _ =>
        rcases hback (setAside (.upgradeDownloaded p.path) at_) with h | h
        · exact Or.inl (h.trans hbackup)
        · exact Or.inr (Or.inl (h.trans haside))
    | finishFailed _ _ _ _ =>
        rcases hback (update (setAside (.upgradeDownloaded p.path) at_) info.dest (some content))
          with h | h
        · rw [h, ← hbackup]
          exact (hplace _ _).imp_right Or.inr
        · rw [h, ← haside]
          rcases hplace (setAside (.upgradeDownloaded p.path) at_) p.path with hp | hp
          · exact Or.inr (Or.inl hp)
          · exact Or.inr (Or.inr hp)

end Has

section Versions

variable {C F V : Type} [LinearOrder V] [ToString V] (env : Env C F V)

/-- Handle a message. A start or a stop changes neither the store nor the files. -/
def versionStep (m : ManagerState C F) : VersionEvent C → Option (ManagerState C F)
  | .reload bundled downloaded =>
      some ⟨reloadPackages env m.files (readDir bundled m.files env.bundledDir)
        (readDir downloaded m.files env.downloadedDir), m.files⟩
  | .request _ => some m
  | .install msg o broken => some (handleInstallPackage (env.failing broken) o m msg).1

/-- No version of a package goes down in the step. -/
def NeverOlder (m : ManagerState C F) (e : VersionEvent C) : Prop :=
  ∀ m', versionStep env m e = some m' → ∀ n v v', Has env m n v → Has env m' n v' → v ≤ v'

/-- The message does not force an install. -/
def Unforced : VersionEvent C → Prop
  | .install msg _ _ => msg.force = false
  | _ => True

/-- The step leaves the store and the directories with the same packages: an install
    does so, and where it fails, the package it should have replaced is made once
    more. -/
def Compares (m : ManagerState C F) : VersionEvent C → Prop
  | .install msg o none => Keeps env m (.install msg o)
  | .install msg o (some e) => Keeps env m (.install msg (o.failing e)) ∧
      ∀ info existing content, ¬ Attempt env o m msg info (some existing) content
  | _ => True

variable {env} {m : ManagerState C F}

/-- An install that is not forced leaves no older version in the store than there
    was. -/
theorem not_older_of_handled (h : Consistent env m) {o : Outcomes C} {msg : InstallPackage C}
    (hforce : msg.force = false) {n : String} {p p' : Package F} (hp : m.store.get n = some p)
    (hp' : (handleInstallPackage env o m msg).1.store.get n = some p') :
    env.version p.file ≤ env.version p'.file := by
  -- What passes the check is newer.
  have hnewer : ∀ {info existing content}, Planned env m.store msg info (some existing) content →
      env.version existing.file ≤ env.version info.packageFile := by
    intro info existing content hplanned
    rcases hplanned.newer existing rfl with hforced | hnot
    · exact absurd (hforced.symm.trans hforce) (Bool.false_ne_true ·.symm)
    · exact le_of_not_ge hnot
  have hhandled := handled env o m msg
  revert hhandled hp'
  generalize handleInstallPackage env o m msg = result
  intro hp' hhandled
  cases hhandled with
  | refused _ store _ hstore =>
      have hsame : store.get n = m.store.get n := by
        rcases hstore with rfl | ⟨name, rfl⟩
        · rfl
        · rfl
      rw [Option.some.inj (hp.symm.trans (hsame.symm.trans hp'))]
  | installed info origPkg content files built hattempt hexit =>
      revert hexit
      generalize HashMap.get files = at_
      intro hexit
      cases hexit with
      | installed _ _ _ =>
      have hplanned := hattempt.planned
      rw [PackageStore.get_insert, ← hplanned.name] at hp'
      by_cases hn : n = info.packageName
      · rw [if_pos hn] at hp'
        have horig : origPkg = some p := by rw [hplanned.orig, ← hn, hp]
        rw [← Option.some.inj hp']
        rw [horig] at hplanned
        exact hnewer hplanned
      · rw [if_neg hn, PackageStore.get_removeBroken] at hp'
        rw [Option.some.inj (hp.symm.trans hp')]
  | failed info origPkg content files e e' hattempt hexit =>
      have hplanned := hattempt.planned
      have horig' : origPkg = (m.store.removeBroken info.dest.fileName).get info.packageName :=
        hplanned.orig
      rw [get_recovered _ _ _ _ horig'] at hp'
      by_cases hn : n = info.packageName
      · rw [if_pos hn] at hp'
        have horig : origPkg = some p := by rw [hplanned.orig, ← hn, hp]
        subst horig
        rw [Option.bind_some] at hp'
        rcases exit_installed hexit with hafter | hafter | hafter
        · rw [made_congr hafter, h.made_eq hp] at hp'
          rw [Option.some.inj hp']
        · rw [made_of_none hafter] at hp'
          exact absurd hp'.symm (Option.some_ne_none p')
        · rw [((made_of_get hafter hplanned.parses).mp hp').1]
          exact hnewer hplanned
      · rw [if_neg hn, PackageStore.get_removeBroken] at hp'
        rw [Option.some.inj (hp.symm.trans hp')]

/-- A step that leaves the store to be compared with keeps the invariant. -/
theorem consistent_versionStep (h : Consistent env m) {e : VersionEvent C}
    (hcompares : Compares env m e) {m' : ManagerState C F} (hstep : versionStep env m e = some m') :
    Consistent env m' := by
  cases e with
  | reload bundled downloaded =>
      rw [← Option.some.inj hstep]
      exact consistent_reload h.unambiguous (lists_readDir _ _ _) (lists_readDir _ _ _)
  | request packageName =>
      rw [← Option.some.inj hstep]
      exact h
  | install msg o broken =>
      rw [← Option.some.inj hstep]
      cases broken with
      | none => exact consistent_install h hcompares
      | some e =>
          rw [handleInstallPackage_failing e hcompares.2]
          exact consistent_install h hcompares.1

/-- No version goes down in a step that leaves the store to be compared with. -/
theorem neverOlder_step (h : Consistent env m) {e : VersionEvent C} (hcompares : Compares env m e)
    (hforce : Unforced e) : NeverOlder env m e := by
  intro m' hstep n v v' hv hv'
  rcases h.has hv with ⟨p, hp, rfl⟩
  rcases (consistent_versionStep h hcompares hstep).has hv' with ⟨p', hp', rfl⟩
  cases e with
  | reload bundled downloaded =>
      rw [← Option.some.inj hstep] at hp'
      -- A reload serves what the store has already.
      have hserves := serves_reload (lists_readDir bundled m.files env.bundledDir)
        (lists_readDir downloaded m.files env.downloadedDir) n
      have hsame := h.agrees n _ hserves
      rw [Option.some.inj (hp'.symm.trans (hsame.trans hp))]
  | request packageName =>
      rw [← Option.some.inj hstep] at hp'
      rw [Option.some.inj (hp'.symm.trans hp)]
  | install msg o broken =>
      rw [← Option.some.inj hstep] at hp'
      cases broken with
      | none => exact not_older_of_handled h hforce hp hp'
      -- What fails on the way out has left the same state.
      | some e =>
          rw [handleInstallPackage_failing e hcompares.2] at hp'
          exact not_older_of_handled h hforce hp hp'

end Versions

/-- From a reload of directories with one package under each name on, no version goes
    down in a run of unforced messages whose steps leave the store to be compared
    with. -/
theorem versions_never_decrease {C F V : Type} [LinearOrder V] [ToString V] {env : Env C F V}
    (files : Files C) (bundled downloaded : DirOrder) (es : List (VersionEvent C))
    (hforce : ∀ e ∈ es, Unforced e) (h : Unambiguous env files)
    (hcompares : Along (versionStep env) (Compares env)
      ⟨reloadPackages env files (readDir bundled files env.bundledDir)
        (readDir downloaded files env.downloadedDir), files⟩ es) :
    Along (versionStep env) (NeverOlder env)
      ⟨reloadPackages env files (readDir bundled files env.bundledDir)
        (readDir downloaded files env.downloadedDir), files⟩ es := by
  have hconsistent : Always (versionStep env) (Consistent env)
      ⟨reloadPackages env files (readDir bundled files env.bundledDir)
        (readDir downloaded files env.downloadedDir), files⟩ es :=
    always_of_along (fun _ _ _ hm hc hstep => consistent_versionStep hm hc hstep)
      (consistent_reload h (lists_readDir _ _ _) (lists_readDir _ _ _)) hcompares
  exact along_mono (fun m e hm hc => neverOlder_step hm hc.1 hc.2) hconsistent
    (along_and hcompares (along_of_forall hforce _))

/-- Directories read in the order of the map. -/
def listed : DirOrder := ⟨id, List.Perm.refl⟩

theorem versions_never_decrease_upgrade :
    Along (versionStep (plainEnv fun _ => .ok ())) (NeverOlder (plainEnv fun _ => .ok ()))
      ⟨reloadPackages (plainEnv fun _ => .ok ()) aloneFiles (readDir listed aloneFiles "/b")
        (readDir listed aloneFiles "/d"), aloneFiles⟩
      [.install (installFrom ("a", 2)) (.fine ("", 0)) none] := by
  refine versions_never_decrease aloneFiles listed listed _ (fun e he => ?_)
    unambiguous_aloneFiles (along_cons rfl ?_ trivial)
  · rw [List.mem_singleton.mp he]
    rfl
  · rintro info origPkg content ⟨hplan, -, -⟩
    have hinfo := Except.ok.inj (hplan.symm.trans rfl :
      Except.ok (info, origPkg) = Except.ok (⟨"a", ("a", 2), (installFrom ("a", 2)).source,
        ⟨"/d", "a.ssam"⟩, ⟨"a", "/data/a", none, none⟩⟩, some ⟨("a", 1), ⟨"/d", "a.ssam"⟩⟩))
    rw [Prod.mk.injEq] at hinfo
    rw [hinfo.1, hinfo.2]
    -- The copy succeeds and everything after it.
    have hcopied : (FileKernel.fine ("", 0)).copies
        (setAside (.upgradeDownloaded ⟨"/d", "a.ssam"⟩) aloneFiles.get) "/d" = true := by rfl
    have hfinishes : Finishes (FileKernel.fine ("", 0)) (plainEnv fun _ => .ok ())
        ⟨"a", ("a", 2), (installFrom ("a", 2)).source, ⟨"/d", "a.ssam"⟩,
          ⟨"a", "/data/a", none, none⟩⟩
        false (.upgradeDownloaded ⟨"/d", "a.ssam"⟩) :=
      ⟨fun h => absurd h Bool.false_ne_true, rfl, rfl, rfl⟩
    refine Or.inr ⟨?_, fun h => absurd hcopied h, fun _ h => absurd hfinishes h,
      fun _ h => absurd hfinishes h, fun _ _ _ => by decide +kernel, fun _ _ h => absurd rfl h⟩
    rintro f n' - hclaims hn'
    rcases claims_iff_get.mp hclaims with ⟨-, content, hget, hname⟩
    rw [get_aloneFiles] at hget
    split at hget
    · rw [← Option.some.inj hget] at hname
      exact absurd hname.symm hn'
    · exact absurd hget.symm (Option.some_ne_none content)

/-- After an upgrade that failed, and a package that could not be made once more, an
    older version is installed over the one on disk. -/
theorem older_over_newer :
    ¬ ∀ (files : Files (String × Nat)) (bundled downloaded : DirOrder)
      (es : List (VersionEvent (String × Nat))), (∀ e ∈ es, Unforced e) →
      Along (versionStep (plainEnv fun _ => .ok ())) (NeverOlder (plainEnv fun _ => .ok ()))
        ⟨reloadPackages (plainEnv fun _ => .ok ()) files (readDir bundled files "/b")
          (readDir downloaded files "/d"), files⟩ es := by
  intro h
  have halong := h aloneFiles listed listed
    [.install (installFrom ("a", 2)) (.fine ("", 0)) (some ["Invalid runtime configuration"]),
      .install (installFrom ("a", 0)) (.fine ("", 0)) none] ?_
  · have hsecond := (halong _ rfl).2 _ rfl
    have hle := hsecond.1 _ rfl "a" 1 0 ⟨⟨("a", 1), ⟨"/d", "a.ssam"⟩⟩, Or.inr ?_, rfl⟩
      ⟨⟨("a", 0), ⟨"/d", "a.ssam"⟩⟩, Or.inl rfl, rfl⟩
    · exact absurd hle (by decide)
    · exact Serves.downloaded _ ⟨"a.ssam", ⟨by decide +kernel, by decide +kernel⟩, rfl⟩
  · intro e he
    rcases List.mem_cons.mp he with rfl | he
    · rfl
    · rw [List.mem_singleton.mp he]
      rfl

end Manager

end Ssam
