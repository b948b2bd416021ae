import Ssam.Manager.Install
import Ssam.Manager.Served

/-!
# What a Change of Some Files Serves

What a reload serves after some files of the downloaded directory were changed,
told from the files before.

For the name the change is about, it is what can be made of the changed files now.
Another name keeps what is served under it as long as the changed files were not
what is served, and were not what keeps the bundled directory out either. That is
`Spare`.

## Main definitions

* `OthersClaim`: Another file of the downloaded directory has the name.
* `NothingBundled`: The bundled directory offers nothing under the name.
* `Spare`: The files can go as far as other names are concerned.
* `made`, `Makes`: What can be made of a file.
* `Installed`: A downloaded package that is in the store and found by a reload.

## Theorems

* `serves_frame`: Other names keep what is served under them.
* `serves_eq_some`, `serves_eq_none`, `serves_eq_bundled`: What is served where it
  is told by one file.
* `made_of_get`: What can be made of a file, from what is in it.
-/

namespace Ssam

namespace Manager

open Lib

section Changed

variable {C F V : Type} (env : Env C F V) (files : Files C)

/-- A file of the downloaded directory has the name, and is none of these. -/
def OthersClaim (n : String) (S : Path → Prop) : Prop :=
  ∃ f, Claims env files env.downloadedDir n f ∧ ¬ S ⟨env.downloadedDir, f⟩

/-- The bundled directory offers nothing under the name. -/
def NothingBundled (n : String) : Prop := ∀ q, ¬ Offers env files env.bundledDir n q

/-- Other names than `n` can do without these files: none of them is served under
    such a name, and one that has the name is not all that keeps the bundled
    directory out. -/
def Spare (n : String) (S : Path → Prop) : Prop :=
  ∀ f n', S ⟨env.downloadedDir, f⟩ → Claims env files env.downloadedDir n' f → n' ≠ n →
    (∀ q, Offers env files env.downloadedDir n' q → ¬ S q.path) ∧
      (OthersClaim env files n' S ∨ NothingBundled env files n')

/-- What can be made of the file at the path. -/
def made (path : Path) : Option (Package F) :=
  (createParsed env (parsePackage env files path)).toOption

/-- A package can be made of the file at the path. -/
def Makes (path : Path) (packageFile : F) : Prop :=
  createPackage env path packageFile = .ok ⟨packageFile, path⟩

/-- The package is installed from a file of the downloaded directory: it is in
    the store, and every reload finds it. -/
structure Installed (m : ManagerState C F) (n : String) (p : Package F) : Prop where
  stored : m.store.get n = some p
  downloaded : p.path.parent = env.downloadedDir
  found : ∀ bundled downloaded, Lists m.files env.bundledDir bundled →
    Lists m.files env.downloadedDir downloaded →
    (reloadPackages env m.files bundled downloaded).get n = some p

variable {env files} {files' : Files C} {n : String} {S : Path → Prop}

/-- What can be made of a file depends on it alone. -/
theorem made_congr {path : Path} (h : files'.get path = files.get path) :
    made env files' path = made env files path := by
  rw [made, made, parsePackage, parsePackage, h]

theorem made_eq_some {path : Path} {package : Package F} :
    made env files path = some package ↔
      createParsed env (parsePackage env files path) = .ok package := by
  rw [made]
  cases createParsed env (parsePackage env files path) with
  | ok p => simp only [Except.toOption, Option.some.injEq, Except.ok.injEq]
  | error e => simp only [Except.toOption, reduceCtorEq]

/-- What is offered is what can be made of its file. -/
theorem Offers.made {dir : String} {p : Package F} (h : Offers env files dir n p) :
    made env files p.path = some p :=
  made_eq_some.mpr (offers_iff.mp h).2.2

/-- Nothing can be made of a file that is not there. -/
theorem made_of_none {path : Path} (h : files.get path = none) : made env files path = none := by
  rw [Option.eq_none_iff_forall_ne_some]
  intro p hp
  have hparsed : parseContent env (files.get path) = .ok p.file :=
    (createParsed_eq_ok.mp (made_eq_some.mp hp)).1
  rw [h] at hparsed
  rcases parseContent_eq_ok.mp hparsed with ⟨content, hcontent, -⟩
  exact Option.some_ne_none content hcontent.symm

/-- What can be made of a file, from what is in it. -/
theorem made_of_get {path : Path} {content : C} {g : F} (hget : files.get path = some content)
    (hfile : env.fromFileVerified content = .ok g) {p : Package F} :
    made env files path = some p ↔ p = ⟨g, path⟩ ∧ Makes env path g := by
  have hparsed : (parsePackage env files path).packageFile = .ok g := by
    rw [parsePackage, hget]
    exact parseContent_eq_ok.mpr ⟨content, rfl, hfile⟩
  rw [made_eq_some, createParsed_eq_ok, hparsed]
  constructor
  · rintro ⟨hp, hcreate⟩
    rw [← Except.ok.inj hp] at hcreate
    have heq := createPackage_eq_ok hcreate
    rw [heq] at hcreate ⊢
    exact ⟨rfl, hcreate⟩
  · rintro ⟨rfl, hcreate⟩
    exact ⟨rfl, hcreate⟩

/-- Where a package is the only one offered, it is what is served. -/
theorem serves_eq_some {p : Package F} (h : Offers env files env.downloadedDir n p)
    (hsole : ∀ q, Offers env files env.downloadedDir n q → q = p) {o : Option (Package F)}
    (ho : Serves env files n o) : o = some p := by
  cases ho with
  | downloaded q hq => rw [hsole q hq]
  | overridden _ hnone => exact absurd h (hnone p)
  | bundled q hfree _ => exact absurd h.claims (not_exists.mpr hfree)
  | absent hfree _ => exact absurd h.claims (not_exists.mpr hfree)

/-- Where nothing is offered, and the bundled directory is kept out or offers
    nothing either, nothing is served. -/
theorem serves_eq_none (h : ∀ q, ¬ Offers env files env.downloadedDir n q)
    (hout : (∃ f, Claims env files env.downloadedDir n f) ∨ NothingBundled env files n)
    {o : Option (Package F)} (ho : Serves env files n o) : o = none := by
  cases ho with
  | downloaded q hq => exact absurd hq (h q)
  | overridden _ _ => rfl
  | bundled q hfree hq =>
      rcases hout with hclaims | hnone
      · exact absurd hclaims (not_exists.mpr hfree)
      · exact absurd hq (hnone q)
  | absent _ _ => rfl

/-- Where the downloaded directory does not have the name, what alone is bundled
    under it is served. -/
theorem serves_eq_bundled {p : Package F} (hfree : ∀ f, ¬ Claims env files env.downloadedDir n f)
    (h : Offers env files env.bundledDir n p)
    (hsole : ∀ q, Offers env files env.bundledDir n q → q = p) {o : Option (Package F)}
    (ho : Serves env files n o) : o = some p := by
  cases ho with
  | downloaded q hq => exact absurd hq.claims (not_exists.mpr hfree)
  | overridden hclaims _ => exact absurd hclaims (not_exists.mpr hfree)
  | bundled q _ hq => rw [hsole q hq]
  | absent _ hnone => exact absurd h (hnone p)

/-- Where what is offered can only be at one path, and the file there has the name,
    what is served is what can be made of it. -/
theorem serves_eq_made {path : Path} (hparent : path.parent = env.downloadedDir)
    (hclaims : Claims env files env.downloadedDir n path.fileName)
    (hsole : ∀ q, Offers env files env.downloadedDir n q → q.path = path)
    {o : Option (Package F)} (ho : Serves env files n o) : o = made env files path := by
  -- The file makes the package, or it only claims the name.
  by_cases hoffered : ∃ q, Offers env files env.downloadedDir n q
  · rcases hoffered with ⟨q, hq⟩
    have hmade : made env files path = some q := by
      rw [← hsole q hq]
      exact hq.made
    rw [hmade]
    refine serves_eq_some hq (fun r hr => ?_) ho
    have hr' := hr.made
    rw [hsole r hr, hmade] at hr'
    exact (Option.some.inj hr').symm
  · have hnone := not_exists.mp hoffered
    rw [serves_eq_none hnone (Or.inl ⟨_, hclaims⟩) ho]
    symm
    rw [Option.eq_none_iff_forall_ne_some]
    intro q hq
    have hcreate := made_eq_some.mp hq
    have hpath : q.path = path := createParsed_path hcreate
    refine hnone q (offers_iff.mpr ⟨?_, ?_, ?_⟩)
    · rw [hpath, hparent]
    · rw [hpath]
      exact hclaims
    · rw [hpath]
      exact hcreate

/-- A change of some files of the downloaded directory, for the sake of the name `n`:
    the other files are as they were, and those that changed have the name if they
    have one. -/
structure Changed (env : Env C F V) (files files' : Files C) (n : String) (S : Path → Prop) :
    Prop where
  parent : ∀ path, S path → path.parent = env.downloadedDir
  frame : ∀ path, isPackageFileName env.packagesExt path.fileName = true → ¬ S path →
    files'.get path = files.get path
  named : ∀ f n', S ⟨env.downloadedDir, f⟩ → Claims env files' env.downloadedDir n' f → n' = n

/-- Files that are gone or made into packages of the name have no other name. -/
theorem changed_of_contents (hparent : ∀ path, S path → path.parent = env.downloadedDir)
    (hframe : ∀ path, isPackageFileName env.packagesExt path.fileName = true → ¬ S path →
      files'.get path = files.get path)
    (hin : ∀ path, S path → isPackageFileName env.packagesExt path.fileName = true →
      files'.get path = none ∨ ∃ content g, files'.get path = some content ∧
        env.fromFileVerified content = .ok g ∧ env.packageName g = n) :
    Changed env files files' n S := by
  refine ⟨hparent, hframe, fun f n' hS hclaims => ?_⟩
  rcases claims_iff_get.mp hclaims with ⟨hpkg, content, hget, hname⟩
  rcases hin _ hS hpkg with hnone | ⟨content', g, hget', hfile, hn⟩
  · exact absurd (hget.symm.trans hnone) (Option.some_ne_none content)
  · rw [Option.some.inj (hget.symm.trans hget'), parseContent_eq_ok.mpr ⟨content', rfl, hfile⟩]
      at hname
    exact hname.symm.trans hn

/-- What is offered from a file, told by what is in it. -/
theorem Offers.of_get {dir : String} {q : Package F} (h : Offers env files dir n q) {content : C}
    {g : F} (hget : files.get q.path = some content)
    (hfile : env.fromFileVerified content = .ok g) : q = ⟨g, q.path⟩ ∧ Makes env q.path g :=
  (made_of_get hget hfile).mp h.made

/-- There is a file where something is offered from. -/
theorem Offers.get_ne_none {dir : String} {q : Package F} (h : Offers env files dir n q) :
    files.get q.path ≠ none := by
  intro hnone
  exact Option.some_ne_none q (h.made.symm.trans (made_of_none hnone))

theorem Changed.bundled_claims (h : Changed env files files' n S) {n' f : String} :
    Claims env files' env.bundledDir n' f ↔ Claims env files env.bundledDir n' f :=
  claims_congr fun hpkg => h.frame _ hpkg fun hS => env.distinct (h.parent _ hS)

theorem Changed.bundled_offers (h : Changed env files files' n S) {n' : String} {q : Package F} :
    Offers env files' env.bundledDir n' q ↔ Offers env files env.bundledDir n' q :=
  offers_congr fun hdir hpkg => h.frame _ hpkg fun hS =>
    env.distinct (hdir.symm.trans (h.parent _ hS))

theorem Changed.claims (h : Changed env files files' n S) {n' f : String}
    (hf : ¬ S ⟨env.downloadedDir, f⟩) :
    Claims env files' env.downloadedDir n' f ↔ Claims env files env.downloadedDir n' f :=
  claims_congr fun hpkg => h.frame _ hpkg hf

theorem Changed.offers (h : Changed env files files' n S) {n' : String} {q : Package F}
    (hq : ¬ S q.path) :
    Offers env files' env.downloadedDir n' q ↔ Offers env files env.downloadedDir n' q :=
  offers_congr fun _ hpkg => h.frame _ hpkg hq

/-- What is offered under another name is no file that was changed. -/
theorem Changed.not_changed_of_offers (h : Changed env files files' n S) {n' : String}
    (hne : n' ≠ n) {q : Package F} (hq : Offers env files' env.downloadedDir n' q) :
    ¬ S q.path := by
  intro hS
  rcases offers_iff.mp hq with ⟨hdir, hclaims, -⟩
  refine hne (h.named q.path.fileName n' ?_ hclaims)
  rw [← hdir]
  exact hS

/-- Another name keeps what is served under it, if it can do without the files that
    were changed. -/
theorem serves_frame (h : Changed env files files' n S) (hspare : Spare env files n S)
    {n' : String} (hne : n' ≠ n) {o : Option (Package F)} (ho : Serves env files' n' o) :
    Serves env files n' o := by
  -- A file that has the name only before the change is one of those that changed.
  have hchanged : ∀ f, Claims env files env.downloadedDir n' f →
      (∀ f, ¬ Claims env files' env.downloadedDir n' f) → S ⟨env.downloadedDir, f⟩ := by
    intro f hf hnone
    by_contra hS
    exact hnone f ((h.claims hS).mpr hf)
  have hoffers : ∀ f, Claims env files env.downloadedDir n' f → S ⟨env.downloadedDir, f⟩ →
      (∀ q, ¬ Offers env files' env.downloadedDir n' q) →
      ∀ q, ¬ Offers env files env.downloadedDir n' q := by
    intro f hf hS hnone q hq
    exact hnone q ((h.offers ((hspare f n' hS hf hne).1 q hq)).mpr hq)
  cases ho with
  | downloaded q hq =>
      exact Serves.downloaded q ((h.offers (h.not_changed_of_offers hne hq)).mp hq)
  | overridden hclaims hnone =>
      rcases hclaims with ⟨f, hf⟩
      have hS : ¬ S ⟨env.downloadedDir, f⟩ := fun hS => hne (h.named f n' hS hf)
      refine Serves.overridden ⟨f, (h.claims hS).mp hf⟩ fun q hq => ?_
      by_cases hSq : S q.path
      · rcases offers_iff.mp hq with ⟨hdir, hclaims, -⟩
        have hpath : S ⟨env.downloadedDir, q.path.fileName⟩ := by
          rw [← hdir]
          exact hSq
        exact (hspare _ n' hpath hclaims hne).1 q hq hSq
      · exact hnone q ((h.offers hSq).mpr hq)
  | bundled q hfree hq =>
      have hbundled := h.bundled_offers.mp hq
      refine Serves.bundled q (fun f hf => ?_) hbundled
      have hS := hchanged f hf hfree
      rcases (hspare f n' hS hf hne).2 with ⟨f', hf', hS'⟩ | hnone
      · exact hfree f' ((h.claims hS').mpr hf')
      · exact hnone q hbundled
  | absent hfree hnone =>
      have hnone' : NothingBundled env files n' := fun q hq => hnone q (h.bundled_offers.mpr hq)
      by_cases hclaims : ∃ f, Claims env files env.downloadedDir n' f
      · rcases hclaims with ⟨f, hf⟩
        have hno : ∀ q, ¬ Offers env files' env.downloadedDir n' q :=
          fun q hq => (not_exists.mpr hfree) hq.claims
        exact Serves.overridden ⟨f, hf⟩ (hoffers f hf (hchanged f hf hfree) hno)
      · exact Serves.absent (not_exists.mp hclaims) hnone'

/-- An installed package is the only one its directory offers under its name. -/
theorem Installed.sole {m : ManagerState C F} {n : String} {p : Package F}
    (h : Installed env m n p) :
    Offers env m.files env.downloadedDir n p ∧
      ∀ q, Offers env m.files env.downloadedDir n q → q = p := by
  have hserves : ∀ o, Serves env m.files n o → o = some p := forall_reload_iff.mp h.found
  have hunique : ∀ q, Offers env m.files env.downloadedDir n q → q = p :=
    fun q hq => Option.some.inj (hserves _ (Serves.downloaded q hq))
  refine ⟨?_, hunique⟩
  rcases exists_serves env m.files n with ⟨o, ho⟩
  have hp := hserves o ho
  cases ho with
  | downloaded q hq => rwa [← Option.some.inj hp]
  | overridden => exact absurd hp.symm (Option.some_ne_none p)
  | bundled q hfree hq =>
      -- The package lies in the downloaded directory, so no bundled one is found.
      have hparent := (offers_iff.mp hq).1
      rw [Option.some.inj hp, h.downloaded] at hparent
      exact absurd hparent.symm env.distinct
  | absent => exact absurd hp.symm (Option.some_ne_none p)

/-- An installed package is in a package file that it can be made of. -/
theorem Installed.file {m : ManagerState C F} {n : String} {p : Package F}
    (h : Installed env m n p) : isPackageFileName env.packagesExt p.path.fileName = true ∧
      (∃ content, m.files.get p.path = some content ∧ env.fromFileVerified content = .ok p.file) ∧
      env.packageName p.file = n ∧ Makes env p.path p.file :=
  (offers_iff_get.mp h.sole.1).2

theorem Installed.mode {m : ManagerState C F} {n : String} {p : Package F}
    (h : Installed env m n p) : installMode env (some p) = .upgradeDownloaded p.path := by
  rw [installMode, if_neg]
  rw [isBundledPackage, decide_eq_true_iff, h.downloaded]
  exact env.distinct.symm

/-- What the steps after the copy could make, a reload can make. -/
theorem makes_of_finishes [LE V] {store : PackageStore F} {msg : InstallPackage C}
    {info : InstallInfo C F} {origPkg : Option (Package F)} {content : C}
    (hplan : Planned env store msg info origPkg content) {k : FileKernel C} {removeData : Bool}
    {mode : InstallMode} (h : Finishes k env info removeData mode) :
    Makes env info.dest info.packageFile := by
  rw [Makes, createPackage, hplan.volume, h.2.2.2]
  rfl

end Changed

end Manager

end Ssam
