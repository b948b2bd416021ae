import Ssam.Lib.Run
import Ssam.Manager.Remove

/-!
# Downloaded Packages over Bundled Ones

Whether a downloaded file keeps the bundled package of its name out of the store, and
whether that one comes back when the file is removed.

What a file belongs to and the name it is recorded under are not the same. A file that
cannot be parsed is recorded under its file name, also where it is the file an install
of the package has left. So it does not stand in the way of the bundled package, and
removing it does not bring that one back.

## Main definitions

* `Belongs`: The downloaded file is one of the package.
* `HasBundled`: The store has a bundled package under the name.
* `Deletes`: The removal deletes the file.
* `BringsBack`: A removal that deletes a file of the package brings the bundled one back.
* `Restorable`: It is removed by its name, or has not kept the bundled one out.

## Theorems

* `hasBundled_reload`: When a reload takes the bundled package.
* `gone_iff_deletes`: What a removal deletes, from the state before it.
* `restores_iff`: The removals that bring the bundled package back.
* `downloaded_overrides_iff`: The runs in which downloaded files override as they
  should.
-/

namespace Ssam

namespace Manager

open Lib Function

section Override

variable {C F V : Type} (env : Env C F V)

/-- The package file of the downloaded directory belongs to the package: it parses to
    its name, or it is named as installs of it are and does not parse. -/
def Belongs (files : Files C) (n fileName : String) : Prop :=
  isPackageFile env files ⟨env.downloadedDir, fileName⟩ = true ∧
    match (parsePackage env files ⟨env.downloadedDir, fileName⟩).packageFile with
    | .ok packageFile => env.packageName packageFile = n
    | .error _ => fileName = destFileName env.packagesExt n

/-- The store has a bundled package under the name. -/
def HasBundled (store : PackageStore F) (n : String) : Prop :=
  ∃ p, store.get n = some p ∧ isBundledPackage env p.path = true

/-- The removal of the package deletes the file. -/
def Deletes (o : Outcomes C) (m : ManagerState C F) (msg : RemovePackage) (path : Path) : Prop :=
  o.file.removeFile path = none ∧ isBundledPackage env path = false ∧
    ((∃ p, m.store.get msg.packageName = some p ∧ p.path = path ∧
        Released o msg.packageName msg.purgeVolume) ∨
      m.store.get msg.packageName = none ∧
        ∃ info, m.store.getBroken msg.packageName = some info ∧ info.packagePath = path)

/-- Where the removal deletes a downloaded file of the package, and a package can be
    made of a bundled file of the name, that one is in the store afterwards. -/
def BringsBack (n : String) (m : ManagerState C F) : Event C → Prop
  | .install _ _ => True
  | .remove msg o => ∀ f, Belongs env m.files n f →
      (handleRemovePackage env o m msg).1.files.get ⟨env.downloadedDir, f⟩ = none →
      ¬ NothingBundled env m.files n →
      HasBundled env (handleRemovePackage env o m msg).1.store n

/-- Where the removal deletes a downloaded file of the package, and a package can be
    made of a bundled file of the name: either the file is removed by that name and a
    package can be made of the bundled file that is known, or the file has another
    name and the bundled package is in the store already. -/
def Restorable (n : String) (m : ManagerState C F) : Event C → Prop
  | .install _ _ => True
  | .remove msg o => ∀ f, Belongs env m.files n f →
      Deletes env o m msg ⟨env.downloadedDir, f⟩ → ¬ NothingBundled env m.files n →
      if n = msg.packageName then
        ∃ bundledPath p, m.store.getBundledPath n = some bundledPath ∧
          made env m.files bundledPath = some p
      else HasBundled env m.store n

/-- The bundled paths are in the bundled directory. -/
def BundledPaths (store : PackageStore F) : Prop :=
  ∀ n path, store.getBundledPath n = some path → isBundledPackage env path = true

variable {env}

/-- A reload takes the bundled package where the downloaded directory does not have
    the name and the bundled one offers it. -/
theorem hasBundled_reload {files : Files C} {bundled downloaded : DirEntries}
    (hb : Lists files env.bundledDir bundled) (hd : Lists files env.downloadedDir downloaded)
    (n : String) : HasBundled env (reloadPackages env files bundled downloaded) n ↔
      (∀ f, ¬ Claims env files env.downloadedDir n f) ∧ ¬ NothingBundled env files n := by
  have hserves := serves_reload hb hd n
  rw [HasBundled]
  revert hserves
  generalize (reloadPackages env files bundled downloaded).get n = found
  intro hserves
  cases hserves with
  | downloaded p hp =>
      refine iff_of_false ?_ fun h => (not_exists.mpr h.1) hp.claims
      rintro ⟨q, hq, hbundled⟩
      rw [← Option.some.inj hq] at hbundled
      -- A downloaded file is not in the bundled directory.
      exact env.distinct ((of_decide_eq_true hbundled).symm.trans (offers_iff.mp hp).1)
  | overridden hc hnone =>
      refine iff_of_false ?_ fun h => (not_exists.mpr h.1) hc
      rintro ⟨q, hq, -⟩
      exact Option.some_ne_none q hq.symm
  | bundled p hfree hp =>
      exact iff_of_true ⟨p, rfl, decide_eq_true (offers_iff.mp hp).1⟩
        ⟨hfree, fun h => h p hp⟩
  | absent hfree hnone =>
      refine iff_of_false ?_ fun h => h.2 hnone
      rintro ⟨q, hq, -⟩
      exact Option.some_ne_none q hq.symm

/-- A file that parses to a name claims it. -/
theorem Belongs.claims {files : Files C} {n f : String} (h : Belongs env files n f) {g : F}
    (hg : (parsePackage env files ⟨env.downloadedDir, f⟩).packageFile = .ok g) :
    Claims env files env.downloadedDir n f := by
  refine ⟨h.1, ?_⟩
  have hname := h.2
  rw [hg] at hname
  rw [← hname]
  show parsedName env f (parseContent env (files.get ⟨env.downloadedDir, f⟩)) = _
  rw [show parseContent env (files.get ⟨env.downloadedDir, f⟩) = .ok g from hg]
  rfl

theorem Belongs.get_ne_none {files : Files C} {n f : String} (h : Belongs env files n f) :
    files.get ⟨env.downloadedDir, f⟩ ≠ none :=
  Option.isSome_iff_ne_none.mp (Bool.and_eq_true_iff.mp h.1).1

/-- What a removal that deletes a file leaves: the file is gone, and the bundled
    package of the name is restored over a store without what was removed. -/
theorem removePackage_of_deletes {o : Outcomes C} {m : ManagerState C F} {msg : RemovePackage}
    {path : Path} (h : Deletes env o m msg path) :
    ∃ files store, (removePackage env o m msg.packageName msg.purgeVolume).1 =
        ⟨restoreBundled env files store msg.packageName, files⟩ ∧
      HashMap.get files = update m.files.get path none ∧
      (∀ x, store.getBundledPath x = m.store.getBundledPath x) ∧
      ∀ x, store.get x = if x = msg.packageName then none else m.store.get x := by
  rcases h with ⟨hfault, hbundled, hcase⟩
  rcases removedFile env o.file m.files path with ⟨b, hb, hfiles, -⟩ | ⟨e, -, -, hfault', -⟩
  · rcases hcase with ⟨p, hstored, hpath, hteardown, hpurge⟩ | ⟨hstored, info, hbroken, hpath⟩
    · refine ⟨_, m.store.remove msg.packageName, ?_, hfiles, fun _ => rfl, fun x =>
        PackageStore.get_remove _ _ _⟩
      -- The volume is purged only if that was asked for.
      have hreleased : (if msg.purgeVolume = true then o.file.purgeVolume msg.packageName
          else .ok ()) = .ok () := by
        split
        · next hp => exact hpurge hp
        · rfl
      unfold removePackage
      rw [hstored]
      dsimp only
      rw [hpath, hbundled, if_neg Bool.false_ne_true, hteardown]
      simp only [context, hreleased, hb]
    · refine ⟨_, m.store.removeBroken msg.packageName, ?_, hfiles, fun _ => rfl, fun x => ?_⟩
      · unfold removePackage
        rw [hstored, hbroken]
        dsimp only
        rw [hpath, hbundled, if_neg Bool.false_ne_true]
        simp only [hb]
      · rw [PackageStore.get_removeBroken]
        by_cases hx : x = msg.packageName
        · rw [if_pos hx, hx, hstored]
        · rw [if_neg hx]
  · exact absurd hfault hfault'

/-- A file that is there is gone after the removal exactly where it is the one
    deleted. -/
theorem gone_iff_deletes {o : Outcomes C} {m : ManagerState C F} {msg : RemovePackage}
    {path : Path} (hpath : m.files.get path ≠ none) :
    (removePackage env o m msg.packageName msg.purgeVolume).1.files.get path = none ↔
      Deletes env o m msg path := by
  constructor
  swap
  · intro h
    rcases removePackage_of_deletes h with ⟨files, store, hresult, hfiles, -, -⟩
    rw [hresult]
    show HashMap.get files path = none
    rw [hfiles, update_self]
  -- A removal of another file, or one that fails, leaves the path alone.
  have hfile : ∀ q, (removePackageFile env o.file m.files q).1.get path = none →
      q = path ∧ o.file.removeFile path = none := by
    intro q hq
    rcases removedFile env o.file m.files q with ⟨b, -, hfiles, hgone⟩ | ⟨e, -, hfiles, -, -⟩
    · rw [hfiles, update_apply] at hq
      split at hq
      · next heq =>
          rw [← heq] at hgone
          exact ⟨heq.symm, hgone.resolve_right hpath⟩
      · exact absurd hq hpath
    · rw [hfiles] at hq
      exact absurd hq hpath
  unfold removePackage
  cases hstored : m.store.get msg.packageName with
  | some p =>
      dsimp only
      split
      · exact fun h => absurd h hpath
      · next hbundled =>
          rw [Bool.not_eq_true] at hbundled
          split
          · exact fun h => absurd h hpath
          · next hteardown =>
              have hdown := context_eq_ok.mp (context_eq_ok.mp hteardown)
              split
              · exact fun h => absurd h hpath
              · next hpurge =>
                  intro h
                  have hgone : (removePackageFile env o.file m.files p.path).1.get path = none := by
                    revert h
                    split <;> exact fun h => h
                  rcases hfile _ hgone with ⟨hp, hfault⟩
                  rw [hp] at hbundled
                  refine ⟨hfault, hbundled, Or.inl ⟨p, hstored, hp, hdown, fun h => ?_⟩⟩
                  rw [if_pos h] at hpurge
                  exact hpurge
  | none =>
      dsimp only
      cases hbroken : m.store.getBroken msg.packageName with
      | none => exact fun h => absurd h hpath
      | some info =>
          dsimp only
          split
          · exact fun h => absurd h hpath
          · next hbundled =>
              rw [Bool.not_eq_true] at hbundled
              intro h
              have hgone : (removePackageFile env o.file m.files info.packagePath).1.get path =
                  none := by
                revert h
                split <;> exact fun h => h
              rcases hfile _ hgone with ⟨hp, hfault⟩
              rw [hp] at hbundled
              exact ⟨hfault, hbundled, Or.inr ⟨hstored, info, hbroken, hp⟩⟩

/-- What is bundled after the file has been deleted. -/
theorem hasBundled_of_deletes {o : Outcomes C} {m : ManagerState C F} {msg : RemovePackage}
    (hpaths : BundledPaths env m.store) {path : Path} (h : Deletes env o m msg path) (n : String) :
    HasBundled env (removePackage env o m msg.packageName msg.purgeVolume).1.store n ↔
      if n = msg.packageName then
        ∃ bundledPath p, m.store.getBundledPath n = some bundledPath ∧
          made env m.files bundledPath = some p
      else HasBundled env m.store n := by
  rcases removePackage_of_deletes h with ⟨files, store, hresult, hfiles, hbundled, hstore⟩
  rw [HasBundled, hresult]
  dsimp only
  rw [get_restoreBundled, hbundled]
  by_cases hn : n = msg.packageName
  · rw [if_pos hn, ← hn]
    cases hpath : m.store.getBundledPath n with
    | none =>
        dsimp only
        rw [hstore, if_pos hn]
        refine iff_of_false ?_ ?_
        · rintro ⟨p, hp, -⟩
          exact Option.some_ne_none p hp.symm
        · rintro ⟨bundledPath, p, hp, -⟩
          exact Option.some_ne_none bundledPath hp.symm
    | some bundledPath =>
        dsimp only
        -- The bundled file is another one than that which was deleted.
        have hne : bundledPath ≠ path := by
          intro heq
          have htrue := hpaths n bundledPath hpath
          rw [heq, h.2.1] at htrue
          exact Bool.false_ne_true htrue
        have hmade : made env files bundledPath = made env m.files bundledPath := by
          apply made_congr
          rw [hfiles, update_of_ne hne]
        rw [if_pos rfl, hmade]
        constructor
        · rintro ⟨p, hp, -⟩
          exact ⟨bundledPath, p, rfl, hp⟩
        · rintro ⟨path', p, hpath', hp⟩
          rw [← Option.some.inj hpath'] at hp
          refine ⟨p, hp, ?_⟩
          have hat : p.path = bundledPath := createParsed_path (made_eq_some.mp hp)
          rw [hat]
          exact hpaths n bundledPath hpath
  · rw [if_neg hn, HasBundled]
    have hget : store.get n = m.store.get n := by rw [hstore, if_neg hn]
    cases m.store.getBundledPath msg.packageName with
    | none =>
        dsimp only
        rw [hget]
    | some bundledPath =>
        dsimp only
        rw [if_neg hn, hget]

/-- A removal brings the bundled package back exactly where it can. -/
theorem restores_iff {m : ManagerState C F} (hpaths : BundledPaths env m.store) (n : String)
    (e : Event C) : BringsBack env n m e ↔ Restorable env n m e := by
  cases e with
  | install msg o => exact Iff.rfl
  | remove msg o =>
      refine forall_congr' fun f => imp_congr_right fun hbelongs => ?_
      have hgone : (removePackage env o m msg.packageName msg.purgeVolume).1.files.get
          ⟨env.downloadedDir, f⟩ = none ↔ Deletes env o m msg ⟨env.downloadedDir, f⟩ :=
        gone_iff_deletes hbelongs.get_ne_none
      constructor
      · intro h hdeletes hbundled
        exact (hasBundled_of_deletes hpaths hdeletes n).mp (h (hgone.mpr hdeletes) hbundled)
      · intro h hnone hbundled
        have hdeletes := hgone.mp hnone
        exact (hasBundled_of_deletes hpaths hdeletes n).mpr (h hdeletes hbundled)

theorem bundledPaths_reload {files : Files C} {bundled downloaded : DirEntries}
    (hb : Lists files env.bundledDir bundled) :
    BundledPaths env (reloadPackages env files bundled downloaded) := by
  intro n path hpath
  rcases getBundledPath_reload hb n with ⟨f, hf, -⟩ | ⟨hnone, -⟩
  · rw [Option.some.inj (hpath.symm.trans hf)]
    exact decide_eq_true rfl
  · exact absurd (hpath.symm.trans hnone) (Option.some_ne_none path)

/-- No message changes what is known of the bundled paths. -/
theorem getBundledPath_step [LE V] [DecidableLE V] [ToString V] {m m' : ManagerState C F}
    {e : Event C} (hstep : step env m e = some m') (n : String) :
    m'.store.getBundledPath n = m.store.getBundledPath n := by
  -- Loading a bundled package again writes no bundled path.
  have hrestore : ∀ (files : Files C) (store : PackageStore F) name,
      (restoreBundled env files store name).getBundledPath n = store.getBundledPath n := by
    intro files store name
    rw [restoreBundled]
    split
    · exact getBundledPath_tryRecover files store name n _
    · rfl
  cases e with
  | install msg o =>
      rw [← Option.some.inj hstep]
      have hhandled := handled env o m msg
      revert hhandled
      generalize handleInstallPackage env o m msg = result
      intro hhandled
      cases hhandled with
      | refused _ store _ hstore =>
          rcases hstore with rfl | ⟨name, rfl⟩
          · rfl
          · rfl
      | installed => rfl
      | failed info origPkg content files _ _ _ _ =>
          cases origPkg with
          | none => rfl
          | some existing => exact getBundledPath_tryRecover files _ _ n _
  | remove msg o =>
      rw [← Option.some.inj hstep]
      have hremoved := removed env o m msg.packageName msg.purgeVolume
      show (removePackage env o m msg.packageName msg.purgeVolume).1.store.getBundledPath n = _
      revert hremoved
      generalize (removePackage env o m msg.packageName msg.purgeVolume).1 = left
      intro hremoved
      cases hremoved with
      | unchanged => rfl
      | purgeFailed => exact getBundledPath_tryRecover _ _ _ n _
      | fileStays => rfl
      | fileGone => exact hrestore _ _ _
      | brokenStays => rfl
      | brokenGone => exact hrestore _ _ _

end Override

/-- In a run from a reload on, a downloaded file of the package keeps the bundled one
    out of the store and its removal brings that one back, exactly when the reload has
    a downloaded file of that name in its reckoning, or no bundled one, and the
    removals are of the kind that restores. -/
theorem downloaded_overrides_iff {C F V : Type} [LE V] [DecidableLE V] [ToString V]
    {env : Env C F V} (files : Files C) (bundled downloaded : DirEntries) (es : List (Event C))
    (n : String) (hb : Lists files env.bundledDir bundled)
    (hd : Lists files env.downloadedDir downloaded) :
    ((∃ f, Belongs env files n f) →
          ¬ HasBundled env (reloadPackages env files bundled downloaded) n) ∧
        Along (step env) (BringsBack env n)
          ⟨reloadPackages env files bundled downloaded, files⟩ es ↔
      ((∃ f, Belongs env files n f) →
          (∃ f, Claims env files env.downloadedDir n f) ∨ NothingBundled env files n) ∧
        Along (step env) (Restorable env n)
          ⟨reloadPackages env files bundled downloaded, files⟩ es := by
  refine and_congr (imp_congr_right fun _ => ?_) ?_
  · rw [hasBundled_reload hb hd, not_and_or, not_not, not_forall_not]
  · refine along_congr (fun m e m' h hstep x path hpath => ?_) (fun m e h => restores_iff h n e)
      (bundledPaths_reload hb)
    rw [getBundledPath_step hstep] at hpath
    exact h x path hpath

/-- An environment in which a file of version 0 is none that can be parsed. -/
def pickyEnv : Env (String × Nat) (String × Nat) Nat :=
  { plainEnv fun _ => .ok () with
    fromFileVerified := fun content =>
      if content.2 = 0 then .error ["Invalid package footer"] else .ok content }

/-- One package file in each of the two directories. -/
def bothFiles (bundled downloaded : String × Nat) : Files (String × Nat) :=
  AList.insert ⟨"/b", "a.ssam"⟩ bundled (AList.insert ⟨"/d", "a.ssam"⟩ downloaded ∅)

theorem lists_bothFiles (bundled downloaded : String × Nat) (dir : String)
    (h : dir = "/b" ∨ dir = "/d") :
    Lists (bothFiles bundled downloaded) dir (some (["a.ssam"].map .ok)) := by
  apply lists_of_perm
  rcases h with rfl | rfl
  · exact List.Perm.refl _
  · exact List.Perm.refl _

theorem downloaded_overrides_removal :
    Along (step pickyEnv) (BringsBack pickyEnv "a")
      ⟨reloadPackages pickyEnv (bothFiles ("a", 1) ("a", 2)) (some [.ok "a.ssam"])
        (some [.ok "a.ssam"]), bothFiles ("a", 1) ("a", 2)⟩
      [.remove ⟨"a", false⟩ (.fine ("", 0))] := by
  have hclaims : Claims pickyEnv (bothFiles ("a", 1) ("a", 2)) "/d" "a" "a.ssam" :=
    ⟨by decide +kernel, by decide +kernel⟩
  refine ((downloaded_overrides_iff (bothFiles ("a", 1) ("a", 2)) (some [.ok "a.ssam"])
    (some [.ok "a.ssam"]) [.remove ⟨"a", false⟩ (.fine ("", 0))] "a"
    (lists_bothFiles _ _ "/b" (Or.inl rfl)) (lists_bothFiles _ _ "/d" (Or.inr rfl))).mpr
    ⟨fun _ => Or.inl ⟨"a.ssam", hclaims⟩, ?_⟩).2
  refine along_cons rfl ?_ trivial
  intro f _ _ _
  rw [if_pos rfl]
  exact ⟨⟨"/b", "a.ssam"⟩, ⟨("a", 1), ⟨"/b", "a.ssam"⟩⟩, by decide +kernel, rfl⟩

/-- A downloaded file of a package that does not parse does not keep the bundled
    package out. -/
theorem bundled_over_broken :
    ¬ ∀ (files : Files (String × Nat)) (bundled downloaded : DirEntries) (n : String),
      Lists files "/b" bundled → Lists files "/d" downloaded →
      (∃ f, Belongs pickyEnv files n f) →
        ¬ HasBundled pickyEnv (reloadPackages pickyEnv files bundled downloaded) n := by
  intro h
  refine h (bothFiles ("a", 1) ("a", 0)) _ _ "a" (lists_bothFiles _ _ "/b" (Or.inl rfl))
    (lists_bothFiles _ _ "/d" (Or.inr rfl)) ⟨"a.ssam", ?_, ?_⟩ ?_
  · decide +kernel
  · rfl
  · exact ⟨⟨("a", 1), ⟨"/b", "a.ssam"⟩⟩, by rfl, by decide +kernel⟩

end Manager

end Ssam
