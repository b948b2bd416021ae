import Ssam.Manager.Remove

/-!
# A Store that is what the Directories Serve

The invariant that makes the store agree with what a reload would make of the
directories, and how a change of some files keeps it.

## Main definitions

* `Agrees`: A reload would build the same map of packages.
* `Unambiguous`: The directories have one package under each name.
* `Consistent`: The invariant: what is served is what is stored.

## Theorems

* `consistent_reload`: A reload of unambiguous directories is consistent.
* `Consistent.change`: What a change of some files has to keep.
* `Consistent.bundled`, `Consistent.installed`: What a package in the store tells of
  the directories.
-/

namespace Ssam

namespace Manager

open Lib Function

section Consistent

variable {C F V : Type} (env : Env C F V)

/-- A package as the store is compared by: its version, and where its file is. -/
def view (p : Package F) : V × Path := (env.version p.file, p.path)

/-- The packages in the store are those a reload would find now. -/
def Agrees (m : ManagerState C F) : Prop :=
  ∀ bundled downloaded, Lists m.files env.bundledDir bundled →
    Lists m.files env.downloadedDir downloaded → ∀ n,
      ((reloadPackages env m.files bundled downloaded).get n).map (view env) =
        (m.store.get n).map (view env)

/-- Under each name the directories have one package to be found at most: one of
    the downloaded directory, or where that does not have the name, one of the
    bundled directory. -/
def Unambiguous (files : Files C) : Prop :=
  ∀ n, (∀ p q, Offers env files env.downloadedDir n p → Offers env files env.downloadedDir n q →
      p = q) ∧
    ((∀ f, ¬ Claims env files env.downloadedDir n f) →
      ∀ p q, Offers env files env.bundledDir n p → Offers env files env.bundledDir n q → p = q)

/-- The store is what the directories serve, its bundled paths are those of the
    bundled directory, and its broken packages are in one of the two. -/
structure Consistent (m : ManagerState C F) : Prop where
  agrees : ∀ n o, Serves env m.files n o → o = m.store.get n
  bundledPath : ∀ n path, m.store.getBundledPath n = some path →
    ∃ f, path = ⟨env.bundledDir, f⟩ ∧ Claims env m.files env.bundledDir n f
  noBundledPath : ∀ n, m.store.getBundledPath n = none →
    ∀ f, ¬ Claims env m.files env.bundledDir n f
  broken : ∀ n info, m.store.getBroken n = some info →
    info.packagePath.parent = env.bundledDir ∨ info.packagePath.parent = env.downloadedDir

variable {env}

/-- Where the package files are the same, so is what is served. -/
theorem serves_same {files files' : Files C}
    (h : ∀ path, isPackageFileName env.packagesExt path.fileName = true →
      files'.get path = files.get path) {n : String} {o : Option (Package F)}
    (ho : Serves env files' n o) : Serves env files n o := by
  have hclaims : ∀ dir f, Claims env files' dir n f ↔ Claims env files dir n f :=
    fun dir f => claims_congr fun hpkg => h _ hpkg
  have hoffers : ∀ dir q, Offers env files' dir n q ↔ Offers env files dir n q :=
    fun dir q => offers_congr fun _ hpkg => h _ hpkg
  cases ho with
  | downloaded q hq => exact Serves.downloaded q ((hoffers _ q).mp hq)
  | overridden hc hnone =>
      exact Serves.overridden (hc.imp fun f hf => (hclaims _ f).mp hf) fun q hq =>
        hnone q ((hoffers _ q).mpr hq)
  | bundled q hfree hq =>
      exact Serves.bundled q (fun f hf => hfree f ((hclaims _ f).mpr hf)) ((hoffers _ q).mp hq)
  | absent hfree hnone =>
      exact Serves.absent (fun f hf => hfree f ((hclaims _ f).mpr hf)) fun q hq =>
        hnone q ((hoffers _ q).mpr hq)

/-- A consistent state agrees with every reload. -/
theorem Consistent.reload_eq {m : ManagerState C F} (h : Consistent env m) : Agrees env m := by
  intro bundled downloaded hb hd n
  rw [h.agrees n _ (serves_reload hb hd n)]

/-- What is served under the name is what is stored. -/
theorem Consistent.serves {m : ManagerState C F} (h : Consistent env m) (n : String) :
    Serves env m.files n (m.store.get n) := by
  rcases exists_serves env m.files n with ⟨o, ho⟩
  rw [← h.agrees n o ho]
  exact ho

/-- A reload of unambiguous directories is consistent. -/
theorem consistent_reload {files : Files C} (h : Unambiguous env files)
    {bundled downloaded : DirEntries} (hb : Lists files env.bundledDir bundled)
    (hd : Lists files env.downloadedDir downloaded) :
    Consistent env ⟨reloadPackages env files bundled downloaded, files⟩ where
  agrees := by
    intro n o ho
    have hserves := serves_reload hb hd n
    revert hserves
    generalize (reloadPackages env files bundled downloaded).get n = found
    intro hfound
    show o = found
    -- No two files offer the name, so the order of the reload does not matter.
    rcases h n with ⟨hone, hbone⟩
    cases hfound with
    | downloaded p hp => exact serves_eq_some hp (fun q hq => hone q p hq hp) ho
    | overridden hc hnone => exact serves_eq_none hnone (Or.inl hc) ho
    | bundled p hfree hp =>
        exact serves_eq_bundled hfree hp (fun q hq => hbone hfree q p hq hp) ho
    | absent hfree hnone =>
        exact serves_eq_none (fun q hq => (not_exists.mpr hfree) hq.claims) (Or.inr hnone) ho
  bundledPath := by
    intro n path hpath
    rcases getBundledPath_reload hb n with ⟨f, hf, hclaims⟩ | ⟨hnone, -⟩
    · refine ⟨f, Option.some.inj (hpath.symm.trans hf), hclaims⟩
    · exact absurd (hpath.symm.trans hnone) (Option.some_ne_none path)
  noBundledPath := by
    intro n hpath
    rcases getBundledPath_reload hb n with ⟨f, hf, -⟩ | ⟨-, hfree⟩
    · exact absurd (hf.symm.trans hpath) (Option.some_ne_none _)
    · exact hfree
  broken := fun n info hinfo => getBroken_reload hinfo

section Cases

variable {m m' : ManagerState C F} {n : String} {S : Path → Prop}

/-- A change that keeps what other names are served, and after which the name it is
    about has in the store what is served, keeps the invariant. -/
theorem Consistent.change (h : Consistent env m) (hchanged : Changed env m.files m'.files n S)
    (hspare : Spare env m.files n S) (hstore : ∀ x, x ≠ n → m'.store.get x = m.store.get x)
    (hpath : ∀ x, m'.store.getBundledPath x = m.store.getBundledPath x)
    (hbroken : ∀ x info, m'.store.getBroken x = some info → m.store.getBroken x = some info)
    (hn : ∀ o, Serves env m'.files n o → o = m'.store.get n) : Consistent env m' where
  agrees := by
    intro x o ho
    by_cases hx : x = n
    · rw [hx] at ho ⊢
      exact hn o ho
    · rw [hstore x hx]
      exact h.agrees x o (serves_frame hchanged hspare hx ho)
  bundledPath := by
    intro x path hx
    rw [hpath] at hx
    exact (h.bundledPath x path hx).imp fun f hf => ⟨hf.1, hchanged.bundled_claims.mpr hf.2⟩
  noBundledPath := by
    intro x hx f hf
    rw [hpath] at hx
    exact h.noBundledPath x hx f (hchanged.bundled_claims.mp hf)
  broken := fun x info hx => h.broken x info (hbroken x info hx)

/-- Where no file is changed and the store keeps its packages, so does the
    invariant. -/
theorem Consistent.same (h : Consistent env m) (hfiles : HashMap.get m'.files = m.files.get)
    (hstore : ∀ x, m'.store.get x = m.store.get x)
    (hpath : ∀ x, m'.store.getBundledPath x = m.store.getBundledPath x)
    (hbroken : ∀ x info, m'.store.getBroken x = some info → m.store.getBroken x = some info) :
    Consistent env m' := by
  have hsame : ∀ path : Path, isPackageFileName env.packagesExt path.fileName = true →
      HashMap.get m'.files path = m.files.get path := fun path _ => by rw [hfiles]
  refine ⟨?_, ?_, ?_, ?_⟩
  · intro x o ho
    rw [hstore]
    exact h.agrees x o (serves_same hsame ho)
  · intro x path hx
    rw [hpath] at hx
    exact (h.bundledPath x path hx).imp fun f hf =>
      ⟨hf.1, (claims_congr fun hpkg => hsame _ hpkg).mpr hf.2⟩
  · intro x hx f hf
    rw [hpath] at hx
    exact h.noBundledPath x hx f ((claims_congr fun hpkg => hsame _ hpkg).mp hf)
  · exact fun x info hx => h.broken x info (hbroken x info hx)

/-- A name that is not in the store is not offered. -/
theorem Consistent.absent (h : Consistent env m) (hs : m.store.get n = none) :
    (∀ q, ¬ Offers env m.files env.downloadedDir n q) ∧
      ((∃ f, Claims env m.files env.downloadedDir n f) ∨ NothingBundled env m.files n) := by
  have hserves := h.serves n
  rw [hs] at hserves
  cases hserves with
  | overridden hc hnone => exact ⟨hnone, Or.inl hc⟩
  | absent hfree hnone => exact ⟨fun q hq => (not_exists.mpr hfree) hq.claims, Or.inr hnone⟩

/-- A bundled package in the store is not overridden, and alone of its name. -/
theorem Consistent.bundled (h : Consistent env m) {p : Package F} (hs : m.store.get n = some p)
    (hb : isBundledPackage env p.path = true) :
    (∀ f, ¬ Claims env m.files env.downloadedDir n f) ∧ Offers env m.files env.bundledDir n p ∧
      ∀ q, Offers env m.files env.bundledDir n q → q = p := by
  have hparent : p.path.parent = env.bundledDir := of_decide_eq_true hb
  have hserves := h.serves n
  rw [hs] at hserves
  cases hserves with
  | downloaded _ hp => exact absurd (hparent.symm.trans (offers_iff.mp hp).1) env.distinct
  | bundled _ hfree hp =>
      refine ⟨hfree, hp, fun q hq => ?_⟩
      exact Option.some.inj ((h.agrees n _ (Serves.bundled q hfree hq)).trans hs)

/-- A package in the store that is not bundled is installed. -/
theorem Consistent.installed (h : Consistent env m) {p : Package F}
    (hs : m.store.get n = some p) (hb : isBundledPackage env p.path = false) :
    Installed env m n p := by
  have hparent : p.path.parent ≠ env.bundledDir := of_decide_eq_false hb
  refine ⟨hs, ?_, fun bundled downloaded hlb hld => ?_⟩
  · have hserves := h.serves n
    rw [hs] at hserves
    cases hserves with
    | downloaded _ hp => exact (offers_iff.mp hp).1
    | bundled _ _ hp => exact absurd (offers_iff.mp hp).1 hparent
  · rw [h.agrees n _ (serves_reload hlb hld n), hs]

end Cases

end Consistent

end Manager

end Ssam
