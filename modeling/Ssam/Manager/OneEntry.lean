import Ssam.Lib.Run
import Ssam.Manager.Reload
import Ssam.Manager.Remove

/-!
# One Entry for a Name

Whether a name is found among the packages and among the broken packages at once, over
runs in which each message may meet its own failures to parse files and to make
packages.

A removal works on one of the two maps and leaves the other without the name. A
reload fills both from the files, so it depends on what files share a name. An install
clears the broken entry of the file name it installs under, and such an entry is
there for a file that was not parsed. A broken package that was parsed is there
under its own name, where the install leaves it.

## Main definitions

* `Making`, `Env.making`: How files become packages while one message is handled.
* `StoreEvent`, `storeStep`: A reload among the messages.
* `getPackageStatuses`: The packages and the broken packages with their status.
* `Disjoint`: No name is in both maps.
* `OneEntry`: The maps are disjoint, and no name is listed twice.
* `KeepsOneEntry`: The steps that keep it so.

## Theorems

* `disjoint_reload`, `disjoint_install`, `disjoint_remove`: One rule for each message.
* `one_entry_iff`: The runs in which every name has one entry.
-/

namespace Ssam

namespace Manager

open Lib

/-- What becomes of files while one message is handled. -/
structure Making (C F : Type) where
  fromFileVerified : C → Except Error F
  volumeMetadata : Path → F → Except Error PackageVolumeMetadata
  buildPackage : Path → F → Except Error Unit

/-- A reload, or a message with how it is answered. -/
inductive StoreEvent (C F : Type) where
  | reload (making : Making C F) (bundled downloaded : DirEntries)
  | install (making : Making C F) (msg : InstallPackage C) (o : Outcomes C)
  | remove (making : Making C F) (msg : RemovePackage) (o : Outcomes C)

section OneEntry

variable {C F V : Type}

/-- The environment, with its own way to make packages of files. -/
def Env.making (env : Env C F V) (making : Making C F) : Env C F V where
  packagesExt := env.packagesExt
  bundledDir := env.bundledDir
  downloadedDir := env.downloadedDir
  distinct := env.distinct
  nonempty := env.nonempty
  fromFileVerified := making.fromFileVerified
  packageName := env.packageName
  version := env.version
  volumeMetadata := making.volumeMetadata
  buildPackage := making.buildPackage

/-- Handle a message, or build the store anew. -/
def storeStep [LE V] [DecidableLE V] [ToString V] (env : Env C F V) (m : ManagerState C F) :
    StoreEvent C F → Option (ManagerState C F)
  | .reload making bundled downloaded =>
      some ⟨reloadPackages (env.making making) m.files bundled downloaded, m.files⟩
  | .install making msg o => some (handleInstallPackage (env.making making) o m msg).1
  | .remove making msg o => some (handleRemovePackage (env.making making) o m msg).1

/-- The status of each package, and of each broken one why it is broken. -/
def getPackageStatuses {S : Type} (getStatus : Package F → Except Error S) (broken : Error → S)
    (store : PackageStore F) : Except Error (List (String × S)) := do
  let statuses ← store.packages.entries.mapM fun entry => do
    let packageName := entry.1
    let status ← context s!"Failed to get status of package {packageName}" (getStatus entry.2)
    Except.ok (packageName, status)
  .ok (statuses ++ store.brokenPackages.entries.map fun entry =>
    (entry.1, broken entry.2.brokenInfo))

/-- No name is found among the packages and among the broken ones. -/
def Disjoint (store : PackageStore F) : Prop :=
  ∀ n, store.get n = none ∨ store.getBroken n = none

/-- The two maps have no name in common, and so no name is listed twice. -/
structure OneEntry (store : PackageStore F) : Prop where
  disjoint : Disjoint store
  listed : ∀ {S : Type} (getStatus : Package F → Except Error S) (broken : Error → S) statuses,
    getPackageStatuses getStatus broken store = .ok statuses → (statuses.map Prod.fst).Nodup

/-- A run of `mapM` that succeeds has a result for each element. -/
theorem map_of_mapM_eq_ok {α β γ : Type} {f : α → Except Error β} {key : α → γ} {key' : β → γ}
    (hf : ∀ a b, f a = .ok b → key' b = key a) {l : List α} {bs : List β}
    (h : l.mapM f = .ok bs) : bs.map key' = l.map key := by
  induction l generalizing bs with
  | nil =>
      rw [List.mapM_nil] at h
      rw [← Except.ok.inj h]
      rfl
  | cons a l ih =>
      rw [List.mapM_cons] at h
      rcases except_bind_eq_ok.mp h with ⟨b, hb, h⟩
      rcases except_bind_eq_ok.mp h with ⟨bs', hbs, h⟩
      rw [← Except.ok.inj h, List.map_cons, List.map_cons, hf a b hb, ih hbs]

/-- The names that are listed are those of the two maps. -/
theorem names_getPackageStatuses {S : Type} {getStatus : Package F → Except Error S}
    {broken : Error → S} {store : PackageStore F} {statuses : List (String × S)}
    (h : getPackageStatuses getStatus broken store = .ok statuses) :
    statuses.map Prod.fst = store.packages.keys ++ store.brokenPackages.keys := by
  rw [getPackageStatuses] at h
  rcases except_bind_eq_ok.mp h with ⟨live, hlive, h⟩
  have hnames : live.map Prod.fst = store.packages.entries.map Sigma.fst := by
    refine map_of_mapM_eq_ok (fun entry status hs => ?_) hlive
    rcases except_bind_eq_ok.mp hs with ⟨s, -, hs⟩
    rw [← Except.ok.inj hs]
  rw [← Except.ok.inj h, List.map_append, hnames, List.map_map]
  rfl

/-- Where the maps are disjoint no name is listed twice. -/
theorem oneEntry_iff {store : PackageStore F} : OneEntry store ↔ Disjoint store := by
  refine ⟨OneEntry.disjoint, fun h => ⟨h, fun getStatus broken statuses hs => ?_⟩⟩
  rw [names_getPackageStatuses hs, List.nodup_append]
  refine ⟨store.packages.keys_nodup, store.brokenPackages.keys_nodup, fun a ha b hb hab => ?_⟩
  rw [← AList.mem_keys, ← AList.lookup_isSome] at ha hb
  rcases h a with hnone | hnone
  · rw [show store.packages.lookup a = none from hnone] at ha
    exact absurd ha Bool.false_ne_true
  · rw [← hab, show store.brokenPackages.lookup a = none from hnone] at hb
    exact absurd hb Bool.false_ne_true

section Steps

variable {env : Env C F V}

/-- A name that is in the first map and not in the second. -/
theorem Disjoint.getBroken {store : PackageStore F} (h : Disjoint store) {n : String}
    {p : Package F} (hn : store.get n = some p) : store.getBroken n = none :=
  (h n).resolve_left fun hnone => Option.some_ne_none p (hn.symm.trans hnone)

/-- What has no more entries than a store that is disjoint, but for one name. -/
theorem Disjoint.change {store store' : PackageStore F} (h : Disjoint store) {n : String}
    (hget : ∀ x, x ≠ n → store.get x = none → store'.get x = none)
    (hbroken : ∀ x, x ≠ n → store.getBroken x = none → store'.getBroken x = none)
    (hn : store'.get n = none ∨ store'.getBroken n = none) : Disjoint store' := by
  intro x
  by_cases hx : x = n
  · rw [hx]
    exact hn
  · exact (h x).imp (hget x hx) (hbroken x hx)

theorem Disjoint.removeBroken {store : PackageStore F} (h : Disjoint store) (name : String) :
    Disjoint (store.removeBroken name) := by
  intro x
  rw [PackageStore.get_removeBroken, PackageStore.getBroken_removeBroken]
  refine (h x).imp_right fun hx => ?_
  rw [hx, ite_self]

/-- An attempt to recover adds nothing but under its name, where nothing is broken. -/
theorem Disjoint.tryRecover {store : PackageStore F} (h : Disjoint store) {n : String}
    (hn : store.getBroken n = none) (files : Files C) (path : Path) :
    Disjoint (tryRecover env files store n path) := by
  refine h.change (n := n) (fun x hx hget => ?_) (fun x _ hget => ?_) (Or.inr ?_)
  · rw [get_tryRecover, if_neg hx, hget]
  · rw [getBroken_tryRecover, hget]
  · rw [getBroken_tryRecover, hn]

theorem Disjoint.restoreBundled {store : PackageStore F} (h : Disjoint store) {n : String}
    (hn : store.getBroken n = none) (files : Files C) :
    Disjoint (restoreBundled env files store n) := by
  rw [Manager.restoreBundled]
  split
  · exact h.tryRecover hn files _
  · exact h

/-- Two of the files a reload loads have one name, and a package can be made of just
    one of them. -/
def HalfLoaded (env : Env C F V) (files : Files C) (bundled downloaded : DirEntries) : Prop :=
  ∃ x ∈ loaded env files bundled downloaded, ∃ y ∈ loaded env files bundled downloaded,
    x.packageName = y.packageName ∧ (asPackage env x).isSome = true ∧
      ¬ (asPackage env y).isSome = true

theorem disjoint_reload {files : Files C} {bundled downloaded : DirEntries} :
    Disjoint (reloadPackages env files bundled downloaded) ↔
      ¬ HalfLoaded env files bundled downloaded := by
  constructor
  · rintro h ⟨x, hx, y, hy, hname, hmade, hfailed⟩
    rcases h x.packageName with hnone | hnone
    · exact (get_reload_ne_none bundled downloaded).mpr ⟨x, hx, rfl, hmade⟩ hnone
    · exact (getBroken_reload_ne_none bundled downloaded).mpr
        ⟨y, hy, hname.symm, hfailed⟩ hnone
  · intro h n
    by_contra hboth
    rw [not_or] at hboth
    rcases (get_reload_ne_none bundled downloaded).mp hboth.1 with ⟨x, hx, hxn, hmade⟩
    rcases (getBroken_reload_ne_none bundled downloaded).mp hboth.2 with ⟨y, hy, hyn, hfailed⟩
    exact h ⟨x, hx, y, hy, hxn.trans hyn.symm, hmade, hfailed⟩

/-- A removal leaves the maps disjoint. -/
theorem disjoint_remove (o : Outcomes C) {m : ManagerState C F} (h : Disjoint m.store)
    (n : String) (purge : Bool) : Disjoint (removePackage env o m n purge).1.store := by
  -- The entry that is removed leaves neither kind under the name.
  have hremoved : ∀ {p}, m.store.get n = some p →
      Disjoint (m.store.remove n) ∧ (m.store.remove n).getBroken n = none := by
    intro p hp
    refine ⟨h.change (n := n) (fun x hx hget => ?_) (fun x _ hget => hget) (Or.inl ?_),
      h.getBroken hp⟩
    · rw [PackageStore.get_remove, if_neg hx, hget]
    · rw [PackageStore.get_remove, if_pos rfl]
  have hcleared : (m.store.removeBroken n).getBroken n = none := by
    rw [PackageStore.getBroken_removeBroken, if_pos rfl]
  have hremove := removed env o m n purge
  revert hremove
  generalize (removePackage env o m n purge).1 = m'
  intro hremove
  cases hremove with
  | unchanged => exact h
  | purgeFailed p hstored _ => exact (hremoved hstored).1.tryRecover (hremoved hstored).2 _ _
  | fileStays p files hstored _ _ _ _ => exact (hremoved hstored).1
  | fileGone p files hstored _ _ _ =>
      exact (hremoved hstored).1.restoreBundled (hremoved hstored).2 files
  | brokenStays info files _ _ _ => exact h.removeBroken n
  | brokenGone info files _ _ _ _ _ => exact (h.removeBroken n).restoreBundled hcleared files

/-- An install over nothing, of a package that is among the broken ones. -/
def InstallsBroken [LE V] [DecidableLE V] [ToString V] (env : Env C F V) (o : Outcomes C)
    (m : ManagerState C F) (msg : InstallPackage C) : Prop :=
  ∃ info content, Attempt env o m msg info none content ∧
    m.store.getBroken info.packageName ≠ none ∧
      o.file.copies m.files.get info.dest.parent = true ∧ Finishes o.file env info false .fresh

/-- A package is not installed under its bare name. -/
theorem destFileName_ne (packagesExt name : String) : destFileName packagesExt name ≠ name := by
  intro h
  have hlen := congrArg String.length h
  rw [destFileName, String.length_append, String.length_append] at hlen
  have : String.length "." = 1 := rfl
  omega

/-- An install leaves the maps disjoint, unless it makes a package that is among the
    broken ones. -/
theorem disjoint_install [LE V] [DecidableLE V] [ToString V] (o : Outcomes C)
    {m : ManagerState C F} (h : Disjoint m.store) (msg : InstallPackage C) :
    Disjoint (handleInstallPackage env o m msg).1.store ↔ ¬ InstallsBroken env o m msg := by
  have hhandled := handled env o m msg
  revert hhandled
  generalize handleInstallPackage env o m msg = result
  intro hhandled
  cases hhandled with
  | refused e store hno hstore =>
      refine iff_of_true ?_ fun ⟨info, content, hattempt, _⟩ => hno ⟨info, none, content, hattempt⟩
      rcases hstore with rfl | ⟨name, rfl⟩
      · exact h
      · exact h.removeBroken name
  | failed info origPkg content files e e' hattempt hexit =>
      refine iff_of_true ?_ ?_
      · cases origPkg with
        | none => exact h.removeBroken _
        | some existing =>
            refine (h.removeBroken _).tryRecover ?_ files _
            rw [PackageStore.getBroken_removeBroken,
              h.getBroken hattempt.planned.orig.symm, ite_self]
      · rintro ⟨info', content', hattempt', -, hcopies, hfinish⟩
        rcases hattempt.unique hattempt' with ⟨rfl, rfl, rfl⟩
        revert hexit
        generalize HashMap.get files = at_
        intro hexit
        cases hexit with
        | backupFailed _ hbackup => exact hbackup
        | copyFailed _ _ hcopy => exact Bool.false_ne_true (hcopy.symm.trans hcopies)
        | finishFailed _ _ _ hfails => exact hfails hfinish
  | installed info origPkg content files built hattempt hexit =>
      revert hexit
      generalize HashMap.get files = at_
      intro hexit
      cases hexit with
      | installed hbackup hcopy hfinish =>
      have hname : env.packageName info.packageFile = info.packageName :=
        hattempt.planned.name.symm
      dsimp only
      rw [hname]
      -- The entry that is cleared is that of the file, not the one of the package.
      have hbroken : ((m.store.removeBroken info.dest.fileName).insert info.packageName
          ⟨info.packageFile, info.dest⟩).getBroken info.packageName =
            m.store.getBroken info.packageName := by
        rw [PackageStore.getBroken_insert, PackageStore.getBroken_removeBroken, if_neg]
        rw [hattempt.planned.dest]
        exact (destFileName_ne _ _).symm
      have hkeeps : m.store.getBroken info.packageName = none → Disjoint
          ((m.store.removeBroken info.dest.fileName).insert info.packageName
            ⟨info.packageFile, info.dest⟩) := by
        intro hnone
        refine (h.removeBroken info.dest.fileName).change (n := info.packageName)
          (fun x hx hget => ?_) (fun x _ hget => hget) (Or.inr (hbroken.trans hnone))
        rw [PackageStore.get_insert, if_neg hx, hget]
      constructor
      · rintro hdisjoint ⟨info', content', hattempt', hin, -⟩
        rcases hattempt.unique hattempt' with ⟨rfl, rfl, rfl⟩
        rcases hdisjoint info.packageName with hget | hget
        · rw [PackageStore.get_insert, if_pos rfl] at hget
          exact Option.some_ne_none _ hget
        · exact hin (hbroken.symm.trans hget)
      · intro hno
        apply hkeeps
        cases horig : origPkg with
        | some existing =>
            exact h.getBroken (hattempt.planned.orig.symm.trans horig)
        | none =>
            subst horig
            by_contra hin
            exact hno ⟨info, content, hattempt, hin, hcopy, hfinish⟩

end Steps

/-- The step brings no name into both maps: a reload loads no two files of one name of
    which just one makes a package, and no package that is among the broken ones is
    installed over nothing. -/
def KeepsOneEntry [LE V] [DecidableLE V] [ToString V] (env : Env C F V) (m : ManagerState C F) :
    StoreEvent C F → Prop
  | .reload making bundled downloaded =>
      ¬ HalfLoaded (env.making making) m.files bundled downloaded
  | .install making msg o => ¬ InstallsBroken (env.making making) o m msg
  | .remove _ _ _ => True

theorem disjoint_step [LE V] [DecidableLE V] [ToString V] {env : Env C F V}
    {m m' : ManagerState C F} (h : Disjoint m.store) {e : StoreEvent C F}
    (hstep : storeStep env m e = some m') : Disjoint m'.store ↔ KeepsOneEntry env m e := by
  cases e with
  | reload making bundled downloaded =>
      rw [← Option.some.inj hstep]
      exact disjoint_reload
  | install making msg o =>
      rw [← Option.some.inj hstep]
      exact disjoint_install o h msg
  | remove making msg o =>
      rw [← Option.some.inj hstep]
      exact iff_of_true (disjoint_remove o h msg.packageName msg.purgeVolume) trivial

/-- From an empty store on, every name has one entry in every state of a run exactly
    when no step of it brings a name into both maps. -/
theorem one_entry_iff [LE V] [DecidableLE V] [ToString V] (env : Env C F V) (files : Files C)
    (es : List (StoreEvent C F)) :
    Always (storeStep env) (fun m => OneEntry m.store) ⟨.empty, files⟩ es ↔
      Along (storeStep env) (KeepsOneEntry env) ⟨.empty, files⟩ es := by
  refine always_iff_along (fun m e m' h hstep => ?_) (oneEntry_iff.mpr fun _ => Or.inl rfl)
  rw [oneEntry_iff] at h ⊢
  exact disjoint_step h hstep

/-- Every file is a package that can be made where `build` says so. -/
def plainMaking (build : String × Nat → Except Error Unit) :
    Making (String × Nat) (String × Nat) where
  fromFileVerified := .ok
  volumeMetadata _ packageFile :=
    .ok ⟨packageFile.1, joinPath "/data" packageFile.1, none, none⟩
  buildPackage _ := build

/-- A package that could not be made when the daemon started stays among the broken
    ones when it is installed once more. -/
theorem one_name_two_entries :
    ¬ ∀ (files : Files (String × Nat)) (es : List (StoreEvent (String × Nat) (String × Nat))),
      Always (storeStep (plainEnv fun _ => .ok ())) (fun m => OneEntry m.store)
        ⟨.empty, files⟩ es := by
  intro h
  let fails := plainMaking fun _ => .error ["Invalid runtime configuration"]
  let works := plainMaking fun _ => .ok ()
  have halways := h (AList.insert ⟨"/d", "a.ssam"⟩ ("a", 1) ∅)
    [.reload fails (some []) (some [.ok "a.ssam"]),
      .install works (installFrom ("a", 2)) (.fine ("", 0))]
  have hlast := always_exec halways rfl
  rcases hlast.disjoint "a" with hget | hget
  · exact absurd (congrArg Option.isSome hget) (by decide +kernel)
  · exact absurd (congrArg Option.isSome hget) (by decide +kernel)

end OneEntry

end Manager

end Ssam
