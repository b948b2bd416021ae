import Ssam.Manager.Served

/-!
# A Reload as Insertions in a Row

What a reload leaves in the three maps of the store, told from the list of the files
it loads, and when the order of the directories is no matter to it.

The list is of the bundled files that are not overridden and then the downloaded
ones. Each goes into one of two maps under its name, and what was there under the
name is lost. So the order of a directory shows exactly where two of its files meet
in one map under one name.

## Main definitions

* `loaded`: The files a reload loads, in its order.
* `instances`: How many packages of a name a reload makes.
* `SameStore`: Two stores that differ in nothing that can be looked up.
* `Orderless`: No two files meet in one map under one name.

## Theorems

* `packages_reload`, `brokenPackages_reload`, `bundledPackages_reload`: The three maps.
* `mem_loaded`: What is loaded does not depend on the order.
* `reload_orderless_iff`: When a reload depends on no order and makes each package
  once.
-/

namespace Ssam

namespace Manager

open Lib

section Reload

variable {C F V : Type} (env : Env C F V) (files : Files C)

/-- The parsed files a reload loads: the bundled ones that are not overridden, and
    then the downloaded ones. -/
def loaded (bundled downloaded : DirEntries) : List (PackageParseResult F) :=
  let downloadedParsed := parsePackagesFromDir env files env.downloadedDir downloaded
  let overriddenNames := downloadedParsed.map PackageParseResult.packageName
  (parsePackagesFromDir env files env.bundledDir bundled).filter
    (fun parsed => parsed.packageName ∉ overriddenNames) ++ downloadedParsed

/-- The package a file is loaded as, if one can be made of it. -/
def asPackage (parsed : PackageParseResult F) : Option (Package F) :=
  (createParsed env parsed).toOption

/-- What a file is loaded as if no package can be made of it. -/
def asBroken (parsed : PackageParseResult F) : Option BrokenPackageInfo :=
  match createParsed env parsed with
  | .ok _ => none
  | .error e => some ⟨parsed.path, e⟩

/-- How many packages of the name a reload makes. -/
def instances (bundled downloaded : DirEntries) (n : String) : Nat :=
  (loaded env files bundled downloaded).countP fun parsed =>
    parsed.packageName = n && (asPackage env parsed).isSome

/-- The same packages, the same broken packages and the same bundled paths. -/
structure SameStore (s t : PackageStore F) : Prop where
  get : ∀ n, s.get n = t.get n
  getBroken : ∀ n, s.getBroken n = t.getBroken n
  getBundledPath : ∀ n, s.getBundledPath n = t.getBundledPath n

/-- A package can be made of the file of the directory. -/
def MakesPackage (dir fileName : String) : Prop :=
  (asPackage env (parsePackage env files ⟨dir, fileName⟩)).isSome = true

/-- The bundled directory has one file of a name at most, and the downloaded one has
    one at most that makes a package and one at most that does not. -/
structure Orderless : Prop where
  bundled : ∀ n f g, Claims env files env.bundledDir n f → Claims env files env.bundledDir n g →
    f = g
  downloaded : ∀ n f g, Claims env files env.downloadedDir n f →
    Claims env files env.downloadedDir n g →
    (MakesPackage env files env.downloadedDir f ↔ MakesPackage env files env.downloadedDir g) →
    f = g

variable {env files}

theorem asBroken_isSome {parsed : PackageParseResult F} :
    (asBroken env parsed).isSome = true ↔ ¬ (asPackage env parsed).isSome = true := by
  rw [asBroken, asPackage]
  cases createParsed env parsed with
  | ok p => simp only [Option.isSome_none, Bool.false_eq_true, Except.toOption, Option.isSome_some,
      not_true_eq_false]
  | error e => simp only [Option.isSome_some, Except.toOption, Option.isSome_none,
      Bool.false_eq_true, not_false_eq_true]

/-- A broken package is at the path of its file. -/
theorem asBroken_path {parsed : PackageParseResult F} {info : BrokenPackageInfo}
    (h : asBroken env parsed = some info) : info.packagePath = parsed.path := by
  rw [asBroken] at h
  split at h
  · exact absurd h.symm (Option.some_ne_none info)
  · rw [← Option.some.inj h]

theorem asPackage_path {parsed : PackageParseResult F} {p : Package F}
    (h : asPackage env parsed = some p) : p.path = parsed.path := by
  rw [asPackage] at h
  cases hcreate : createParsed env parsed with
  | ok q =>
      rw [hcreate] at h
      rw [← Option.some.inj h]
      exact createParsed_path hcreate
  | error e =>
      rw [hcreate] at h
      exact absurd h.symm (Option.some_ne_none p)

theorem packages_loadParsedPackage (store : PackageStore F) (parsed : PackageParseResult F) :
    (loadParsedPackage env store parsed).packages =
      (asPackage env parsed).elim store.packages (store.packages.insert parsed.packageName) := by
  rw [loadParsedPackage, asPackage]
  cases createParsed env parsed <;> rfl

theorem brokenPackages_loadParsedPackage (store : PackageStore F)
    (parsed : PackageParseResult F) :
    (loadParsedPackage env store parsed).brokenPackages =
      (asBroken env parsed).elim store.brokenPackages
        (store.brokenPackages.insert parsed.packageName) := by
  rw [loadParsedPackage, asBroken]
  cases createParsed env parsed <;> rfl

/-- Loading files in turn is inserting the packages and the broken packages. -/
theorem foldl_loadParsedPackage (l : List (PackageParseResult F)) (store : PackageStore F) :
    (l.foldl (loadParsedPackage env) store).packages =
        HashMap.insertAll PackageParseResult.packageName (asPackage env) store.packages l ∧
      (l.foldl (loadParsedPackage env) store).brokenPackages =
        HashMap.insertAll PackageParseResult.packageName (asBroken env) store.brokenPackages l := by
  induction l generalizing store with
  | nil => exact ⟨rfl, rfl⟩
  | cons parsed l ih =>
      rcases ih (loadParsedPackage env store parsed) with ⟨hpackages, hbroken⟩
      rw [packages_loadParsedPackage] at hpackages
      rw [brokenPackages_loadParsedPackage] at hbroken
      exact ⟨hpackages, hbroken⟩

/-- Loading the bundled files in turn passes over those that are overridden. -/
theorem foldl_loadBundledPackage (overridden : List String) (l : List (PackageParseResult F))
    (store : PackageStore F) :
    (l.foldl (loadBundledPackage env overridden) store).packages =
        HashMap.insertAll PackageParseResult.packageName (asPackage env) store.packages
          (l.filter fun parsed => parsed.packageName ∉ overridden) ∧
      (l.foldl (loadBundledPackage env overridden) store).brokenPackages =
        HashMap.insertAll PackageParseResult.packageName (asBroken env) store.brokenPackages
          (l.filter fun parsed => parsed.packageName ∉ overridden) := by
  induction l generalizing store with
  | nil => exact ⟨rfl, rfl⟩
  | cons parsed l ih =>
      rw [List.foldl_cons]
      rcases ih (loadBundledPackage env overridden store parsed) with ⟨hpackages, hbroken⟩
      rw [hpackages, hbroken, loadBundledPackage]
      -- A bundled package of a downloaded name is passed over.
      by_cases hover : parsed.packageName ∈ overridden
      · rw [List.filter_cons_of_neg (by simpa only [decide_not, Bool.not_eq_true',
          decide_eq_false_iff_not, not_not] using hover), if_pos hover]
        exact ⟨rfl, rfl⟩
      · rw [List.filter_cons_of_pos (by simpa only [decide_not, Bool.not_eq_true',
          decide_eq_false_iff_not] using hover), if_neg hover, packages_loadParsedPackage,
          brokenPackages_loadParsedPackage]
        exact ⟨rfl, rfl⟩

theorem bundledPackages_foldl_loadBundled (overridden : List String)
    (l : List (PackageParseResult F)) (store : PackageStore F) :
    (l.foldl (loadBundledPackage env overridden) store).bundledPackages =
      HashMap.insertAll PackageParseResult.packageName (fun parsed => some parsed.path)
        store.bundledPackages l := by
  induction l generalizing store with
  | nil => rfl
  | cons parsed l ih =>
      have hone : (loadBundledPackage env overridden store parsed).bundledPackages =
          store.bundledPackages.insert parsed.packageName parsed.path := by
        rw [loadBundledPackage]
        split
        · rfl
        · rw [loadParsedPackage]
          split <;> rfl
      rw [List.foldl_cons, ih, hone]
      rfl

section Maps

variable (bundled downloaded : DirEntries)

theorem packages_reload : (reloadPackages env files bundled downloaded).packages =
    HashMap.insertAll PackageParseResult.packageName (asPackage env) ∅
      (loaded env files bundled downloaded) := by
  rw [loaded, HashMap.insertAll_append, reloadPackages, (foldl_loadParsedPackage _ _).1,
    (foldl_loadBundledPackage _ _ _).1]
  rfl

theorem brokenPackages_reload : (reloadPackages env files bundled downloaded).brokenPackages =
    HashMap.insertAll PackageParseResult.packageName (asBroken env) ∅
      (loaded env files bundled downloaded) := by
  rw [loaded, HashMap.insertAll_append, reloadPackages, (foldl_loadParsedPackage _ _).2,
    (foldl_loadBundledPackage _ _ _).2]
  rfl

theorem bundledPackages_reload : (reloadPackages env files bundled downloaded).bundledPackages =
    HashMap.insertAll PackageParseResult.packageName (fun parsed => some parsed.path) ∅
      (parsePackagesFromDir env files env.bundledDir bundled) := by
  have hload : ∀ (l : List (PackageParseResult F)) (store : PackageStore F),
      (l.foldl (loadParsedPackage env) store).bundledPackages = store.bundledPackages := by
    intro l
    induction l with
    | nil => exact fun _ => rfl
    | cons parsed l ih =>
        intro store
        rw [List.foldl_cons, ih, loadParsedPackage]
        split <;> rfl
  rw [reloadPackages, hload, bundledPackages_foldl_loadBundled]
  rfl

/-- A reload finds a package under the name where it loads one. -/
theorem get_reload_ne_none {n : String} :
    (reloadPackages env files bundled downloaded).get n ≠ none ↔
      ∃ parsed ∈ loaded env files bundled downloaded, parsed.packageName = n ∧
        (asPackage env parsed).isSome = true := by
  rw [PackageStore.get, packages_reload]
  exact HashMap.get_insertAll_ne_none _ _

/-- A reload finds a broken package under the name where it loads one. -/
theorem getBroken_reload_ne_none {n : String} :
    (reloadPackages env files bundled downloaded).getBroken n ≠ none ↔
      ∃ parsed ∈ loaded env files bundled downloaded, parsed.packageName = n ∧
        ¬ (asPackage env parsed).isSome = true := by
  rw [PackageStore.getBroken, brokenPackages_reload, HashMap.get_insertAll_ne_none]
  simp only [asBroken_isSome]

end Maps

section Order

variable {bundled downloaded : DirEntries}

/-- What is parsed of a listed directory are its package files. -/
theorem mem_parsed {dir : String} {entries : DirEntries} (hl : Lists files dir entries)
    {parsed : PackageParseResult F} :
    parsed ∈ parsePackagesFromDir env files dir entries ↔
      ∃ f, Claims env files dir parsed.packageName f ∧
        parsed = parsePackage env files ⟨dir, f⟩ := by
  have h : (∃ q ∈ parsePackagesFromDir env files dir entries, q.packageName = parsed.packageName ∧
      parsed = q) ↔ _ := exists_parsed_iff hl
  rw [← h]
  constructor
  · exact fun hmem => ⟨parsed, hmem, rfl, rfl⟩
  · rintro ⟨q, hq, -, rfl⟩
    exact hq

theorem nodup_parsed {dir : String} {entries : DirEntries} (hl : Lists files dir entries) :
    (parsePackagesFromDir env files dir entries).Nodup := by
  rcases hl with ⟨names, rfl, hnodup, -⟩
  have hpaths : (names.map .ok).filterMap (entryToOptPath dir) = names.map (Path.mk dir) := by
    rw [List.filterMap_map]
    exact congrFun List.filterMap_eq_map names
  have hpath : ∀ path, (parsePackage env files path).path = path := fun _ => rfl
  rw [parsePackagesFromDir, hpaths]
  refine List.Nodup.map (fun p q h => ?_) (List.Nodup.filter _ (hnodup.map fun f g h => ?_))
  · rw [← hpath p, h, hpath]
  · exact congrArg Path.fileName h

/-- What a reload loads does not depend on the order of the directories. -/
theorem mem_loaded (hb : Lists files env.bundledDir bundled)
    (hd : Lists files env.downloadedDir downloaded) {parsed : PackageParseResult F} :
    parsed ∈ loaded env files bundled downloaded ↔
      (∃ f, Claims env files env.downloadedDir parsed.packageName f ∧
          parsed = parsePackage env files ⟨env.downloadedDir, f⟩) ∨
        (∀ f, ¬ Claims env files env.downloadedDir parsed.packageName f) ∧
          ∃ f, Claims env files env.bundledDir parsed.packageName f ∧
            parsed = parsePackage env files ⟨env.bundledDir, f⟩ := by
  rw [loaded, List.mem_append, List.mem_filter, mem_parsed hb, mem_parsed hd, decide_eq_true_iff,
    mem_names_iff hd, not_exists, or_comm, and_comm]

theorem nodup_loaded (hb : Lists files env.bundledDir bundled)
    (hd : Lists files env.downloadedDir downloaded) :
    (loaded env files bundled downloaded).Nodup := by
  rw [loaded, List.nodup_append]
  refine ⟨(nodup_parsed hb).filter _, nodup_parsed hd, fun x hx y hy hxy => ?_⟩
  have hfree := of_decide_eq_true (List.mem_filter.mp hx).2
  rw [hxy] at hfree
  exact hfree (List.mem_map_of_mem hy)

/-- No two files that are loaded meet in one map. -/
theorem Orderless.unique (h : Orderless env files) (hb : Lists files env.bundledDir bundled)
    (hd : Lists files env.downloadedDir downloaded) {x y : PackageParseResult F}
    (hx : x ∈ loaded env files bundled downloaded) (hy : y ∈ loaded env files bundled downloaded)
    (hname : x.packageName = y.packageName)
    (hmakes : (asPackage env x).isSome = true ↔ (asPackage env y).isSome = true) : x = y := by
  rcases (mem_loaded hb hd).mp hx with ⟨f, hf, hxf⟩ | ⟨hfree, f, hf, hxf⟩
  · rcases (mem_loaded hb hd).mp hy with ⟨g, hg, hyg⟩ | ⟨hfree, -⟩
    · rw [hxf, hyg] at hmakes
      rw [hxf, hyg, h.downloaded _ f g hf (hname ▸ hg) hmakes]
    · exact absurd (hname ▸ hf) (hfree f)
  · rcases (mem_loaded hb hd).mp hy with ⟨g, hg, -⟩ | ⟨-, g, hg, hyg⟩
    · exact absurd (hname ▸ hg) (hfree g)
    · rw [hxf, hyg, h.bundled _ f g hf (hname ▸ hg)]

theorem Orderless.sameStore (h : Orderless env files) {bundled' downloaded' : DirEntries}
    (hb : Lists files env.bundledDir bundled) (hb' : Lists files env.bundledDir bundled')
    (hd : Lists files env.downloadedDir downloaded)
    (hd' : Lists files env.downloadedDir downloaded') :
    SameStore (reloadPackages env files bundled downloaded)
      (reloadPackages env files bundled' downloaded') where
  get n := by
    -- Each of the three maps is filled by the same files, in another order.
    rw [PackageStore.get, PackageStore.get, packages_reload, packages_reload]
    refine HashMap.get_insertAll_congr _ _
      (fun x => (mem_loaded hb hd).trans (mem_loaded hb' hd').symm) ?_
    intro x hx y hy hxn hyn hxs hys
    rw [h.unique hb hd hx hy (hxn.trans hyn.symm) (iff_of_true hxs hys)]
  getBroken n := by
    rw [PackageStore.getBroken, PackageStore.getBroken, brokenPackages_reload,
      brokenPackages_reload]
    refine HashMap.get_insertAll_congr _ _
      (fun x => (mem_loaded hb hd).trans (mem_loaded hb' hd').symm) ?_
    intro x hx y hy hxn hyn hxs hys
    rw [h.unique hb hd hx hy (hxn.trans hyn.symm)
      (iff_of_false (asBroken_isSome.mp hxs) (asBroken_isSome.mp hys))]
  getBundledPath n := by
    rw [PackageStore.getBundledPath, PackageStore.getBundledPath, bundledPackages_reload,
      bundledPackages_reload]
    refine HashMap.get_insertAll_congr _ _
      (fun x => (mem_parsed hb).trans (mem_parsed hb').symm) ?_
    intro x hx y hy hxn hyn _ _
    rcases (mem_parsed hb).mp hx with ⟨f, hf, hxf⟩
    rcases (mem_parsed hb).mp hy with ⟨g, hg, hyg⟩
    rw [hxf, hyg, h.bundled n f g (hxn ▸ hf) (hyn ▸ hg)]

/-- Each package is made once. -/
theorem Orderless.instances (h : Orderless env files) (hb : Lists files env.bundledDir bundled)
    (hd : Lists files env.downloadedDir downloaded) {n : String}
    (hn : (reloadPackages env files bundled downloaded).get n ≠ none) :
    instances env files bundled downloaded n = 1 := by
  classical
  rcases (get_reload_ne_none bundled downloaded).mp hn with ⟨x, hx, hname, hsome⟩
  have hcount : Manager.instances env files bundled downloaded n =
      (loaded env files bundled downloaded).count x := by
    refine List.countP_congr fun y hy => ?_
    rw [Bool.and_eq_true_iff, decide_eq_true_iff, beq_iff_eq]
    constructor
    · rintro ⟨hyn, hys⟩
      exact h.unique hb hd hy hx (hyn.trans hname.symm) (iff_of_true hys hsome)
    · rintro rfl
      exact ⟨hname, hsome⟩
  rw [hcount, List.count_eq_one_of_mem (nodup_loaded hb hd) hx]

end Order

section Converse

/-- The file listed last is parsed last. -/
theorem parsePackagesFromDir_concat {dir n f : String} (hf : Claims env files dir n f)
    (names : List String) :
    parsePackagesFromDir env files dir (some ((names ++ [f]).map .ok)) =
      parsePackagesFromDir env files dir (some (names.map .ok)) ++
        [parsePackage env files ⟨dir, f⟩] := by
  simp only [parsePackagesFromDir, List.map_append, List.filterMap_append, List.filter_append,
    List.map_cons, List.map_nil, List.filterMap_cons, List.filterMap_nil, entryToOptPath,
    List.filter_cons, List.filter_nil, hf.1, if_true]

/-- A directory can be listed so that a file of a name is parsed last. -/
theorem exists_lists_parsed_last {dir n f : String} (hf : Claims env files dir n f) :
    ∃ entries l, Lists files dir entries ∧ parsePackagesFromDir env files dir entries =
      l ++ [parsePackage env files ⟨dir, f⟩] := by
  rcases exists_lists_last (Bool.and_eq_true_iff.mp hf.1).1 with ⟨names, hl⟩
  exact ⟨_, _, hl, parsePackagesFromDir_concat hf names⟩

/-- The downloaded directory can be listed so that a file of it is loaded last. -/
theorem exists_loaded_last {n f : String} (hf : Claims env files env.downloadedDir n f)
    (bundled : DirEntries) :
    ∃ downloaded l, Lists files env.downloadedDir downloaded ∧
      loaded env files bundled downloaded =
        l ++ [parsePackage env files ⟨env.downloadedDir, f⟩] := by
  rcases exists_lists_parsed_last hf with ⟨downloaded, l, hl, hlast⟩
  exact ⟨downloaded, _, hl, (congrArg (_ ++ ·) hlast).trans (List.append_assoc _ _ _).symm⟩

/-- A reload that loads the file last finds what that file is. -/
theorem get_of_loaded_last {bundled downloaded : DirEntries} {n f : String}
    (hf : Claims env files env.downloadedDir n f) {l : List (PackageParseResult F)}
    (hl : loaded env files bundled downloaded =
      l ++ [parsePackage env files ⟨env.downloadedDir, f⟩]) :
    (∀ p, asPackage env (parsePackage env files ⟨env.downloadedDir, f⟩) = some p →
      (reloadPackages env files bundled downloaded).get n = some p) ∧
    ∀ info, asBroken env (parsePackage env files ⟨env.downloadedDir, f⟩) = some info →
      (reloadPackages env files bundled downloaded).getBroken n = some info := by
  constructor
  · intro p hp
    rw [PackageStore.get, packages_reload, hl, HashMap.get_insertAll_concat, if_pos, hp]
    exact ⟨hf.2, Option.isSome_of_eq_some hp⟩
  · intro info hinfo
    rw [PackageStore.getBroken, brokenPackages_reload, hl, HashMap.get_insertAll_concat, if_pos,
      hinfo]
    exact ⟨hf.2, Option.isSome_of_eq_some hinfo⟩

/-- Where a reload depends on no order, no two files meet in one map. -/
theorem orderless_of_sameStore (h : ∀ bundled bundled' downloaded downloaded',
    Lists files env.bundledDir bundled → Lists files env.bundledDir bundled' →
    Lists files env.downloadedDir downloaded → Lists files env.downloadedDir downloaded' →
    SameStore (reloadPackages env files bundled downloaded)
      (reloadPackages env files bundled' downloaded')) : Orderless env files where
  bundled n f g hf hg := by
    -- Some order lists a given file last, and then it decides.
    have hlast : ∀ {e}, Claims env files env.bundledDir n e → ∃ bundled,
        Lists files env.bundledDir bundled ∧ ∀ downloaded,
          (reloadPackages env files bundled downloaded).getBundledPath n =
            some ⟨env.bundledDir, e⟩ := by
      intro e he
      rcases exists_lists_parsed_last he with ⟨bundled, l, hl, hlast⟩
      refine ⟨bundled, hl, fun downloaded => ?_⟩
      rw [PackageStore.getBundledPath, bundledPackages_reload, hlast,
        HashMap.get_insertAll_concat, if_pos ⟨he.2, rfl⟩]
      rfl
    rcases hlast hf with ⟨b, hb, hget⟩
    rcases hlast hg with ⟨b', hb', hget'⟩
    rcases exists_lists files env.downloadedDir with ⟨d, hd⟩
    have hsame := (h b b' d d hb hb' hd hd).getBundledPath n
    rw [hget, hget'] at hsame
    exact congrArg Path.fileName (Option.some.inj hsame)
  downloaded n f g hf hg hmakes := by
    rcases exists_lists files env.bundledDir with ⟨b, hb⟩
    rcases exists_loaded_last hf b with ⟨d, l, hd, hl⟩
    rcases exists_loaded_last hg b with ⟨d', l', hd', hl'⟩
    rcases get_of_loaded_last hf hl with ⟨hget, hbroken⟩
    rcases get_of_loaded_last hg hl' with ⟨hget', hbroken'⟩
    have hsame := h b b d d' hb hb hd hd'
    -- Of two downloaded files both make a package or both are broken.
    by_cases hm : MakesPackage env files env.downloadedDir f
    · rcases Option.isSome_iff_exists.mp hm with ⟨p, hp⟩
      rcases Option.isSome_iff_exists.mp (hmakes.mp hm) with ⟨q, hq⟩
      have hpq := hsame.get n
      rw [hget p hp, hget' q hq] at hpq
      have hpath := asPackage_path hp
      rw [Option.some.inj hpq, asPackage_path hq] at hpath
      exact (congrArg Path.fileName hpath).symm
    · rcases Option.isSome_iff_exists.mp (asBroken_isSome.mpr hm) with ⟨i, hi⟩
      rcases Option.isSome_iff_exists.mp (asBroken_isSome.mpr (mt hmakes.mpr hm)) with ⟨j, hj⟩
      have hij := hsame.getBroken n
      rw [hbroken i hi, hbroken' j hj] at hij
      have hpath := asBroken_path hi
      rw [Option.some.inj hij, asBroken_path hj] at hpath
      exact (congrArg Path.fileName hpath).symm

end Converse

/-- A reload comes to the same store in every order of the two directories, and makes
    each of its packages once, exactly where no two files meet in one map under one
    name. -/
theorem reload_orderless_iff (env : Env C F V) (files : Files C) :
    (∀ bundled bundled' downloaded downloaded',
      Lists files env.bundledDir bundled → Lists files env.bundledDir bundled' →
      Lists files env.downloadedDir downloaded → Lists files env.downloadedDir downloaded' →
      SameStore (reloadPackages env files bundled downloaded)
          (reloadPackages env files bundled' downloaded') ∧
        ∀ n, (reloadPackages env files bundled downloaded).get n ≠ none →
          instances env files bundled downloaded n = 1) ↔
      Orderless env files := by
  constructor
  · intro h
    exact orderless_of_sameStore fun b b' d d' hb hb' hd hd' => (h b b' d d' hb hb' hd hd').1
  · intro h b b' d d' hb hb' hd hd'
    exact ⟨h.sameStore hb hb' hd hd', fun n hn => h.instances hb hd hn⟩

/-- Two downloaded files of one package. -/
def twoVersions : Files (String × Nat) :=
  AList.insert ⟨"/d", "x.ssam"⟩ ("a", 1) (AList.insert ⟨"/d", "y.ssam"⟩ ("a", 2) ∅)

/-- Of two downloaded files of one package the one listed last is found, and both are
    made. -/
theorem reload_depends_on_order :
    ¬ ∀ (files : Files (String × Nat)) (bundled bundled' downloaded downloaded' : DirEntries),
      Lists files "/b" bundled → Lists files "/b" bundled' →
      Lists files "/d" downloaded → Lists files "/d" downloaded' →
      SameStore (reloadPackages (plainEnv fun _ => .ok ()) files bundled downloaded)
          (reloadPackages (plainEnv fun _ => .ok ()) files bundled' downloaded') ∧
        ∀ n, (reloadPackages (plainEnv fun _ => .ok ()) files bundled downloaded).get n ≠ none →
          instances (plainEnv fun _ => .ok ()) files bundled downloaded n = 1 := by
  intro h
  have hb : Lists twoVersions "/b" (some ([].map .ok)) := lists_of_perm (by decide)
  have hd : Lists twoVersions "/d" (some (["x.ssam", "y.ssam"].map .ok)) :=
    lists_of_perm (by decide)
  have hd' : Lists twoVersions "/d" (some (["y.ssam", "x.ssam"].map .ok)) :=
    lists_of_perm (by decide)
  have hsame := (h twoVersions _ _ _ _ hb hb hd hd').1.get "a"
  have hpath := congrArg (Option.map Package.path) hsame
  exact absurd hpath (by decide +kernel)

end Reload

end Manager

end Ssam
