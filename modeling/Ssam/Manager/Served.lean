import Mathlib.Data.List.Induction
import Ssam.Manager.Store

/-!
# What a Reload Serves

Which package a reload finds for a name, told from the directories alone.

A directory offers a package under a name when some file of it has that name and a
package can be made of the file. The downloaded directory comes first, and already
a file that only has the name keeps the bundled directory out. Where a directory
offers two packages under one name, the one listed last is found, and a directory
may be listed in any order: so `Serves` is a relation, and a reload can find
exactly what it relates a name to.

## Main definitions

* `Claims`: A package file of the directory has the name.
* `Offers`: The directory has a package under the name.
* `Serves`: What may be found under the name.
* `Lists`: The entries of a directory, in some order.

## Theorems

* `serves_reload`: What a reload finds is served.
* `exists_reload`: Some order of the directories finds what is served.
* `forall_reload_iff`: A property of every reload is one of what is served.
* `getBundledPath_reload`: A reload knows a bundled path for the names the
  bundled directory has.
-/

namespace Ssam

namespace Manager

open Lib

section Served

variable {C F V : Type} (env : Env C F V) (files : Files C)

/-- The package file `fileName` of the directory has the name `n`. -/
def Claims (dir n fileName : String) : Prop :=
  isPackageFile env files ⟨dir, fileName⟩ = true ∧
    (parsePackage env files ⟨dir, fileName⟩).packageName = n

/-- The directory has a file under the name `n` that makes the package. -/
def Offers (dir n : String) (package : Package F) : Prop :=
  ∃ fileName, Claims env files dir n fileName ∧
    createParsed env (parsePackage env files ⟨dir, fileName⟩) = .ok package

/-- What may be found under the name `n`. -/
inductive Serves (n : String) : Option (Package F) → Prop
  | downloaded (p : Package F) (h : Offers env files env.downloadedDir n p) : Serves n (some p)
  | overridden (h : ∃ f, Claims env files env.downloadedDir n f)
      (hnone : ∀ p, ¬ Offers env files env.downloadedDir n p) : Serves n none
  | bundled (p : Package F) (hfree : ∀ f, ¬ Claims env files env.downloadedDir n f)
      (h : Offers env files env.bundledDir n p) : Serves n (some p)
  | absent (hfree : ∀ f, ¬ Claims env files env.downloadedDir n f)
      (hnone : ∀ p, ¬ Offers env files env.bundledDir n p) : Serves n none

/-- The entries are the files of the directory, each once. -/
def Lists (dir : String) (entries : DirEntries) : Prop :=
  ∃ names : List String, entries = some (names.map .ok) ∧ names.Nodup ∧
    ∀ f, f ∈ names ↔ (files.get ⟨dir, f⟩).isSome = true

variable {env files}

/-- A package is at the path of the file it was made from. -/
theorem createPackage_eq_ok {path : Path} {packageFile : F} {package : Package F}
    (h : createPackage env path packageFile = .ok package) : package = ⟨packageFile, path⟩ := by
  rw [createPackage] at h
  rcases except_bind_eq_ok.mp h with ⟨_, -, h⟩
  rcases except_bind_eq_ok.mp h with ⟨_, -, h⟩
  exact (Except.ok.inj h).symm

theorem createParsed_eq_ok {parsed : PackageParseResult F} {package : Package F} :
    createParsed env parsed = .ok package ↔
      parsed.packageFile = .ok package.file ∧
        createPackage env parsed.path package.file = .ok package := by
  rw [createParsed, except_bind_eq_ok]
  constructor
  · rintro ⟨packageFile, hparsed, h⟩
    have hcreate := context_eq_ok.mp h
    have hp := createPackage_eq_ok hcreate
    rw [hp] at hcreate ⊢
    exact ⟨hparsed, hcreate⟩
  · rintro ⟨hparsed, h⟩
    exact ⟨package.file, hparsed, context_eq_ok.mpr h⟩

theorem createParsed_path {parsed : PackageParseResult F} {package : Package F}
    (h : createParsed env parsed = .ok package) : package.path = parsed.path := by
  rw [createPackage_eq_ok (createParsed_eq_ok.mp h).2]

/-- The file a package on offer was made from. -/
theorem offers_iff {dir n : String} {p : Package F} :
    Offers env files dir n p ↔
      p.path.parent = dir ∧ Claims env files dir n p.path.fileName ∧
        createParsed env (parsePackage env files p.path) = .ok p := by
  constructor
  · rintro ⟨f, hclaims, hcreate⟩
    have hpath : p.path = ⟨dir, f⟩ := createParsed_path hcreate
    rw [hpath]
    exact ⟨rfl, hclaims, hcreate⟩
  · rintro ⟨hparent, hclaims, hcreate⟩
    refine ⟨p.path.fileName, hclaims, ?_⟩
    rw [← hparent]
    exact hcreate

theorem Offers.claims {dir n : String} {p : Package F} (h : Offers env files dir n p) :
    ∃ f, Claims env files dir n f :=
  Exists.imp (fun _ => And.left) h

/-- A name in terms of what is in the file. -/
theorem claims_iff_get {dir n f : String} :
    Claims env files dir n f ↔ isPackageFileName env.packagesExt f = true ∧
      ∃ content, files.get ⟨dir, f⟩ = some content ∧
        parsedName env f (parseContent env (some content)) = n := by
  rw [Claims, isPackageFile, parsePackage, Bool.and_eq_true_iff, Option.isSome_iff_exists]
  constructor
  · rintro ⟨⟨⟨content, hget⟩, hpkg⟩, hname⟩
    rw [hget] at hname
    exact ⟨hpkg, content, hget, hname⟩
  · rintro ⟨hpkg, content, hget, hname⟩
    rw [hget]
    exact ⟨⟨⟨content, rfl⟩, hpkg⟩, hname⟩

/-- An offer in terms of what is in the file. -/
theorem offers_iff_get {dir n : String} {p : Package F} :
    Offers env files dir n p ↔ p.path.parent = dir ∧
      isPackageFileName env.packagesExt p.path.fileName = true ∧
      (∃ content, files.get p.path = some content ∧ env.fromFileVerified content = .ok p.file) ∧
      env.packageName p.file = n ∧ createPackage env p.path p.file = .ok p := by
  rw [offers_iff, claims_iff_get, createParsed_eq_ok]
  constructor
  · rintro ⟨hparent, ⟨hpkg, content, hget, hname⟩, hparsed, hcreate⟩
    have hpath : (⟨dir, p.path.fileName⟩ : Path) = p.path := by rw [← hparent]
    rw [hpath] at hget
    -- The name that the file claims is that of the package it was parsed as.
    have hverified : parseContent env (files.get p.path) = .ok p.file := hparsed
    rw [hget] at hverified
    rw [hverified] at hname
    rcases parseContent_eq_ok.mp hverified with ⟨c, hc, hfile⟩
    rw [Option.some.inj hc] at hget
    exact ⟨hparent, hpkg, ⟨c, hget, hfile⟩, hname, hcreate⟩
  · rintro ⟨hparent, hpkg, ⟨content, hget, hfile⟩, hname, hcreate⟩
    have hpath : (⟨dir, p.path.fileName⟩ : Path) = p.path := by rw [← hparent]
    have hverified : parseContent env (some content) = .ok p.file :=
      parseContent_eq_ok.mpr ⟨content, rfl, hfile⟩
    refine ⟨hparent, ⟨hpkg, content, by rw [hpath, hget], by rw [hverified]; exact hname⟩, ?_,
      hcreate⟩
    rw [parsePackage, hget]
    exact hverified

/-- The names of a file depend on that file alone. -/
theorem claims_congr {files' : Files C} {dir n f : String}
    (h : isPackageFileName env.packagesExt f = true → files'.get ⟨dir, f⟩ = files.get ⟨dir, f⟩) :
    Claims env files' dir n f ↔ Claims env files dir n f := by
  rw [claims_iff_get, claims_iff_get]
  exact and_congr_right fun hpkg => by rw [h hpkg]

/-- An offer depends on its file alone. -/
theorem offers_congr {files' : Files C} {dir n : String} {p : Package F}
    (h : p.path.parent = dir → isPackageFileName env.packagesExt p.path.fileName = true →
      files'.get p.path = files.get p.path) :
    Offers env files' dir n p ↔ Offers env files dir n p := by
  rw [offers_iff_get, offers_iff_get]
  exact and_congr_right fun hdir => and_congr_right fun hpkg => by rw [h hdir hpkg]

/-- A package file has one name. -/
theorem Claims.unique {dir n m f : String} (hn : Claims env files dir n f)
    (hm : Claims env files dir m f) : n = m :=
  hn.2.symm.trans hm.2

variable (env files) in
/-- Something is served under every name. -/
theorem exists_serves (n : String) : ∃ o, Serves env files n o := by
  by_cases hd : ∃ p, Offers env files env.downloadedDir n p
  · rcases hd with ⟨p, hp⟩
    exact ⟨_, Serves.downloaded p hp⟩
  · by_cases hc : ∃ f, Claims env files env.downloadedDir n f
    · exact ⟨_, Serves.overridden hc (not_exists.mp hd)⟩
    · by_cases hb : ∃ p, Offers env files env.bundledDir n p
      · rcases hb with ⟨p, hp⟩
        exact ⟨_, Serves.bundled p (not_exists.mp hc) hp⟩
      · exact ⟨_, Serves.absent (not_exists.mp hc) (not_exists.mp hb)⟩

theorem mem_parsePackagesFromDir {dir : String} {names : List String}
    {parsed : PackageParseResult F} :
    parsed ∈ parsePackagesFromDir env files dir (some (names.map .ok)) ↔
      ∃ f ∈ names, isPackageFile env files ⟨dir, f⟩ = true ∧
        parsed = parsePackage env files ⟨dir, f⟩ := by
  rw [parsePackagesFromDir]
  simp only [List.mem_map, List.mem_filter, List.mem_filterMap]
  constructor
  · rintro ⟨path, ⟨⟨_, ⟨f, hf, rfl⟩, hpath⟩, hpkg⟩, rfl⟩
    rw [← Option.some.inj hpath] at hpkg ⊢
    exact ⟨f, hf, hpkg, rfl⟩
  · rintro ⟨f, hf, hpkg, rfl⟩
    exact ⟨⟨dir, f⟩, ⟨⟨_, ⟨f, hf, rfl⟩, rfl⟩, hpkg⟩, rfl⟩

/-- The parsed files of a listed directory that have a name are those that
    claim it. -/
theorem exists_parsed_iff {dir n : String} {entries : DirEntries}
    (hl : Lists files dir entries) {P : PackageParseResult F → Prop} :
    (∃ parsed ∈ parsePackagesFromDir env files dir entries, parsed.packageName = n ∧ P parsed) ↔
      ∃ f, Claims env files dir n f ∧ P (parsePackage env files ⟨dir, f⟩) := by
  rcases hl with ⟨names, rfl, -, hmem⟩
  constructor
  · rintro ⟨parsed, hparsed, hname, hP⟩
    rcases mem_parsePackagesFromDir.mp hparsed with ⟨f, -, hpkg, rfl⟩
    exact ⟨f, ⟨hpkg, hname⟩, hP⟩
  · rintro ⟨f, ⟨hpkg, hname⟩, hP⟩
    have hfile := (Bool.and_eq_true_iff.mp hpkg).1
    exact ⟨_, mem_parsePackagesFromDir.mpr ⟨f, (hmem f).mpr hfile, hpkg, rfl⟩, hname, hP⟩

theorem get_loadParsedPackage (store : PackageStore F) (parsed : PackageParseResult F)
    (n : String) :
    (loadParsedPackage env store parsed).get n =
      match createParsed env parsed with
      | .ok p => if n = parsed.packageName then some p else store.get n
      | .error _ => store.get n := by
  rw [loadParsedPackage]
  cases createParsed env parsed with
  | ok p => exact PackageStore.get_insert store parsed.packageName n p
  | error e => rfl

variable (env) in
/-- Loading files in turn leaves a package made from one of those with the name,
    or there is none to be made and the store keeps what it has. -/
theorem get_foldl_load (l : List (PackageParseResult F)) (store : PackageStore F) (n : String) :
    (∃ p, (∃ parsed ∈ l, parsed.packageName = n ∧ createParsed env parsed = .ok p) ∧
        (l.foldl (loadParsedPackage env) store).get n = some p) ∨
      (¬ ∃ p, ∃ parsed ∈ l, parsed.packageName = n ∧ createParsed env parsed = .ok p) ∧
        (l.foldl (loadParsedPackage env) store).get n = store.get n := by
  induction l generalizing store with
  | nil => exact Or.inr ⟨by simp only [List.not_mem_nil, false_and, exists_false,
      not_false_eq_true], rfl⟩
  | cons parsed l ih =>
      rw [List.foldl_cons]
      rcases ih (loadParsedPackage env store parsed) with ⟨p, ⟨q, hq, h⟩, hget⟩ | ⟨hnone, hget⟩
      · exact Or.inl ⟨p, ⟨q, List.mem_cons_of_mem parsed hq, h⟩, hget⟩
      · rw [get_loadParsedPackage] at hget
        -- No later file makes a package of this name, so the first one decides.
        by_cases hmade : ∃ p, parsed.packageName = n ∧ createParsed env parsed = .ok p
        · rcases hmade with ⟨p, hname, hcreate⟩
          rw [hcreate] at hget
          simp only [hname, if_true] at hget
          exact Or.inl ⟨p, ⟨parsed, List.mem_cons_self, hname, hcreate⟩, hget⟩
        · refine Or.inr ⟨?_, ?_⟩
          · rintro ⟨p, q, hq, hname, hcreate⟩
            rcases List.mem_cons.mp hq with rfl | hq
            · exact hmade ⟨p, hname, hcreate⟩
            · exact hnone ⟨p, q, hq, hname, hcreate⟩
          · rw [hget]
            cases hcreate : createParsed env parsed with
            | error e => rfl
            | ok p => exact if_neg fun h => hmade ⟨p, h.symm, hcreate⟩

theorem get_loadBundledPackage (overridden : List String) (store : PackageStore F)
    (parsed : PackageParseResult F) (n : String) :
    (loadBundledPackage env overridden store parsed).get n =
      if n ∈ overridden then store.get n
      else (loadParsedPackage env store parsed).get n := by
  rw [loadBundledPackage]
  by_cases hn : n ∈ overridden
  · rw [if_pos hn]
    -- Either the package is passed over, or it has another name.
    by_cases hover : parsed.packageName ∈ overridden
    · rw [if_pos hover]; rfl
    · have hne : n ≠ parsed.packageName := fun h => hover (h ▸ hn)
      rw [if_neg hover, get_loadParsedPackage]
      cases createParsed env parsed with
      | ok p => exact if_neg hne
      | error e => rfl
  · rw [if_neg hn]
    by_cases hover : parsed.packageName ∈ overridden
    · have hne : n ≠ parsed.packageName := fun h => hn (h ▸ hover)
      rw [if_pos hover, get_loadParsedPackage]
      cases createParsed env parsed with
      | ok p => exact (if_neg hne).symm
      | error e => rfl
    · rw [if_neg hover, get_loadParsedPackage, get_loadParsedPackage]
      rfl

/-- Where a name is overridden no bundled file is loaded under it, and where it
    is not they are loaded as any other. -/
theorem get_foldl_loadBundled (overridden : List String) (l : List (PackageParseResult F))
    (store : PackageStore F) (n : String) :
    (l.foldl (loadBundledPackage env overridden) store).get n =
      if n ∈ overridden then store.get n
      else (l.foldl (loadParsedPackage env) store).get n := by
  induction l using List.reverseRecOn generalizing store with
  | nil => exact (ite_self _).symm
  | append_singleton l parsed ih =>
      simp only [List.foldl_append, List.foldl_cons, List.foldl_nil]
      rw [get_loadBundledPackage, ih]
      by_cases hn : n ∈ overridden
      · simp only [if_pos hn]
      · rw [if_neg hn, if_neg hn, get_loadParsedPackage, get_loadParsedPackage, ih, if_neg hn]

/-- The names of the parsed files of a listed directory are those it has. -/
theorem mem_names_iff {dir n : String} {entries : DirEntries} (hl : Lists files dir entries) :
    n ∈ (parsePackagesFromDir env files dir entries).map PackageParseResult.packageName ↔
      ∃ f, Claims env files dir n f := by
  have h : (∃ parsed ∈ parsePackagesFromDir env files dir entries,
      parsed.packageName = n ∧ True) ↔ _ := exists_parsed_iff hl
  simp only [and_true] at h
  rw [List.mem_map]
  exact h

/-- What loading the bundled directory leaves is loaded upon by the downloaded one. -/
theorem get_reloadPackages (bundled downloaded : DirEntries) (n : String) :
    (reloadPackages env files bundled downloaded).get n =
      ((parsePackagesFromDir env files env.downloadedDir downloaded).foldl
        (loadParsedPackage env) ((parsePackagesFromDir env files env.bundledDir bundled).foldl
          (loadBundledPackage env
            ((parsePackagesFromDir env files env.downloadedDir downloaded).map
              PackageParseResult.packageName)) .empty)).get n := rfl

/-- What a reload finds under a name is served under it. -/
theorem serves_reload {bundled downloaded : DirEntries}
    (hb : Lists files env.bundledDir bundled) (hd : Lists files env.downloadedDir downloaded)
    (n : String) : Serves env files n ((reloadPackages env files bundled downloaded).get n) := by
  -- What a directory is parsed as is what it offers.
  have hofferd : ∀ p, (∃ parsed ∈ parsePackagesFromDir env files env.downloadedDir downloaded,
      parsed.packageName = n ∧ createParsed env parsed = .ok p) ↔
        Offers env files env.downloadedDir n p := fun p => exists_parsed_iff hd
  have hofferb : ∀ p, (∃ parsed ∈ parsePackagesFromDir env files env.bundledDir bundled,
      parsed.packageName = n ∧ createParsed env parsed = .ok p) ↔
        Offers env files env.bundledDir n p := fun p => exists_parsed_iff hb
  rw [get_reloadPackages]
  rcases get_foldl_load env (parsePackagesFromDir env files env.downloadedDir downloaded)
      ((parsePackagesFromDir env files env.bundledDir bundled).foldl (loadBundledPackage env
        ((parsePackagesFromDir env files env.downloadedDir downloaded).map
          PackageParseResult.packageName)) .empty) n with ⟨p, hp, hget⟩ | ⟨hnone, hget⟩
  · rw [hget]
    exact Serves.downloaded p ((hofferd p).mp hp)
  · -- Nothing downloaded makes the package, so the bundled ones are what is left.
    have hnoned : ∀ p, ¬ Offers env files env.downloadedDir n p :=
      fun p hp => hnone ⟨p, (hofferd p).mpr hp⟩
    rw [hget, get_foldl_loadBundled]
    by_cases hc : ∃ f, Claims env files env.downloadedDir n f
    · rw [if_pos ((mem_names_iff hd).mpr hc)]
      exact Serves.overridden hc hnoned
    · rw [if_neg fun h => hc ((mem_names_iff hd).mp h)]
      rcases get_foldl_load env (parsePackagesFromDir env files env.bundledDir bundled)
          .empty n with ⟨p, hp, hget⟩ | ⟨hnone, hget⟩
      · rw [hget]
        exact Serves.bundled p (not_exists.mp hc) ((hofferb p).mp hp)
      · rw [hget]
        exact Serves.absent (not_exists.mp hc) fun p hp => hnone ⟨p, (hofferb p).mpr hp⟩

/-- The names of the files in the directory, in the order of the map. -/
def namesIn (files : Files C) (dir : String) : List String :=
  (files.keys.filter fun path => path.parent = dir).map Path.fileName

/-- A directory can be listed in any order of its names. -/
theorem lists_of_perm {dir : String} {names : List String} (h : names.Perm (namesIn files dir)) :
    Lists files dir (some (names.map .ok)) := by
  refine ⟨names, rfl, h.nodup_iff.mpr ?_, fun f => ?_⟩
  · refine List.Nodup.map_on ?_ (files.keys_nodup.filter _)
    intro p hp q hq hname
    have hparent : p.parent = q.parent := by
      rw [of_decide_eq_true (List.mem_filter.mp hp).2, of_decide_eq_true (List.mem_filter.mp hq).2]
    cases p; cases q
    simp only at hparent hname
    rw [hparent, hname]
  · rw [h.mem_iff, HashMap.get, AList.lookup_isSome, AList.mem_keys, namesIn, List.mem_map]
    constructor
    · rintro ⟨p, hp, rfl⟩
      rcases List.mem_filter.mp hp with ⟨hkey, hdir⟩
      rw [← of_decide_eq_true hdir]
      exact hkey
    · intro hkey
      exact ⟨_, List.mem_filter.mpr ⟨hkey, decide_eq_true rfl⟩, rfl⟩

/-- A directory can be listed. -/
theorem exists_lists (files : Files C) (dir : String) : ∃ entries, Lists files dir entries :=
  ⟨_, lists_of_perm (List.Perm.refl _)⟩

/-- A directory can be listed with any one of its files last. -/
theorem exists_lists_last {dir f : String} (hf : (files.get ⟨dir, f⟩).isSome = true) :
    ∃ names : List String, Lists files dir (some ((names ++ [f]).map .ok)) := by
  rcases exists_lists files dir with ⟨_, names, rfl, hnodup, hmem⟩
  refine ⟨names.erase f, _, rfl, ?_, fun g => ?_⟩
  · rw [List.nodup_append]
    refine ⟨hnodup.erase f, List.nodup_singleton f, ?_⟩
    intro a ha b hb hab
    rw [List.mem_singleton.mp hb] at hab
    exact (List.Nodup.mem_erase_iff hnodup).mp ha |>.1 hab
  · rw [← hmem g, List.mem_append, List.mem_singleton, List.Nodup.mem_erase_iff hnodup]
    by_cases hg : g = f
    · simp only [hg, (hmem f).mpr hf, or_true]
    · simp only [hg, ne_eq, not_false_eq_true, true_and, or_false]

/-- A directory can be listed so that a package it offers is loaded last. -/
theorem exists_lists_offer {dir n : String} {p : Package F} (h : Offers env files dir n p) :
    ∃ entries, Lists files dir entries ∧ ∀ store : PackageStore F,
      ((parsePackagesFromDir env files dir entries).foldl (loadParsedPackage env) store).get n =
        some p := by
  rcases h with ⟨f, ⟨hpkg, hname⟩, hcreate⟩
  have hfile := (Bool.and_eq_true_iff.mp hpkg).1
  rcases exists_lists_last hfile with ⟨names, hl⟩
  refine ⟨_, hl, fun store => ?_⟩
  have hsplit : parsePackagesFromDir env files dir (some ((names ++ [f]).map .ok)) =
      parsePackagesFromDir env files dir (some (names.map .ok)) ++
        [parsePackage env files ⟨dir, f⟩] := by
    simp only [parsePackagesFromDir, List.map_append, List.filterMap_append, List.filter_append,
      List.map_cons, List.map_nil, List.filterMap_cons, List.filterMap_nil, entryToOptPath,
      List.filter_cons, List.filter_nil, hpkg, if_true]
  rw [hsplit, List.foldl_append, List.foldl_cons, List.foldl_nil, get_loadParsedPackage, hcreate]
  exact if_pos hname.symm

/-- What is served under a name is found by a reload in some order of the
    directories. -/
theorem exists_reload {n : String} {o : Option (Package F)} (h : Serves env files n o) :
    ∃ bundled downloaded, Lists files env.bundledDir bundled ∧
      Lists files env.downloadedDir downloaded ∧
      (reloadPackages env files bundled downloaded).get n = o := by
  rcases exists_lists files env.bundledDir with ⟨b, hb⟩
  rcases exists_lists files env.downloadedDir with ⟨d, hd⟩
  cases h with
  | downloaded p h =>
      -- The file is listed where it decides.
      rcases exists_lists_offer h with ⟨d', hd', hget⟩
      exact ⟨b, d', hb, hd', hget _⟩
  | bundled p hfree h =>
      rcases exists_lists_offer h with ⟨b', hb', hget⟩
      refine ⟨b', d, hb', hd, ?_⟩
      rw [get_reloadPackages]
      rcases get_foldl_load env (parsePackagesFromDir env files env.downloadedDir d)
          ((parsePackagesFromDir env files env.bundledDir b').foldl (loadBundledPackage env
            ((parsePackagesFromDir env files env.downloadedDir d).map
              PackageParseResult.packageName)) .empty) n with ⟨q, hq, -⟩ | ⟨-, hkeep⟩
      · rcases (exists_parsed_iff hd).mp hq with ⟨f, hf, -⟩
        exact absurd hf (hfree f)
      · rw [hkeep, get_foldl_loadBundled,
          if_neg fun hmem => (not_exists.mpr hfree) ((mem_names_iff hd).mp hmem)]
        exact hget _
  -- Whatever the order, the name stays without a package.
  | overridden hc hnone =>
      refine ⟨b, d, hb, hd, ?_⟩
      cases hget : (reloadPackages env files b d).get n with
      | none => rfl
      | some q =>
          have hserves := serves_reload hb hd n
          rw [hget] at hserves
          cases hserves with
          | downloaded _ h => exact absurd h (hnone q)
          | bundled _ hfree _ => exact absurd hc (not_exists.mpr hfree)
  | absent hfree hnone =>
      refine ⟨b, d, hb, hd, ?_⟩
      cases hget : (reloadPackages env files b d).get n with
      | none => rfl
      | some q =>
          have hserves := serves_reload hb hd n
          rw [hget] at hserves
          cases hserves with
          | downloaded _ h =>
              rcases h.claims with ⟨f, hf⟩
              exact absurd hf (hfree f)
          | bundled _ _ h => exact absurd h (hnone q)

/-- A property holds of what every reload finds under a name exactly when it
    holds of everything served under it. -/
theorem forall_reload_iff {n : String} {P : Option (Package F) → Prop} :
    (∀ bundled downloaded, Lists files env.bundledDir bundled →
      Lists files env.downloadedDir downloaded →
      P ((reloadPackages env files bundled downloaded).get n)) ↔
      ∀ o, Serves env files n o → P o := by
  constructor
  · intro h o ho
    rcases exists_reload ho with ⟨b, d, hb, hd, rfl⟩
    exact h b d hb hd
  · intro h b d hb hd
    exact h _ (serves_reload hb hd n)

/-- Every reload finds a package under the name, and a good one. -/
theorem forall_serves_some_iff {n : String} {Good : Package F → Prop} :
    (∀ o, Serves env files n o → ∃ q, o = some q ∧ Good q) ↔
      (∀ q, Offers env files env.downloadedDir n q → Good q) ∧
        ((∃ q, Offers env files env.downloadedDir n q) ∨
          (∀ f, ¬ Claims env files env.downloadedDir n f) ∧
            (∃ q, Offers env files env.bundledDir n q) ∧
              ∀ q, Offers env files env.bundledDir n q → Good q) := by
  constructor
  · intro h
    -- The name is served in every order, so none leaves it out.
    have hnone : ¬ Serves env files n none := by
      intro hserves
      rcases h none hserves with ⟨q, hq, -⟩
      exact Option.some_ne_none q hq.symm
    have hgood : ∀ q, Serves env files n (some q) → Good q := by
      intro q hserves
      rcases h (some q) hserves with ⟨q', hq, hgood⟩
      rw [Option.some.inj hq]
      exact hgood
    refine ⟨fun q hq => hgood q (Serves.downloaded q hq), ?_⟩
    by_cases hd : ∃ q, Offers env files env.downloadedDir n q
    · exact Or.inl hd
    · have hfree : ∀ f, ¬ Claims env files env.downloadedDir n f :=
        fun f hf => hnone (Serves.overridden ⟨f, hf⟩ (not_exists.mp hd))
      refine Or.inr ⟨hfree, ?_, fun q hq => hgood q (Serves.bundled q hfree hq)⟩
      by_contra hb
      exact hnone (Serves.absent hfree (not_exists.mp hb))
  · rintro ⟨hgood, hrest⟩ o ho
    cases ho with
    | downloaded q hq => exact ⟨q, rfl, hgood q hq⟩
    | overridden hclaims hnone =>
        rcases hrest with ⟨q, hq⟩ | ⟨hfree, -⟩
        · exact absurd hq (hnone q)
        · exact absurd hclaims (not_exists.mpr hfree)
    | bundled q hfree hq =>
        rcases hrest with ⟨q', hq'⟩ | ⟨-, -, hb⟩
        · exact absurd hq'.claims (not_exists.mpr hfree)
        · exact ⟨q, rfl, hb q hq⟩
    | absent hfree hnone =>
        rcases hrest with ⟨q', hq'⟩ | ⟨-, ⟨q, hq⟩, -⟩
        · exact absurd hq'.claims (not_exists.mpr hfree)
        · exact absurd hq (hnone q)

/-- Loading a file leaves the bundled paths alone. -/
theorem getBundledPath_foldl_load (l : List (PackageParseResult F)) (store : PackageStore F)
    (n : String) :
    (l.foldl (loadParsedPackage env) store).getBundledPath n = store.getBundledPath n := by
  induction l generalizing store with
  | nil => rfl
  | cons parsed l ih =>
      rw [List.foldl_cons, ih, loadParsedPackage]
      split <;> rfl

theorem getBundledPath_loadBundledPackage (overridden : List String) (store : PackageStore F)
    (parsed : PackageParseResult F) (n : String) :
    (loadBundledPackage env overridden store parsed).getBundledPath n =
      if n = parsed.packageName then some parsed.path else store.getBundledPath n := by
  rw [← PackageStore.getBundledPath_insertBundledPath, loadBundledPackage]
  split
  · rfl
  · exact getBundledPath_foldl_load [parsed] _ n

variable (env) in
theorem getBundledPath_foldl_loadBundled (overridden : List String)
    (l : List (PackageParseResult F)) (store : PackageStore F) (n : String) :
    (∃ parsed ∈ l, parsed.packageName = n ∧
        (l.foldl (loadBundledPackage env overridden) store).getBundledPath n =
          some parsed.path) ∨
      (∀ parsed ∈ l, parsed.packageName ≠ n) ∧
        (l.foldl (loadBundledPackage env overridden) store).getBundledPath n =
          store.getBundledPath n := by
  induction l using List.reverseRecOn generalizing store with
  | nil => exact Or.inr ⟨fun _ h => absurd h List.not_mem_nil, rfl⟩
  | append_singleton l parsed ih =>
      rw [List.foldl_append, List.foldl_cons, List.foldl_nil, getBundledPath_loadBundledPackage]
      -- The last file of the name is the one that is recorded.
      by_cases hn : n = parsed.packageName
      · rw [if_pos hn]
        exact Or.inl ⟨parsed, List.mem_append_right l List.mem_cons_self, hn.symm, rfl⟩
      · rw [if_neg hn]
        rcases ih store with ⟨q, hq, hname, hget⟩ | ⟨hnone, hget⟩
        · exact Or.inl ⟨q, List.mem_append_left _ hq, hname, hget⟩
        · refine Or.inr ⟨fun q hq => ?_, hget⟩
          rcases List.mem_append.mp hq with hq | hq
          · exact hnone q hq
          · rw [List.mem_singleton.mp hq]
            exact fun h => hn h.symm

/-- A reload knows a path of the bundled directory for exactly the names that
    directory has. -/
theorem getBundledPath_reload {bundled downloaded : DirEntries}
    (hb : Lists files env.bundledDir bundled) (n : String) :
    (∃ f, (reloadPackages env files bundled downloaded).getBundledPath n =
        some ⟨env.bundledDir, f⟩ ∧ Claims env files env.bundledDir n f) ∨
      (reloadPackages env files bundled downloaded).getBundledPath n = none ∧
        ∀ f, ¬ Claims env files env.bundledDir n f := by
  -- Loading the downloaded packages writes no bundled path.
  have hfold : (reloadPackages env files bundled downloaded).getBundledPath n =
      ((parsePackagesFromDir env files env.bundledDir bundled).foldl (loadBundledPackage env
        ((parsePackagesFromDir env files env.downloadedDir downloaded).map
          PackageParseResult.packageName)) .empty).getBundledPath n :=
    getBundledPath_foldl_load _ _ n
  rw [hfold]
  rcases getBundledPath_foldl_loadBundled env
      ((parsePackagesFromDir env files env.downloadedDir downloaded).map
        PackageParseResult.packageName) (parsePackagesFromDir env files env.bundledDir bundled)
      .empty n with ⟨parsed, hmem, hname, hget⟩ | ⟨hnone, hget⟩
  · left
    rcases (exists_parsed_iff hb (P := fun q => q = parsed)).mp ⟨parsed, hmem, hname, rfl⟩ with
      ⟨f, hf, hparsed⟩
    exact ⟨f, by rw [hget, ← hparsed]; rfl, hf⟩
  · right
    refine ⟨hget, fun f hf => ?_⟩
    rcases (exists_parsed_iff hb (P := fun _ => True)).mpr ⟨f, hf, trivial⟩ with
      ⟨parsed, hmem, hname, -⟩
    exact hnone parsed hmem hname

/-- What a load adds to the broken packages is at the path of its file. -/
theorem getBroken_loadParsedPackage {store : PackageStore F} {parsed : PackageParseResult F}
    {n : String} {info : BrokenPackageInfo}
    (h : (loadParsedPackage env store parsed).getBroken n = some info) :
    info.packagePath = parsed.path ∨ store.getBroken n = some info := by
  rw [loadParsedPackage] at h
  split at h
  · exact Or.inr h
  · rw [PackageStore.getBroken_insertBroken] at h
    split at h
    · rw [← Option.some.inj h]
      exact Or.inl rfl
    · exact Or.inr h

theorem getBroken_foldl {load : PackageStore F → PackageParseResult F → PackageStore F}
    {n : String} {info : BrokenPackageInfo}
    (hload : ∀ store parsed, (load store parsed).getBroken n = some info →
      info.packagePath = parsed.path ∨ store.getBroken n = some info)
    (l : List (PackageParseResult F)) {store : PackageStore F}
    (h : (l.foldl load store).getBroken n = some info) :
    (∃ parsed ∈ l, info.packagePath = parsed.path) ∨ store.getBroken n = some info := by
  induction l generalizing store with
  | nil => exact Or.inr h
  | cons parsed l ih =>
      rcases ih h with ⟨q, hq, hpath⟩ | hrest
      · exact Or.inl ⟨q, List.mem_cons_of_mem parsed hq, hpath⟩
      · exact (hload store parsed hrest).imp_left fun hpath =>
          ⟨parsed, List.mem_cons_self, hpath⟩

theorem parent_of_mem_parsePackagesFromDir {dir : String} {entries : DirEntries}
    {parsed : PackageParseResult F} (h : parsed ∈ parsePackagesFromDir env files dir entries) :
    parsed.path.parent = dir := by
  cases entries with
  | none => exact absurd h List.not_mem_nil
  | some entries =>
      rw [parsePackagesFromDir, List.mem_map] at h
      rcases h with ⟨path, hpath, rfl⟩
      rcases List.mem_filterMap.mp (List.mem_filter.mp hpath).1 with ⟨entry, -, hentry⟩
      cases entry with
      | error e => exact absurd hentry.symm (Option.some_ne_none path)
      | ok fileName =>
          rw [← Option.some.inj hentry]
          rfl

/-- The broken packages a reload finds are in the two directories. -/
theorem getBroken_reload {bundled downloaded : DirEntries} {n : String}
    {info : BrokenPackageInfo}
    (h : (reloadPackages env files bundled downloaded).getBroken n = some info) :
    info.packagePath.parent = env.bundledDir ∨
      info.packagePath.parent = env.downloadedDir := by
  -- An entry is about the file that was loaded, or it was there before.
  have hbundled : ∀ (overridden : List String) (store : PackageStore F)
      (parsed : PackageParseResult F),
      (loadBundledPackage env overridden store parsed).getBroken n = some info →
        info.packagePath = parsed.path ∨ store.getBroken n = some info := by
    intro overridden store parsed h
    rw [loadBundledPackage] at h
    split at h
    · exact Or.inr h
    · have hloaded := getBroken_loadParsedPackage h
      exact hloaded
  rcases getBroken_foldl (fun _ _ => getBroken_loadParsedPackage) _ h with ⟨q, hq, hpath⟩ | h
  · right
    rw [hpath]
    exact parent_of_mem_parsePackagesFromDir hq
  · left
    rcases getBroken_foldl (hbundled _) _ h with ⟨q, hq, hpath⟩ | h
    · rw [hpath]
      exact parent_of_mem_parsePackagesFromDir hq
    · exact absurd h.symm (Option.some_ne_none info)

end Served

end Manager

end Ssam
