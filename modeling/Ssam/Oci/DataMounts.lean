import Ssam.Oci.Bundle

/-!
# Mounts of Data Directories

A package declares directories that it keeps its data in. They are made below its data
root when the package gets its volume, and each is mounted into the container at the
place of its name when the bundle is made. Both read the declaration on their own. They
agree on the path below the root (`components_joinPath`), so what is mounted is under
the root and has been made.

What is mounted need not be everything. The mounts go into the list of the template, and
a template without a list gets none: the container starts without its data. Where there
is a list, a directory can be in it more than once, since nothing is compared with the
template or among the declared.

Two paths are the same here when their components are, as the paths of the language are
compared.

## Main definitions

* `isDataMount`: The mount of a declared directory.
* `noteDirs`: The directories made below the data root are noted.
* `DataMounted`: What the mounts of a spec should be.

## Theorems

* `makeBindMounts_eq_ok`: Which mounts are made.
* `ensureDataDirs_made`: Which directories are made.
* `isDataMount_bindMount`: The mount of one directory is that of another of the same path.
* `data_mounts_iff`: When every declared directory is mounted once.
* `no_mounts_in_template`: A template without a list of mounts.
-/

namespace Ssam

namespace Oci

open Lib Volume

/-- The mount binds the directory of the data root to the place of its name. -/
def isDataMount (root relative : String) (m : Mount) : Bool :=
  (m.source.any fun source => components source = components (joinPath root relative)) &&
    decide (components m.destination = components (joinPath "/" relative)) &&
    m.options.any fun options => options.any fun option => option = "bind" || option = "rbind"

/-- The path lies below the root, by its components alone. -/
def LexicallyUnder (root path : String) : Prop :=
  ∃ rest, components path = components root ++ rest ∧ rest ≠ [] ∧
    ∀ c ∈ rest, ∃ segment, c = .normal segment

/-- Answer a call, and note each directory that is made inside a data directory. -/
def noteDirs (k : DirKernel) {α : Type} (s : DataRoot × List String) :
    DirCall α → (DataRoot × List String) × α
  | .makeDataDir srcPath =>
      ((s.1, if (k.makeDataDir srcPath).isOk then s.2 ++ [srcPath] else s.2),
        k.makeDataDir srcPath)
  | c => (((k.serve s.1 c).1, s.2), (k.serve s.1 c).2)

/-- The mounts of a spec that is made from the template, for this data directory. -/
structure DataMounted {Action Rule : Type} (template config : Spec Action Rule)
    (dir : DataDirectory) : Prop where
  once : ∀ declared ∈ dir.dataDirs.getD [],
    (config.mounts.getD []).countP (isDataMount dir.path (stripRoot declared)) = 1
  keeps : template.mounts.getD [] <+: config.mounts.getD []
  under : ∀ declared ∈ dir.dataDirs.getD [],
    LexicallyUnder dir.path (joinPath dir.path (stripRoot declared))
  made : ∀ declared ∈ dir.dataDirs.getD [], ∀ (k : DirKernel) (root : DataRoot),
    (dir.ensureDataDirs.eval (noteDirs k) (root, [])).2 = .ok () →
      joinPath dir.path (stripRoot declared) ∈
        (dir.ensureDataDirs.eval (noteDirs k) (root, [])).1.2

theorem makeBindMount_eq_ok {root destPath : String} {m : Mount} :
    makeBindMount root destPath = .ok m ↔
      isSafeRelativePath (stripRoot destPath) = true ∧
        m = bindMount root (stripRoot destPath) := by
  rw [makeBindMount, ensure_bind_eq_ok, Except.ok.injEq]
  exact and_congr_right' eq_comm

/-- The mounts are those of the declared directories if all of these are safe. -/
theorem makeBindMounts_eq_ok {root : String} {dirs : List String} {mounts : List Mount} :
    makeBindMounts root dirs = .ok mounts ↔
      (∀ d ∈ dirs, isSafeRelativePath (stripRoot d) = true) ∧
        mounts = dirs.map fun d => bindMount root (stripRoot d) := by
  induction dirs generalizing mounts with
  | nil =>
      simp only [makeBindMounts, List.mapM_nil, pure, Except.pure, Except.ok.injEq,
        List.not_mem_nil, false_imp_iff, implies_true, true_and, List.map_nil]
      exact eq_comm
  | cons d dirs ih =>
      -- The first unsafe directory ends the list with an error.
      have htail : ∀ mounts, dirs.mapM (makeBindMount root) = .ok mounts ↔ _ := fun _ => ih
      simp only [makeBindMounts, List.mapM_cons, except_bind_eq_ok, makeBindMount_eq_ok, htail,
        pure, Except.pure, Except.ok.injEq, List.forall_mem_cons, List.map_cons]
      constructor
      · rintro ⟨m, ⟨hsafe, rfl⟩, ms, ⟨hall, rfl⟩, rfl⟩
        exact ⟨⟨hsafe, hall⟩, rfl⟩
      · rintro ⟨⟨hsafe, hall⟩, rfl⟩
        exact ⟨_, ⟨hsafe, rfl⟩, _, ⟨hall, rfl⟩, rfl⟩

/-- The directories that are made are those declared, if making them succeeds. -/
theorem makeDataDirs_made (k : DirKernel) (path : String) (dirs : List String)
    (s : DataRoot × List String) (h : ((makeDataDirs path dirs).eval (noteDirs k) s).2 = .ok ()) :
    ((makeDataDirs path dirs).eval (noteDirs k) s).1.2 =
      s.2 ++ dirs.map fun d => joinPath path (stripRoot d) := by
  induction dirs generalizing s with
  | nil => exact (List.append_nil s.2).symm
  | cons d dirs ih =>
      rw [makeDataDirs] at h ⊢
      -- A directory that is not safe is refused by both in the same way.
      by_cases hsafe : isSafeRelativePath (stripRoot d) = true
      · simp only [if_pos hsafe, Prog.bind_eq, Prog.eval_bind, Prog.context, Prog.eval_mapError,
          Prog.eval_try_, noteDirs] at h ⊢
        cases hmake : k.makeDataDir (joinPath path (stripRoot d)) with
        | error e =>
            rw [hmake] at h
            cases h
        | ok u =>
            simp only [hmake, mapError_ok, Except.isOk, Except.toBool, if_true] at h ⊢
            rw [ih _ h, List.map_cons, List.append_assoc]
            rfl
      · rw [if_neg hsafe] at h
        cases h

/-- The directories made for a data directory, if making them succeeds. -/
theorem ensureDataDirs_made (k : DirKernel) (dir : DataDirectory) (root : DataRoot)
    (h : (dir.ensureDataDirs.eval (noteDirs k) (root, [])).2 = .ok ()) :
    (dir.ensureDataDirs.eval (noteDirs k) (root, [])).1.2 =
      (dir.dataDirs.getD []).map fun d => joinPath dir.path (stripRoot d) := by
  unfold DataDirectory.ensureDataDirs at h ⊢
  cases hdirs : dir.dataDirs with
  | none => rfl
  | some dirs =>
      rw [hdirs] at h
      exact makeDataDirs_made k dir.path dirs (root, []) h

/-- A safe path is below the root it is joined to. -/
theorem lexicallyUnder_joinPath (root : String) {rel : String}
    (h : isSafeRelativePath rel = true) : LexicallyUnder root (joinPath root rel) := by
  refine ⟨components rel, components_joinPath root h, fun hnil => ?_, (components_of_safe h).2⟩
  rw [isSafeRelativePath, hnil] at h
  cases h

/-- The mount of a declared directory is that of another exactly if their paths are the
    same. -/
theorem isDataMount_bindMount (root : String) {rel other : String}
    (hrel : isSafeRelativePath rel = true) (hother : isSafeRelativePath other = true) :
    isDataMount root rel (bindMount root other) = true ↔ components other = components rel := by
  have hbind : ((bindMount root other).options.any fun options => options.any fun option =>
      option = "bind" || option = "rbind") = true := rfl
  -- Source and destination are compared as paths, so both come down to the components.
  rw [isDataMount, hbind, Bool.and_true, Bool.and_eq_true, decide_eq_true_eq]
  simp only [bindMount, Option.any_some, decide_eq_true_eq, components_joinPath _ hrel,
    components_joinPath _ hother, List.append_cancel_left_eq, and_self]

/-- With a list of mounts in the template, the written spec has the template's and those
    of the declared directories. -/
theorem mounts_mountDataDirs {Action Rule : Type} (template : Spec Action Rule)
    {dir : DataDirectory}
    (hsafe : ∀ d ∈ dir.dataDirs.getD [], isSafeRelativePath (stripRoot d) = true) :
    (mountDataDirs template (some (DataMountPaths.new dir))).mounts =
      template.mounts.map fun mounts =>
        mounts ++ (dir.dataDirs.getD []).map fun d => bindMount dir.path (stripRoot d) := by
  have hmake : makeBindMounts (DataMountPaths.new dir).root (DataMountPaths.new dir).dirs = .ok _ :=
    makeBindMounts_eq_ok.mpr ⟨hsafe, rfl⟩
  simp only [mountDataDirs, hmake, foldl_appendMount]
  rfl

section Mounts

variable {Action Rule : Type} {crates : Crates Action Rule} {host : BundleHost}

/-- A declared directory is mounted once if the template has a list of mounts, has no
    such mount in it, and the directory is declared once. -/
theorem countP_mounts_eq_one_iff (template : Spec Action Rule) {dir : DataDirectory}
    (hsafe : ∀ d ∈ dir.dataDirs.getD [], isSafeRelativePath (stripRoot d) = true)
    {declared : String} (hdeclared : declared ∈ dir.dataDirs.getD []) :
    ((mountDataDirs template (some (DataMountPaths.new dir))).mounts.getD []).countP
        (isDataMount dir.path (stripRoot declared)) = 1 ↔
      ∃ mounts, template.mounts = some mounts ∧
        (∀ m ∈ mounts, isDataMount dir.path (stripRoot declared) m = false) ∧
        (dir.dataDirs.getD []).countP (fun d => components (stripRoot d) =
          components (stripRoot declared)) = 1 := by
  rw [mounts_mountDataDirs template hsafe]
  cases template.mounts with
  | none => exact iff_of_false Nat.zero_ne_one (by rintro ⟨mounts, ⟨⟩, -⟩)
  | some mounts =>
      -- Among the mounts that are added, one counts where its path is that of the directory.
      have hadded : ((dir.dataDirs.getD []).map fun d => bindMount dir.path (stripRoot d)).countP
          (isDataMount dir.path (stripRoot declared)) =
          (dir.dataDirs.getD []).countP fun d => components (stripRoot d) =
            components (stripRoot declared) := by
        rw [List.countP_map]
        refine List.countP_congr fun d hd => ?_
        rw [Function.comp_apply, decide_eq_true_eq]
        exact isDataMount_bindMount dir.path (hsafe declared hdeclared) (hsafe d hd)
      have hpos : 0 < (dir.dataDirs.getD []).countP fun d => components (stripRoot d) =
          components (stripRoot declared) :=
        List.countP_pos_iff.mpr ⟨declared, hdeclared, decide_eq_true rfl⟩
      have hnone : mounts.countP (isDataMount dir.path (stripRoot declared)) = 0 ↔
          ∀ m ∈ mounts, isDataMount dir.path (stripRoot declared) m = false := by
        rw [List.countP_eq_zero]
        exact forall₂_congr fun m _ => Bool.eq_false_iff.symm
      rw [Option.map_some, Option.getD_some, List.countP_append, hadded]
      constructor
      · intro hsum
        exact ⟨mounts, rfl, hnone.mp (by omega), by omega⟩
      · rintro ⟨mounts', heq, hno, hone⟩
        rw [← Option.some.inj heq] at hno
        rw [hnone.mpr hno, hone]

/-- The written spec has for each declared directory one mount of it, exactly if for each
    the template has a list of mounts with no mount of it yet, and it is declared once. The
    rest holds anyway: the template's mounts are kept, and the sources are under the data
    root and are the directories that are made there. -/
theorem data_mounts_iff {spec : ContainerBundleSpec Action Rule} {dir : DataDirectory}
    {bundle : TransientRuntimeConfig Action Rule}
    (hsafe : ∀ d ∈ dir.dataDirs.getD [], isSafeRelativePath (stripRoot d) = true)
    (hdir : spec.dataMounts = some (DataMountPaths.new dir))
    (hnew : TransientRuntimeConfig.new crates host spec = .ok bundle) :
    DataMounted spec.ociTemplate bundle.config dir ↔
      ∀ declared ∈ dir.dataDirs.getD [], ∃ mounts, spec.ociTemplate.mounts = some mounts ∧
        (∀ m ∈ mounts, isDataMount dir.path (stripRoot declared) m = false) ∧
        (dir.dataDirs.getD []).countP (fun d => components (stripRoot d) =
          components (stripRoot declared)) = 1 := by
  rcases new_eq_ok.mp hnew with ⟨path, rootfsPath, namespaces, -, -, -, -, rfl⟩
  have hmounts := mounts_runtimeSpec crates host spec rootfsPath namespaces
  rw [hdir] at hmounts
  constructor
  · intro h declared hdeclared
    have honce := h.once declared hdeclared
    rw [hmounts] at honce
    exact (countP_mounts_eq_one_iff spec.ociTemplate hsafe hdeclared).mp honce
  · intro h
    refine ⟨fun declared hdeclared => ?_, ?_, fun declared hdeclared =>
      lexicallyUnder_joinPath dir.path (hsafe declared hdeclared), fun declared hdeclared k root
      hok => ?_⟩
    · rw [hmounts]
      exact (countP_mounts_eq_one_iff spec.ociTemplate hsafe hdeclared).mpr (h declared hdeclared)
    · rw [hmounts, mounts_mountDataDirs spec.ociTemplate hsafe]
      cases spec.ociTemplate.mounts with
      | none => exact List.nil_prefix
      | some mounts => exact List.prefix_append _ _
    · rw [ensureDataDirs_made k dir root hok]
      exact List.mem_map_of_mem hdeclared

end Mounts

/-! ### Two templates -/

/-- The data directory of a package that declares one directory. -/
def appData : DataDirectory := ⟨"/package-data/app", some ["/var/data"], none⟩

/-- The mount of the process file system. -/
def procMount : Mount := ⟨"/proc", some "proc", some "proc", none⟩

/-- The inputs for that directory, with these mounts in the template. -/
def specWith (mounts : Option (List Mount)) : ContainerBundleSpec Unit Unit where
  ociTemplate := ⟨none, none, none, mounts⟩
  seccompPolicy := none
  macEnabled := false
  networkMode := .host
  cgroupsPath := "system.slice"
  packageName := "app"
  mountPoint := "/run/app"
  dataMounts := some (DataMountPaths.new appData)
  bridgeNetnsPath := none

def plainCrates : Crates Unit Unit where
  parseJson _ := .error ["expected value at line 1 column 1"]
  decodeSeccomp _ := .error ["missing field `defaultAction`"]
  parseArch _ := none
  defaultLinux := ⟨none, none, none⟩
  defaultProcess := ⟨none⟩

theorem appData_safe :
    ∀ d ∈ appData.dataDirs.getD [], isSafeRelativePath (stripRoot d) = true :=
  List.forall_mem_singleton.mpr (by decide)

/-- A template that mounts the process file system. -/
theorem data_mounts_proc :
    ∃ bundle, TransientRuntimeConfig.new plainCrates BundleHost.fine (specWith (some [procMount])) =
        .ok bundle ∧
      DataMounted (specWith (some [procMount])).ociTemplate bundle.config appData := by
  have hnew : TransientRuntimeConfig.new plainCrates BundleHost.fine
      (specWith (some [procMount])) = .ok _ := rfl
  refine ⟨_, hnew, (data_mounts_iff appData_safe rfl hnew).mpr ?_⟩
  refine List.forall_mem_singleton.mpr ⟨[procMount], rfl, List.forall_mem_singleton.mpr ?_, ?_⟩
  · decide
  · decide

/-- A template without a list of mounts: the declared directory is not mounted. -/
theorem no_mounts_in_template :
    (∀ d ∈ appData.dataDirs.getD [], isSafeRelativePath (stripRoot d) = true) ∧
      ∃ bundle, TransientRuntimeConfig.new plainCrates BundleHost.fine (specWith none) =
          .ok bundle ∧
        ¬ DataMounted (specWith none).ociTemplate bundle.config appData := by
  refine ⟨appData_safe, _, rfl, fun h => ?_⟩
  exact Nat.zero_ne_one (h.once "/var/data" List.mem_cons_self)

end Oci

end Ssam
