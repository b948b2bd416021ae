import Ssam.Lib.Calls
import Ssam.Volume.DataDirectory

/-!
# What is in the Data Directories

The data root with what lies in its directories, and the calls about directories
carried out on it.

A directory has its attributes and a tree of files and directories, each under its
path in the directory. A removal takes the directory with all that is in it; one that
fails may have removed a part. Nothing else about a directory takes anything from it.

## Main definitions

* `Disk`: The data directories, with what is in them.
* `Disk.nodeAt`: What is at a path in a data directory.
* `DiskKernel.serve`: A call carried out on the disk.
* `Grows`: Nothing is lost, and only directories come to it.

## Theorems

* `serve_root`: Without the trees the disk is the data root.
* `grows_createDataDirectory`: Creating a data directory takes nothing away.
* `trees_removeDataDirectory`: What removing one leaves.
-/

namespace Ssam

namespace Volume

open Lib Function

/-- A file, with what is in it, or a directory. -/
inductive Node (B : Type) where
  | file (content : B)
  | directory
  deriving DecidableEq

/-- A data directory with what is in it, by paths that begin there. -/
structure DataDir (B : Type) where
  attr : DirAttr
  tree : HashMap String (Node B)

/-- The data directories by their paths. -/
abbrev Disk (B : Type) := String → Option (DataDir B)

variable {B : Type}

/-- The data root without what is in its directories. -/
def Disk.root (disk : Disk B) : DataRoot := fun path => (disk path).map DataDir.attr

/-- What is at `rel` in the data directory `path`. -/
def Disk.nodeAt (disk : Disk B) (path rel : String) : Option (Node B) :=
  (disk path).bind fun dir => dir.tree.get rel

/-- The path as it is seen from the directory, if it leads into it. -/
def relativeTo (dir path : String) : Option String :=
  let start := dir.toList ++ ['/']
  if start.isPrefixOf path.toList then some (String.ofList (path.toList.drop start.length))
  else none

/-- The directories on the way to a path, with the path itself. -/
def leading (relativeDir : String) : List String :=
  ((((segments relativeDir).filter fun segment => segment ≠ "" ∧ segment ≠ ".").inits).drop 1).map
    ("/".intercalate ·)

/-- The directory once the path leads to a directory in it. -/
def DataDir.makeDirs (dir : DataDir B) (relativeDir : String) : DataDir B :=
  { dir with tree := dir.tree.insertMissing .directory (leading relativeDir) }

/-- What the calls of one operation are answered. -/
structure DiskKernel extends DirKernel where
  /-- What a removal that fails has not removed. -/
  spares : String → Bool

/-- Every call is carried out. -/
def DiskKernel.fine : DiskKernel where
  makeDirectory := .ok ()
  openDir := .ok ()
  getFlags := .ok ()
  setFlags := .ok ()
  getXattr := .ok ()
  setXattr := .ok ()
  setBlockLimits := .ok ()
  makeDataDir _ := .ok ()
  removeDirAll := .ok ()
  spares _ := true

/-- Remove a directory with all that is in it. -/
def DiskKernel.removeTree (k : DiskKernel) (disk : Disk B) (path : String) :
    Disk B × Except Error Unit :=
  match k.removeDirAll, disk path with
  | .error e, none => (disk, .error e)
  | .error e, some dir =>
      (update disk path (some { dir with tree := dir.tree.filterKeys k.spares }), .error e)
  | .ok (), none => (disk, .error notFound)
  | .ok (), some _ => (update disk path none, .ok ())

/-- Answer a call on an existing directory if the kernel has no error for it. -/
def onDataDir {α : Type} (disk : Disk B) (path : String) (outcome : Except Error Unit)
    (act : DataDir B → Disk B × α) : Disk B × Except Error α :=
  match outcome, disk path with
  | .error e, _ => (disk, .error e)
  | .ok (), none => (disk, .error notFound)
  | .ok (), some dir => ((act dir).1, .ok (act dir).2)

/-- Answer a call. That a file is in the way of a directory is one of the errors of
    the kernel. -/
def DiskKernel.serve (k : DiskKernel) {α : Type} (disk : Disk B) : DirCall α → Disk B × α
  | .makeDirectory path =>
      match k.makeDirectory with
      | .error e => (disk, .error e)
      -- A directory that is there keeps what is in it.
      | .ok () => (update disk path (some ((disk path).getD ⟨⟨false, 0⟩, ∅⟩)), .ok ())
  | .openDir path => onDataDir disk path k.openDir fun _ => (disk, ())
  | .getFlags path => onDataDir disk path k.getFlags fun dir => (disk, dir.attr.inherit)
  | .setFlags path inherit => onDataDir disk path k.setFlags fun dir =>
      (update disk path (some { dir with attr := { dir.attr with inherit := inherit } }), ())
  | .getXattr path => onDataDir disk path k.getXattr fun dir => (disk, dir.attr.projid)
  | .setXattr path projid => onDataDir disk path k.setXattr fun dir =>
      (update disk path (some { dir with attr := { dir.attr with projid := projid } }), ())
  | .setBlockLimits _ _ _ => (disk, k.setBlockLimits)
  | .makeDataDir srcPath =>
      match k.makeDataDir srcPath with
      | .error e => (disk, .error e)
      | .ok () => (fun path => (disk path).map fun dir =>
          (relativeTo path srcPath).elim dir dir.makeDirs, .ok ())
  | .removeDirAll path => k.removeTree disk path

section Root

theorem root_update (disk : Disk B) (path : String) (dir : Option (DataDir B)) :
    Disk.root (update disk path dir) = update disk.root path (dir.map DataDir.attr) := by
  funext q
  unfold Disk.root
  by_cases hq : q = path
  · rw [hq, update_self, update_self]
  · rw [update_of_ne hq, update_of_ne hq]

theorem onDataDir_root {α : Type} (disk : Disk B) (path : String) (outcome : Except Error Unit)
    {act : DataDir B → Disk B × α} {act' : DirAttr → DataRoot × α}
    (h : ∀ dir, ((act dir).1.root, (act dir).2) = act' dir.attr) :
    ((onDataDir disk path outcome act).1.root, (onDataDir disk path outcome act).2) =
      onDir disk.root path outcome act' := by
  cases outcome with
  | error e => rfl
  | ok _ =>
      have hroot : disk.root path = (disk path).map DataDir.attr := rfl
      cases hdir : disk path with
      | none =>
          rw [hdir] at hroot
          simp only [onDataDir, onDir, hdir, hroot, Option.map_none]
      | some dir =>
          rw [hdir] at hroot
          simp only [onDataDir, onDir, hdir, hroot, Option.map_some, ← h dir]

/-- Without the trees the disk answers as the data root does. -/
theorem serve_root (k : DiskKernel) {α : Type} (disk : Disk B) (c : DirCall α) :
    ((k.serve disk c).1.root, (k.serve disk c).2) = k.toDirKernel.serve disk.root c := by
  cases c with
  | makeDirectory path =>
      cases hmake : k.makeDirectory with
      | error e => simp only [DiskKernel.serve, DirKernel.serve, hmake]
      | ok _ =>
          simp only [DiskKernel.serve, DirKernel.serve, hmake, root_update, Option.map_some]
          -- A directory that is made anew has no attributes set.
          have hattr : ((disk path).getD ⟨⟨false, 0⟩, ∅⟩).attr =
              (disk.root path).getD ⟨false, 0⟩ := by
            unfold Disk.root
            cases disk path <;> rfl
          rw [hattr]
  | openDir path => exact onDataDir_root disk path k.openDir fun _ => rfl
  | getFlags path => exact onDataDir_root disk path k.getFlags fun _ => rfl
  | setFlags path inherit =>
      exact onDataDir_root disk path k.setFlags fun _ => by rw [root_update]; rfl
  | getXattr path => exact onDataDir_root disk path k.getXattr fun _ => rfl
  | setXattr path projid =>
      exact onDataDir_root disk path k.setXattr fun _ => by rw [root_update]; rfl
  | setBlockLimits id soft hard => rfl
  | makeDataDir srcPath =>
      cases hmake : k.makeDataDir srcPath with
      | error e => simp only [DiskKernel.serve, DirKernel.serve, hmake]
      | ok _ =>
          simp only [DiskKernel.serve, DirKernel.serve, hmake, Prod.mk.injEq, and_true]
          funext path
          -- Directories inside change no attribute of the root.
          have hattr : ∀ dir : DataDir B,
              ((relativeTo path srcPath).elim dir dir.makeDirs).attr = dir.attr := by
            intro dir
            cases relativeTo path srcPath <;> rfl
          dsimp only [Disk.root]
          cases disk path with
          | none => rfl
          | some dir => exact congrArg some (hattr dir)
  | removeDirAll path =>
      have hroot : disk.root path = (disk path).map DataDir.attr := rfl
      cases hremove : k.removeDirAll with
      | error e =>
          cases hdir : disk path with
          | none => simp only [DiskKernel.serve, DiskKernel.removeTree, DirKernel.serve, onDir,
              hremove, hdir]
          -- A removal that stops half way leaves the directory and its attributes.
          | some dir =>
              rw [hdir] at hroot
              simp only [DiskKernel.serve, DiskKernel.removeTree, DirKernel.serve, onDir,
                hremove, hdir, root_update, Option.map_some]
              rw [← Option.map_some (f := DataDir.attr), ← hroot, update_eq_self]
      | ok _ =>
          cases hdir : disk path with
          | none =>
              rw [hdir] at hroot
              simp only [DiskKernel.serve, DiskKernel.removeTree, DirKernel.serve, onDir,
                hremove, hdir, hroot, Option.map_none]
          | some dir =>
              rw [hdir] at hroot
              simp only [DiskKernel.serve, DiskKernel.removeTree, DirKernel.serve, onDir,
                hremove, hdir, hroot, Option.map_some, root_update, Option.map_none]

/-- What is done to the disk is done to the data root. -/
theorem eval_root (k : DiskKernel) {α : Type} (p : DirProg α) (disk : Disk B) :
    ((p.eval k.serve disk).1.root, (p.eval k.serve disk).2) =
      p.eval k.toDirKernel.serve disk.root :=
  Prog.eval_sim k.serve Disk.root (fun disk c => serve_root k disk c) p disk

end Root

/-- The trees of the data directories. -/
def Disk.trees (disk : Disk B) : String → Option (HashMap String (Node B)) :=
  fun path => (disk path).map DataDir.tree

theorem nodeAt_eq (disk : Disk B) (path rel : String) :
    disk.nodeAt path rel = (disk.trees path).bind fun tree => tree.get rel := by
  unfold Disk.nodeAt Disk.trees
  cases disk path <;> rfl

theorem nodeAt_congr {disk disk' : Disk B} {path : String} (h : disk'.trees path = disk.trees path)
    (rel : String) : disk'.nodeAt path rel = disk.nodeAt path rel := by
  rw [nodeAt_eq, nodeAt_eq, h]

theorem trees_update (disk : Disk B) (path : String) (dir : Option (DataDir B)) :
    Disk.trees (update disk path dir) = update disk.trees path (dir.map DataDir.tree) := by
  funext q
  unfold Disk.trees
  by_cases hq : q = path
  · rw [hq, update_self, update_self]
  · rw [update_of_ne hq, update_of_ne hq]

/-- Nothing is lost, and what comes to the disk is no file. -/
structure Grows (disk disk' : Disk B) : Prop where
  keeps : ∀ path rel node, disk.nodeAt path rel = some node → disk'.nodeAt path rel = some node
  adds : ∀ path rel b, disk'.nodeAt path rel = some (.file b) →
    disk.nodeAt path rel = some (.file b)

theorem Grows.of_trees {disk disk' : Disk B} (h : disk'.trees = disk.trees) : Grows disk disk' where
  keeps path rel node hnode := by rw [nodeAt_congr (congrFun h path), hnode]
  adds path rel b hnode := by rw [← nodeAt_congr (congrFun h path), hnode]

theorem Grows.refl (disk : Disk B) : Grows disk disk := Grows.of_trees rfl

theorem Grows.trans {disk disk' disk'' : Disk B} (h : Grows disk disk') (h' : Grows disk' disk'') :
    Grows disk disk'' where
  keeps path rel node hnode := h'.keeps path rel node (h.keeps path rel node hnode)
  adds path rel b hnode := h.adds path rel b (h'.adds path rel b hnode)

/-- A directory that grows lets the disk grow. -/
theorem Grows.of_get {disk disk' : Disk B}
    (h : ∀ path rel, disk'.nodeAt path rel = disk.nodeAt path rel ∨
      disk.nodeAt path rel = none ∧ disk'.nodeAt path rel = some .directory) :
    Grows disk disk' where
  keeps path rel node hnode := by
    rcases h path rel with hsame | ⟨hnone, -⟩
    · rw [hsame, hnode]
    · exact absurd (hnode.symm.trans hnone) (Option.some_ne_none node)
  adds path rel b hnode := by
    rcases h path rel with hsame | ⟨-, hdir⟩
    · rw [← hsame, hnode]
    · exact absurd (hdir.symm.trans hnode) (by simp only [Option.some.injEq, reduceCtorEq,
        not_false_eq_true])

section Calls

/-- The call is about the attributes of directories. -/
def aboutAttributes : {β : Type} → DirCall β → Prop
  | _, .makeDirectory _ => False
  | _, .makeDataDir _ => False
  | _, .removeDirAll _ => False
  | _, _ => True

/-- The call removes nothing. -/
def removesNothing : {β : Type} → DirCall β → Prop
  | _, .removeDirAll _ => False
  | _, _ => True

theorem removesNothing_of_aboutAttributes {β : Type} (c : DirCall β) (h : aboutAttributes c) :
    removesNothing c := by
  cases c with
  | removeDirAll path => exact h
  | _ => trivial

theorem onDataDir_trees {α : Type} (disk : Disk B) (path : String) (outcome : Except Error Unit)
    {act : DataDir B → Disk B × α}
    (h : ∀ dir, disk path = some dir → (act dir).1.trees = disk.trees) :
    (onDataDir disk path outcome act).1.trees = disk.trees := by
  cases outcome with
  | error e => rfl
  | ok _ =>
      cases hdir : disk path with
      | none => simp only [onDataDir, hdir]
      | some dir =>
          simp only [onDataDir, hdir]
          exact h dir hdir

/-- A directory with other attributes. -/
theorem trees_update_attr {disk : Disk B} {path : String} {dir : DataDir B}
    (h : disk path = some dir) (attr : DirAttr) :
    Disk.trees (update disk path (some { dir with attr := attr })) = disk.trees := by
  have htree : disk.trees path = some dir.tree := by rw [Disk.trees, h, Option.map_some]
  rw [trees_update, Option.map_some, ← htree, update_eq_self]

/-- What is about attributes leaves the trees as they are. -/
theorem trees_serve (k : DiskKernel) {α : Type} {disk : Disk B} {c : DirCall α}
    (h : aboutAttributes c) : (k.serve disk c).1.trees = disk.trees := by
  cases c with
  | makeDirectory path => exact absurd h not_false
  | openDir path => exact onDataDir_trees disk path k.openDir fun _ _ => rfl
  | getFlags path => exact onDataDir_trees disk path k.getFlags fun _ _ => rfl
  | setFlags path inherit =>
      exact onDataDir_trees disk path k.setFlags fun _ hdir => trees_update_attr hdir _
  | getXattr path => exact onDataDir_trees disk path k.getXattr fun _ _ => rfl
  | setXattr path projid =>
      exact onDataDir_trees disk path k.setXattr fun _ hdir => trees_update_attr hdir _
  | setBlockLimits id soft hard => rfl
  | makeDataDir srcPath => exact absurd h not_false
  | removeDirAll path => exact absurd h not_false

theorem nodeAt_makeDirs (dir : DataDir B) (relativeDir rel : String) :
    (dir.makeDirs relativeDir).tree.get rel = dir.tree.get rel ∨
      dir.tree.get rel = none ∧ (dir.makeDirs relativeDir).tree.get rel = some .directory :=
  HashMap.get_insertMissing _ _ _ _

/-- A call that removes nothing lets the disk grow at most. -/
theorem grows_serve (k : DiskKernel) {α : Type} {disk : Disk B} {c : DirCall α}
    (h : removesNothing c) : Grows disk (k.serve disk c).1 := by
  cases c with
  | makeDirectory path =>
      cases hmake : k.makeDirectory with
      | error e =>
          simp only [DiskKernel.serve, hmake]
          exact Grows.refl disk
      | ok _ =>
          simp only [DiskKernel.serve, hmake]
          refine Grows.of_get fun q rel => Or.inl ?_
          unfold Disk.nodeAt
          -- Where there was a directory already nothing changes.
          by_cases hq : q = path
          · rw [hq, update_self]
            cases disk path <;> rfl
          · rw [update_of_ne hq]
  | makeDataDir srcPath =>
      cases hmake : k.makeDataDir srcPath with
      | error e =>
          simp only [DiskKernel.serve, hmake]
          exact Grows.refl disk
      | ok _ =>
          simp only [DiskKernel.serve, hmake]
          refine Grows.of_get fun q rel => ?_
          dsimp only [Disk.nodeAt]
          cases disk q with
          | none => exact Or.inl rfl
          | some dir =>
              cases relativeTo q srcPath with
              | none => exact Or.inl rfl
              | some relativeDir => exact nodeAt_makeDirs dir relativeDir rel
  -- The others are about attributes.
  | openDir path => exact Grows.of_trees (trees_serve k trivial)
  | getFlags path => exact Grows.of_trees (trees_serve k trivial)
  | setFlags path inherit => exact Grows.of_trees (trees_serve k trivial)
  | getXattr path => exact Grows.of_trees (trees_serve k trivial)
  | setXattr path projid => exact Grows.of_trees (trees_serve k trivial)
  | setBlockLimits id soft hard => exact Grows.refl disk
  | removeDirAll path => exact absurd h not_false

theorem only_setBlockLimit (dir : DataDirectory) (enabled : Bool) :
    (dir.setBlockLimit enabled).Only aboutAttributes := by
  unfold DataDirectory.setBlockLimit
  cases dir.quotaInfo with
  | none => trivial
  | some quota =>
      -- Each of the two attributes is read, and written if it differs.
      have hinherit : (setProjInheritance dir.path enabled).Only aboutAttributes := by
        refine Prog.only_bind (Prog.only_try_ trivial) fun current => ?_
        dsimp only
        split
        · trivial
        · exact Prog.only_context (Prog.only_try_ trivial)
      have hprojid : ∀ id, (setProjid dir.path id).Only aboutAttributes := by
        intro id
        refine Prog.only_bind (Prog.only_try_ trivial) fun projid => ?_
        split
        · exact Prog.only_try_ trivial
        · trivial
      refine Prog.only_bind (Prog.only_context (Prog.only_context ?_)) fun _ => ?_
      · refine Prog.only_bind (Prog.only_context (Prog.only_try_ trivial)) fun _ => ?_
        exact Prog.only_bind (Prog.only_context hinherit) fun _ => Prog.only_context (hprojid _)
      · exact Prog.only_context (Prog.only_context (Prog.only_try_ trivial))

theorem only_makeDataDirs (path : String) (dirs : List String) :
    (makeDataDirs path dirs).Only removesNothing := by
  induction dirs with
  | nil => trivial
  | cons dir dirs ih =>
      rw [makeDataDirs]
      dsimp only
      split
      · exact Prog.only_bind
          (Prog.only_context (Prog.only_context (Prog.only_try_ trivial))) fun _ => ih
      · trivial

/-- Creating a data directory removes nothing. -/
theorem only_createDataDirectory (mgr : DataDirectoryManager) (dirMeta : DataDirMetadata) :
    (mgr.createDataDirectory dirMeta).2.Only removesNothing := by
  -- With or without a quota the same steps are taken.
  have hcreate : ∀ quotaInfo : Option QuotaInfo,
      (do
        ((makeDirectory dirMeta.path).context
          s!"Failed to create data directory: {dirMeta.path}").context
            s!"Failed to create data directory for package: {dirMeta.packageName}"
        let dir : DataDirectory := ⟨dirMeta.path, parseDataDirs dirMeta.dataDirs, quotaInfo⟩
        (dir.setBlockLimit true).context
          s!"Failed to set block limit for data directory: {dirMeta.path}"
        dir.ensureDataDirs.context
          s!"Failed to create data directory for package: {dirMeta.packageName}"
        pure dir : DirProg DataDirectory).Only removesNothing := by
    intro quotaInfo
    refine Prog.only_bind (Prog.only_context (Prog.only_context
      (Prog.only_context (Prog.only_try_ trivial)))) fun _ => ?_
    refine Prog.only_bind (Prog.only_context (Prog.only_mono
      removesNothing_of_aboutAttributes (only_setBlockLimit _ true))) fun _ => ?_
    refine Prog.only_bind (Prog.only_context ?_) fun _ => trivial
    unfold DataDirectory.ensureDataDirs
    split
    · trivial
    · exact only_makeDataDirs _ _
  unfold DataDirectoryManager.createDataDirectory
  dsimp only
  split
  · split
    · exact hcreate _
    · trivial
  · exact hcreate _

/-- Creating a data directory takes nothing away. -/
theorem grows_createDataDirectory (k : DiskKernel) (mgr : DataDirectoryManager)
    (dirMeta : DataDirMetadata) (disk : Disk B) :
    Grows disk ((mgr.createDataDirectory dirMeta).2.eval k.serve disk).1 :=
  Prog.eval_of_only k.serve (I := fun s => Grows disk s)
    (fun _ _ hc hs => hs.trans (grows_serve k hc)) (only_createDataDirectory mgr dirMeta)
    (Grows.refl disk)

end Calls

section Remove

/-- What a removal leaves of a tree. -/
def DiskKernel.left (k : DiskKernel) (tree : Option (HashMap String (Node B))) :
    Option (HashMap String (Node B)) :=
  match k.removeDirAll with
  | .ok () => none
  | .error _ => tree.map (HashMap.filterKeys k.spares)

/-- What is left is what was spared by a removal that failed. -/
theorem left_eq_some (k : DiskKernel) {tree : Option (HashMap String (Node B))} {rel : String}
    {node : Node B} :
    ((k.left tree).bind fun tree => tree.get rel) = some node ↔
      k.removeDirAll ≠ .ok () ∧ k.spares rel = true ∧
        (tree.bind fun tree => tree.get rel) = some node := by
  unfold DiskKernel.left
  cases k.removeDirAll with
  | ok _ => simp only [Option.bind_none, reduceCtorEq, ne_eq, not_true_eq_false, false_and]
  | error e =>
      cases tree with
      | none => simp only [Option.map_none, Option.bind_none, reduceCtorEq, and_false]
      | some tree =>
          simp only [Option.map_some, Option.bind_some, HashMap.get_filterKeys, ne_eq,
            reduceCtorEq, not_false_eq_true, true_and]
          by_cases hspares : k.spares rel = true
          · rw [if_pos hspares, and_iff_right hspares]
          · rw [if_neg hspares]
            exact ⟨fun h => absurd h.symm (Option.some_ne_none node), fun h => absurd h.1 hspares⟩

theorem trees_removeTree (k : DiskKernel) (disk : Disk B) (path : String) :
    (k.removeTree disk path).1.trees = update disk.trees path (k.left (disk.trees path)) := by
  -- In either case what is left is a part of what was there.
  have hsame : ∀ dir, disk path = dir → disk.trees path = dir.map DataDir.tree := by
    intro dir hdir
    rw [← hdir]
    rfl
  unfold DiskKernel.removeTree DiskKernel.left
  cases k.removeDirAll with
  | error e =>
      cases hdir : disk path with
      | none =>
          dsimp only
          rw [hsame _ hdir, Option.map_none, Option.map_none, ← Option.map_none, ← hsame _ hdir,
            update_eq_self]
      | some dir =>
          dsimp only
          rw [trees_update, hsame _ hdir]
          rfl
  | ok _ =>
      cases hdir : disk path with
      | none =>
          dsimp only
          rw [← Option.map_none, ← hsame _ hdir, update_eq_self]
      | some dir => exact trees_update disk path none

theorem removeTree_eq_ok {k : DiskKernel} {disk : Disk B} {path : String}
    (h : (k.removeTree disk path).2 = .ok ()) : k.removeDirAll = .ok () := by
  unfold DiskKernel.removeTree at h
  cases hremove : k.removeDirAll with
  | ok _ => rfl
  | error e =>
      rw [hremove] at h
      cases hdir : disk path with
      | none =>
          rw [hdir] at h
          exact absurd h (by simp only [reduceCtorEq, not_false_eq_true])
      | some dir =>
          rw [hdir] at h
          exact absurd h (by simp only [reduceCtorEq, not_false_eq_true])

/-- Removing a data directory leaves of its tree what the removal leaves. -/
theorem trees_removeDataDirectory (k : DiskKernel) (mgr : DataDirectoryManager)
    (dir : DataDirectory) (disk : Disk B) :
    ((mgr.removeDataDirectory dir).2.eval k.serve disk).1.trees =
        update disk.trees dir.path (k.left (disk.trees dir.path)) ∧
      (((mgr.removeDataDirectory dir).2.eval k.serve disk).2 = .ok () →
        k.removeDirAll = .ok ()) := by
  -- Taking back the quota touches no file.
  have hattr : ((dir.setBlockLimit false).eval k.serve disk).1.trees = disk.trees :=
    Prog.eval_of_only k.serve (I := fun s => s.trees = disk.trees)
      (fun _ _ hc hs => (trees_serve k hc).trans hs) (only_setBlockLimit dir false) rfl
  simp only [DataDirectoryManager.removeDataDirectory, DataDirectory.remove, Prog.context,
    Prog.bind_eq, Prog.eval_bind, Prog.eval_attempt, Prog.eval_mapError, Prog.eval_try_]
  refine ⟨?_, fun h => ?_⟩
  · show (k.removeTree _ dir.path).1.trees = _
    rw [trees_removeTree, hattr]
  · -- The removal is the last step, so its result is that of the whole.
    exact removeTree_eq_ok (mapError_eq_ok.mp h)

end Remove

end Volume

end Ssam
