import Mathlib.Algebra.Group.Nat.Defs
import Mathlib.Logic.Function.Basic
import Ssam.Lib.HashMap
import Ssam.Lib.Prog
import Ssam.Utils

/-!
# Data Directories and their Project Ids

A package has a directory under the data root, and where the file system has
project quotas the directory carries a project id. The id is kept twice, in the
attributes of the directory and in a map of the manager from paths to ids. The map
is read off the directories once, when the daemon starts, and gives the next id.

An id counts as active when the directory also passes it on to what is created
in it. Setting an id is two calls, one for that flag and one for the id.

## Main definitions

* `DirAttr`, `activeProjid`: The attributes of a directory, and its active id.
* `DirCall`: The calls made about a directory.
* `initializeDirectoryMap`: The scan of the data root.
* `nextId`, `getProjectId`: The id of a path.
* `createDataDirectory`, `removeDataDirectory`: The manager's two operations.
* `DirKernel`: What the calls are answered.
-/

namespace Ssam

namespace Volume

open Lib

/-- The attributes of a directory that decide on its project. -/
structure DirAttr where
  /-- What is created in the directory belongs to its project. -/
  inherit : Bool
  projid : Nat
  deriving DecidableEq

/-- The project id of a directory with an active project quota. -/
def DirAttr.activeProjid (attr : DirAttr) : Option Nat :=
  if attr.inherit && attr.projid ≠ 0 then some attr.projid else none

/-- The directories in the data root. -/
abbrev DataRoot := String → Option DirAttr

/-- The active project id of the directory at `path`, if there is one. -/
def activeProjid (root : DataRoot) (path : String) : Option Nat :=
  (root path).bind DirAttr.activeProjid

/-- A call about a directory, with the type of its answer. -/
inductive DirCall : Type → Type where
  | makeDirectory (path : String) : DirCall (Except Error Unit)
  | openDir (path : String) : DirCall (Except Error Unit)
  /-- Does the directory pass its project on? -/
  | getFlags (path : String) : DirCall (Except Error Bool)
  | setFlags (path : String) (inherit : Bool) : DirCall (Except Error Unit)
  | getXattr (path : String) : DirCall (Except Error Nat)
  | setXattr (path : String) (projid : Nat) : DirCall (Except Error Unit)
  | setBlockLimits (id softLimit hardLimit : Nat) : DirCall (Except Error Unit)
  /-- Create a directory inside a data directory. -/
  | makeDataDir (srcPath : String) : DirCall (Except Error Unit)
  | removeDirAll (path : String) : DirCall (Except Error Unit)

/-- A program over these calls. -/
abbrev DirProg := Prog DirCall Error

def makeDirectory (path : String) : DirProg Unit :=
  (Prog.try_ (.makeDirectory path)).context s!"Failed to create directory: {path}"

def setProjInheritance (path : String) (enabled : Bool) : DirProg Unit := do
  let current ← Prog.try_ (.getFlags path)
  let verb := if enabled then "set" else "unset"
  if enabled = current then pure ()
  else (Prog.try_ (.setFlags path enabled)).context s!"Failed to {verb} PROJECT_INHERIT"

def setProjid (path : String) (id : Nat) : DirProg Unit := do
  let _projid ← Prog.try_ (.getXattr path)
  if id < 2 ^ 32 then Prog.try_ (.setXattr path id)
  else Prog.fail [s!"Project id {id} exceeds u32 max",
    "out of range integral type conversion attempted"]

def setProjectQuotaInner (path : String) (enabled : Bool) (id : Nat) : DirProg Unit := do
  (Prog.try_ (.openDir path)).context s!"Failed to open directory: {path}"
  (setProjInheritance path enabled).context
    s!"Failed to set project inheritance for directory: {path}"
  (setProjid path id).context s!"Failed to set project ID for directory: {path}"

/-- The quota of a data directory. -/
structure QuotaInfo where
  id : Nat
  blockLimit : Option Nat

/-- The project quota of the directory, switched on or off. -/
def QuotaInfo.setProjectQuota (quota : QuotaInfo) (path : String) (enabled : Bool) :
    DirProg Unit :=
  (setProjectQuotaInner path enabled (if enabled then quota.id else 0)).context
    s!"Failed to set project quota for directory: {path}"

def QuotaInfo.setBlockLimits (quota : QuotaInfo) (softLimit hardLimit : Nat) : DirProg Unit :=
  (Prog.try_ (.setBlockLimits quota.id softLimit hardLimit)).context
    s!"Failed block limit for project ID: {quota.id}"

/-- The data directory of a package. -/
structure DataDirectory where
  path : String
  dataDirs : Option (List String)
  quotaInfo : Option QuotaInfo

def DataDirectory.setBlockLimit (dir : DataDirectory) (enabled : Bool) : DirProg Unit :=
  match dir.quotaInfo with
  | none => pure ()
  | some quota => do
      (quota.setProjectQuota dir.path enabled).context
        s!"Failed to set project quota for directory: {dir.path}"
      let verb := if enabled then "enable" else "disable"
      (quota.setBlockLimits 0 (if enabled then quota.blockLimit.getD 0 else 0)).context
        s!"Failed to {verb} block limit for directory: {dir.path}"

/-- Create the directories the package declares, one after another. -/
def makeDataDirs (path : String) : List String → DirProg Unit
  | [] => pure ()
  | dir :: dirs => do
      let relativeDir := stripRoot dir
      if isSafeRelativePath relativeDir then
        let srcPath := joinPath path relativeDir
        ((Prog.try_ (.makeDataDir srcPath)).context
          s!"Failed to create directory: {srcPath}").context
            s!"Failed to create bind mount source directory: {srcPath}"
        makeDataDirs path dirs
      else Prog.fail [s!"Unsafe data_dir escapes package root: {dir}"]

def DataDirectory.ensureDataDirs (dir : DataDirectory) : DirProg Unit :=
  match dir.dataDirs with
  | none => pure ()
  | some dirs => makeDataDirs dir.path dirs

def DataDirectory.remove (dir : DataDirectory) : DirProg Unit :=
  (Prog.try_ (.removeDirAll dir.path)).context s!"Failed to remove data directory: {dir.path}"

/-- The declared directories, separated by colons. -/
def parseDataDirs (dataDirs : Option String) : Option (List String) :=
  dataDirs.bind fun s =>
    if (trim s.toList).isEmpty then none
    else some (((s.toList.splitOn ':').map trim).filter (!·.isEmpty) |>.map String.ofList)

/-- The map from the path of a data directory to its project id. -/
abbrev ProjectMap := HashMap String Nat

namespace ProjectMap

def nextId (m : ProjectMap) : Nat := (m.entries.map Sigma.snd).max?.getD 0 + 1

/-- The id of `path`, a new one if it has none. -/
def projectId (m : ProjectMap) (path : String) : Nat := (m.get path).getD m.nextId

/-- The map once `path` has its id. -/
def getProjectId (m : ProjectMap) (path : String) : ProjectMap :=
  match m.get path with
  | some _ => m
  | none => m.insert path m.nextId

end ProjectMap

/-- How the scan of the data root goes. -/
structure Scan where
  readDir : Except Error Unit
  /-- What `next_entry` yields, one after another. -/
  entries : List (Except Error String)
  /-- The project id of the directory can be read. -/
  readable : String → Bool

/-- The id of a directory as the quota reports it, none on any error. -/
def Scan.getProjectIdForDir (scan : Scan) (root : DataRoot) (path : String) : Option Nat :=
  if scan.readable path then activeProjid root path else none

/-- One entry of the data root. What is no directory is left out. -/
def Scan.insertEntry (scan : Scan) (quota : Bool) (root : DataRoot) (m : ProjectMap)
    (entry : Except Error String) : Except Error ProjectMap := do
  let path ← context "Failed to read directory entry" entry
  if (root path).isSome then
    let projectId :=
      if quota then scan.getProjectIdForDir root path else some (m.entries.length + 1)
    match projectId with
    | some id => .ok (m.insert path id)
    | none => .ok m
  else .ok m

def initializeDirectoryMap (quota : Bool) (dataRoot : String) (root : DataRoot) (scan : Scan) :
    Except Error ProjectMap := do
  context s!"Failed to read data directory: {dataRoot}" scan.readDir
  scan.entries.foldlM (scan.insertEntry quota root) ∅

/-- What the daemon knows of the data directories. -/
structure DataDirectoryManager where
  /-- The file system has project quotas. -/
  quotaRoot : Bool
  projectMap : ProjectMap

/-- A manager just started. A scan that fails leaves it without any ids. -/
def DataDirectoryManager.new (quota : Bool) (dataRoot : String) (root : DataRoot)
    (scan : Scan) : DataDirectoryManager where
  quotaRoot := quota
  projectMap :=
    match initializeDirectoryMap quota dataRoot root scan with
    | .ok m => m
    | .error _ => ∅

/-- What a package says of its data directory. -/
structure DataDirMetadata where
  packageName : String
  path : String
  dataDirs : Option String
  storageLimit : Option Nat

/-- The largest id a quota can have. -/
def maxProjectId : Nat := 2 ^ 31 - 1

/-- Give the directory its quota, and create it and what the package declares in
    it. The id is taken before anything that may fail. -/
def DataDirectoryManager.createDataDirectory (mgr : DataDirectoryManager)
    (dirMeta : DataDirMetadata) : DataDirectoryManager × DirProg DataDirectory :=
  let path := dirMeta.path
  let id := mgr.projectMap.projectId path
  let create (quotaInfo : Option QuotaInfo) : DirProg DataDirectory := do
    ((makeDirectory path).context s!"Failed to create data directory: {path}").context
      s!"Failed to create data directory for package: {dirMeta.packageName}"
    let dir : DataDirectory := ⟨path, parseDataDirs dirMeta.dataDirs, quotaInfo⟩
    (dir.setBlockLimit true).context
      s!"Failed to set block limit for data directory: {path}"
    dir.ensureDataDirs.context
      s!"Failed to create data directory for package: {dirMeta.packageName}"
    pure dir
  -- The id is recorded before the directory is made, and stays if that fails.
  if mgr.quotaRoot then
    ({ mgr with projectMap := mgr.projectMap.getProjectId path },
      if id ≤ maxProjectId then create (some ⟨id, dirMeta.storageLimit⟩)
      else Prog.fail [s!"Project id {id} overflows i32 — this should never happen",
        "out of range integral type conversion attempted"])
  else (mgr, create none)

/-- Switch the quota off, forget the id and remove the directory. That the quota
    could not be switched off is only logged. -/
def DataDirectoryManager.removeDataDirectory (mgr : DataDirectoryManager)
    (dir : DataDirectory) : DataDirectoryManager × DirProg Unit :=
  ({ mgr with projectMap := mgr.projectMap.erase dir.path }, do
    let _disabled ← (dir.setBlockLimit false).attempt
    dir.remove)

/-- What the calls of one operation are answered. -/
structure DirKernel where
  makeDirectory : Except Error Unit
  openDir : Except Error Unit
  getFlags : Except Error Unit
  setFlags : Except Error Unit
  getXattr : Except Error Unit
  setXattr : Except Error Unit
  setBlockLimits : Except Error Unit
  makeDataDir : String → Except Error Unit
  removeDirAll : Except Error Unit

def notFound : Error := ["No such file or directory (os error 2)"]

/-- Answer a call on an existing directory if the kernel has no error for it. -/
def onDir {α : Type} (root : DataRoot) (path : String) (outcome : Except Error Unit)
    (act : DirAttr → DataRoot × α) : DataRoot × Except Error α :=
  match outcome, root path with
  | .error e, _ => (root, .error e)
  | .ok (), none => (root, .error notFound)
  | .ok (), some attr => ((act attr).1, .ok (act attr).2)

/-- Answer a call. A new directory passes nothing on and belongs to no project: the data
    root it is made in is taken to pass none on to it. -/
def DirKernel.serve (k : DirKernel) {α : Type} (root : DataRoot) : DirCall α → DataRoot × α
  | .makeDirectory path =>
      match k.makeDirectory with
      | .error e => (root, .error e)
      | .ok () =>
          -- A directory that is there keeps its attributes, and a new one has none set.
          (Function.update root path (some ((root path).getD ⟨false, 0⟩)), .ok ())
  | .openDir path => onDir root path k.openDir fun _ => (root, ())
  | .getFlags path => onDir root path k.getFlags fun attr => (root, attr.inherit)
  | .setFlags path inherit => onDir root path k.setFlags fun attr =>
      (Function.update root path (some { attr with inherit := inherit }), ())
  | .getXattr path => onDir root path k.getXattr fun attr => (root, attr.projid)
  | .setXattr path projid => onDir root path k.setXattr fun attr =>
      (Function.update root path (some { attr with projid := projid }), ())
  | .setBlockLimits _ _ _ => (root, k.setBlockLimits)
  -- What lies inside a data directory is not looked at here.
  | .makeDataDir srcPath => (root, k.makeDataDir srcPath)
  | .removeDirAll path => onDir root path k.removeDirAll fun _ =>
      (Function.update root path none, ())

end Volume

end Ssam
