import Ssam.Lib.Error
import Ssam.Lib.HashMap
import Ssam.Manager.Path

/-!
# The Package Store

What the manager knows of the packages, and how it learns it from the two package
directories when the daemon starts.

Bundled packages come with the system, downloaded ones were installed. A package
is known by the name in its metadata, whatever its file is called, and a file that
cannot be parsed by the name of the file. A downloaded file overrides the bundled
one of its name even where no package can be made of it.

Parsing a file and building a package are parameters, functions of the file alone.

## Main definitions

* `Env`: The configuration, and what makes packages of files.
* `Files`: The regular files of the package directories.
* `parsePackagesFromDir`: The package files of a directory, parsed.
* `PackageStore`: Packages, broken packages and the paths of bundled ones.
* `loadParsedPackage`: One file into the store.
* `reloadPackages`: Both directories into the store.
-/

namespace Ssam

namespace Manager

open Lib

/-- What acquiring the volume of a package needs to know of its data directory. -/
structure PackageVolumeMetadata where
  packageName : String
  dataDir : String
  /-- The directories to be made in it. -/
  dataDirs : Option String
  storageLimit : Option Nat

/-- The configuration of the manager, and what it makes of a file's content. `F` is
    a parsed package file and `V` a version. -/
structure Env (C F V : Type) where
  packagesExt : String
  bundledDir : String
  downloadedDir : String
  /-- The manager does not start on one directory for both. -/
  distinct : bundledDir ≠ downloadedDir
  /-- Both directories are canonical paths, and those are not empty. -/
  nonempty : downloadedDir ≠ ""
  fromFileVerified : C → Except Error F
  packageName : F → String
  version : F → V
  volumeMetadata : Path → F → Except Error PackageVolumeMetadata
  /-- Acquiring the volume and making the package. -/
  buildPackage : Path → F → Except Error Unit

/-- The regular files, with their content. A directory is taken to have no package file
    that is a symbolic link. -/
abbrev Files (C : Type) := HashMap Path C

/-- A package that has been made from its file. -/
structure Package (F : Type) where
  file : F
  path : Path

/-- Why a file is no package. -/
structure BrokenPackageInfo where
  packagePath : Path
  brokenInfo : Error

/-- A package file and what parsing it came to. -/
structure PackageParseResult (F : Type) where
  packageName : String
  path : Path
  packageFile : Except Error F

/-- The packages by name, the broken ones, and where the bundled ones are. -/
structure PackageStore (F : Type) where
  packages : HashMap String (Package F)
  brokenPackages : HashMap String BrokenPackageInfo
  bundledPackages : HashMap String Path

namespace PackageStore

variable {F : Type}

def empty : PackageStore F := ⟨∅, ∅, ∅⟩

def get (store : PackageStore F) (name : String) : Option (Package F) := store.packages.get name

def insert (store : PackageStore F) (name : String) (package : Package F) : PackageStore F :=
  { store with packages := store.packages.insert name package }

def remove (store : PackageStore F) (name : String) : PackageStore F :=
  { store with packages := store.packages.erase name }

def getBroken (store : PackageStore F) (name : String) : Option BrokenPackageInfo :=
  store.brokenPackages.get name

def insertBroken (store : PackageStore F) (name : String) (info : BrokenPackageInfo) :
    PackageStore F :=
  { store with brokenPackages := store.brokenPackages.insert name info }

def removeBroken (store : PackageStore F) (name : String) : PackageStore F :=
  { store with brokenPackages := store.brokenPackages.erase name }

def getBundledPath (store : PackageStore F) (name : String) : Option Path :=
  store.bundledPackages.get name

def insertBundledPath (store : PackageStore F) (name : String) (path : Path) : PackageStore F :=
  { store with bundledPackages := store.bundledPackages.insert name path }

theorem get_insert (store : PackageStore F) (name n : String) (package : Package F) :
    (store.insert name package).get n = if n = name then some package else store.get n :=
  HashMap.get_insert store.packages name n package

theorem get_remove (store : PackageStore F) (name n : String) :
    (store.remove name).get n = if n = name then none else store.get n :=
  HashMap.get_erase store.packages name n

@[simp] theorem get_empty (n : String) : (empty : PackageStore F).get n = none := rfl

@[simp] theorem get_insertBroken (store : PackageStore F) (name n : String)
    (info : BrokenPackageInfo) : (store.insertBroken name info).get n = store.get n := rfl

@[simp] theorem get_removeBroken (store : PackageStore F) (name n : String) :
    (store.removeBroken name).get n = store.get n := rfl

@[simp] theorem get_insertBundledPath (store : PackageStore F) (name n : String) (path : Path) :
    (store.insertBundledPath name path).get n = store.get n := rfl

theorem getBundledPath_insertBundledPath (store : PackageStore F) (name n : String)
    (path : Path) :
    (store.insertBundledPath name path).getBundledPath n =
      if n = name then some path else store.getBundledPath n :=
  HashMap.get_insert store.bundledPackages name n path

theorem getBroken_insertBroken (store : PackageStore F) (name n : String)
    (info : BrokenPackageInfo) :
    (store.insertBroken name info).getBroken n =
      if n = name then some info else store.getBroken n :=
  HashMap.get_insert store.brokenPackages name n info

theorem getBroken_removeBroken (store : PackageStore F) (name n : String) :
    (store.removeBroken name).getBroken n = if n = name then none else store.getBroken n :=
  HashMap.get_erase store.brokenPackages name n

@[simp] theorem getBundledPath_insert (store : PackageStore F) (name n : String)
    (package : Package F) :
    (store.insert name package).getBundledPath n = store.getBundledPath n := rfl

@[simp] theorem getBundledPath_remove (store : PackageStore F) (name n : String) :
    (store.remove name).getBundledPath n = store.getBundledPath n := rfl

@[simp] theorem getBundledPath_insertBroken (store : PackageStore F) (name n : String)
    (info : BrokenPackageInfo) :
    (store.insertBroken name info).getBundledPath n = store.getBundledPath n := rfl

@[simp] theorem getBundledPath_removeBroken (store : PackageStore F) (name n : String) :
    (store.removeBroken name).getBundledPath n = store.getBundledPath n := rfl

@[simp] theorem getBroken_insert (store : PackageStore F) (name n : String)
    (package : Package F) : (store.insert name package).getBroken n = store.getBroken n := rfl

@[simp] theorem getBroken_remove (store : PackageStore F) (name n : String) :
    (store.remove name).getBroken n = store.getBroken n := rfl

@[simp] theorem getBroken_insertBundledPath (store : PackageStore F) (name n : String)
    (path : Path) :
    (store.insertBundledPath name path).getBroken n = store.getBroken n := rfl

end PackageStore

/-- What the system says of a file that is not there. -/
def ioNotFound : Error := ["No such file or directory (os error 2)"]

section Load

variable {C F V : Type} (env : Env C F V)

/-- There is a file at the path, and its name ends as those of package files do. -/
def isPackageFile (files : Files C) (path : Path) : Bool :=
  (files.get path).isSome && isPackageFileName env.packagesExt path.fileName

/-- Parse what is in a file, if there is one. -/
def parseContent (content : Option C) : Except Error F :=
  context "Failed to parse package file" <|
    match content with
    | none => .error ioNotFound
    | some content => env.fromFileVerified content

/-- The name of a package file: the package's own, or else the file's. -/
def parsedName (fileName : String) : Except Error F → String
  | .ok packageFile => env.packageName packageFile
  | .error _ => fileName

/-- Parse the package file at the path. -/
def parsePackage (files : Files C) (path : Path) : PackageParseResult F :=
  let packageFile := parseContent env (files.get path)
  ⟨parsedName env path.fileName packageFile, path, packageFile⟩

/-- The entries a directory lists, each unless it could not be read. `none` is a
    directory that could not be opened. -/
abbrev DirEntries := Option (List (Except Error String))

def entryToOptPath (dir : String) : Except Error String → Option Path
  | .ok fileName => some ⟨dir, fileName⟩
  | .error _ => none

/-- Parse the package files among the entries, in their order. -/
def parsePackagesFromDir (files : Files C) (dir : String) (entries : DirEntries) :
    List (PackageParseResult F) :=
  match entries with
  | none => []
  | some entries =>
      ((entries.filterMap (entryToOptPath dir)).filter (isPackageFile env files)).map
        (parsePackage env files)

/-- Make the package of a parsed file. -/
def createPackage (path : Path) (packageFile : F) : Except Error (Package F) := do
  let _meta ← context "Failed to create volume metadata" (env.volumeMetadata path packageFile)
  env.buildPackage path packageFile
  .ok ⟨packageFile, path⟩

/-- The package of a file, if the file was parsed. -/
def createParsed (parsed : PackageParseResult F) : Except Error (Package F) := do
  let packageFile ← parsed.packageFile
  context s!"Failed to create package: {parsed.packageName}"
    (createPackage env parsed.path packageFile)

/-- Put a parsed file into the store, among the packages or among the broken ones. -/
def loadParsedPackage (store : PackageStore F) (parsed : PackageParseResult F) :
    PackageStore F :=
  match createParsed env parsed with
  | .ok package => store.insert parsed.packageName package
  | .error e => store.insertBroken parsed.packageName ⟨parsed.path, e⟩

/-- Record a bundled package, and load it unless it is overridden. -/
def loadBundledPackage (overriddenNames : List String) (store : PackageStore F)
    (parsed : PackageParseResult F) : PackageStore F :=
  let store := store.insertBundledPath parsed.packageName parsed.path
  if parsed.packageName ∈ overriddenNames then store else loadParsedPackage env store parsed

/-- Build the store from the two directories. -/
def reloadPackages (files : Files C) (bundled downloaded : DirEntries) : PackageStore F :=
  let downloadedParsed := parsePackagesFromDir env files env.downloadedDir downloaded
  let overriddenNames := downloadedParsed.map PackageParseResult.packageName
  let bundledParsed := parsePackagesFromDir env files env.bundledDir bundled
  downloadedParsed.foldl (loadParsedPackage env)
    (bundledParsed.foldl (loadBundledPackage env overriddenNames) .empty)

variable {env}

theorem parseContent_eq_ok {content : Option C} {packageFile : F} :
    parseContent env content = .ok packageFile ↔
      ∃ c, content = some c ∧ env.fromFileVerified c = .ok packageFile := by
  unfold parseContent
  rw [context_eq_ok]
  cases content with
  | none => simp only [reduceCtorEq, false_and, exists_false]
  | some c => simp only [Option.some.injEq, exists_eq_left']

end Load

/-- An environment in which a package file is a name and a version, and all else
    works but for what `build` says. -/
def plainEnv (build : String × Nat → Except Error Unit) :
    Env (String × Nat) (String × Nat) Nat where
  packagesExt := "ssam"
  bundledDir := "/b"
  downloadedDir := "/d"
  distinct := by decide
  nonempty := by decide
  fromFileVerified := .ok
  packageName := Prod.fst
  version := Prod.snd
  volumeMetadata _ packageFile :=
    .ok ⟨packageFile.1, joinPath "/data" packageFile.1, none, none⟩
  buildPackage _ := build

end Manager

end Ssam
