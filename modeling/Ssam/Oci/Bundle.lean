import Ssam.Package.Loader
import Ssam.Package.Metadata
import Ssam.Volume.DataDirectory

/-!
# The Bundle of a Container

What a container is started from: a directory with the `config.json` the runtime
reads. It is the template the package brings, with the sections the daemon decides on
put over it, and it is written once all of them are there.

The sections of a runtime spec that the daemon neither reads nor writes are left out.
What the crates outside the repository do with the text of a policy is a parameter
(`Crates`), and so are their defaults. What the host answers while a bundle is made is
in `BundleHost`.

`Action` and `Rule` are the actions of a seccomp policy and its rules for system calls.

## Main definitions

* `Json`: A value of JSON.
* `Spec`: What the daemon sets of a runtime spec.
* `ContainerBundleSpec`: What a bundle is made from.
* `buildSeccompConfig`: The seccomp section.
* `configureNetworkNamespace`, `buildApparmorProfile`: The namespace and the profile.
* `makeBindMounts`: The mounts of the data directories.
* `TransientRuntimeConfig.new`: The bundle.
* `fromPackage`: The inputs of a package's bundle.

## Theorems

* `new_eq_ok`: When a bundle is made, and what is written.
-/

namespace Ssam

namespace Oci

open Lib

/-- A value of JSON. Numbers are kept as they are written. -/
inductive Json where
  | null
  | bool (b : Bool)
  | number (text : String)
  | string (s : String)
  | array (values : List Json)
  | object (members : List (String × Json))

namespace Json

/-- The member of an object. -/
def get (key : String) : Json → Option Json
  | .object members => members.lookup key
  | _ => none

def asStr : Json → Option String
  | .string s => some s
  | _ => none

def asArray : Json → Option (List Json)
  | .array values => some values
  | _ => none

end Json

/-- The architectures of a policy, with those the daemon itself names apart. -/
inductive Arch where
  | scmpArchX86
  | scmpArchX86_64
  | scmpArchArm
  | scmpArchAarch64
  | other (name : String)
  deriving DecidableEq

def Arch.text : Arch → String
  | .scmpArchX86 => "SCMP_ARCH_X86"
  | .scmpArchX86_64 => "SCMP_ARCH_X86_64"
  | .scmpArchArm => "SCMP_ARCH_ARM"
  | .scmpArchAarch64 => "SCMP_ARCH_AARCH64"
  | .other name => name

/-- The seccomp section of a spec. -/
structure LinuxSeccomp (Action Rule : Type) where
  defaultAction : Action
  architectures : Option (List Arch)
  syscalls : Option (List Rule)

/-- The kinds of namespaces, with that of the network apart. -/
inductive LinuxNamespaceType where
  | network
  | other (name : String)
  deriving DecidableEq

structure LinuxNamespace where
  typ : LinuxNamespaceType
  path : Option String
  deriving DecidableEq

structure Linux (Action Rule : Type) where
  namespaces : Option (List LinuxNamespace)
  seccomp : Option (LinuxSeccomp Action Rule)
  cgroupsPath : Option String

structure Process where
  apparmorProfile : Option String
  deriving DecidableEq

structure Root where
  path : String
  readonly : Option Bool
  deriving DecidableEq

structure Mount where
  destination : String
  typ : Option String
  source : Option String
  options : Option (List String)
  deriving DecidableEq

/-- A runtime spec: each of its sections may be left out. -/
structure Spec (Action Rule : Type) where
  linux : Option (Linux Action Rule)
  process : Option Process
  root : Option Root
  mounts : Option (List Mount)

/-- What the crates outside the repository give. -/
structure Crates (Action Rule : Type) where
  parseJson : Package.Bytes → Except Error Json
  /-- The value as the type of a seccomp section. -/
  decodeSeccomp : Json → Except Error (LinuxSeccomp Action Rule)
  parseArch : String → Option Arch
  defaultLinux : Linux Action Rule
  defaultProcess : Process

/-- What the host answers while a bundle is made. -/
structure BundleHost where
  /-- The architecture the daemon was built for. -/
  arch : String
  /-- The path of the new directory. -/
  tempdir : Except Error String
  absolute : String → Except Error String
  verifyIsNetns : String → Except Error Unit
  apparmorEnabled : Except Error Bool
  /-- Is there a profile of this name? -/
  apparmorProfile : String → Except Error Bool
  savePretty : Except Error Unit

/-- A host on which nothing fails and there is no AppArmor. -/
def BundleHost.fine : BundleHost where
  arch := "x86_64"
  tempdir := .ok "/tmp/.tmpa"
  absolute := .ok
  verifyIsNetns _ := .ok ()
  apparmorEnabled := .ok false
  apparmorProfile _ := .ok false
  savePretty := .ok ()

inductive HostArch where
  | x86
  | x86_64
  | arm
  | aarch64
  | unsupported
  deriving DecidableEq

def HostArch.fromEnv (arch : String) : HostArch :=
  if arch = "x86" then .x86
  else if arch = "x86_64" then .x86_64
  else if arch = "arm" then .arm
  else if arch = "aarch64" then .aarch64
  else .unsupported

def HostArch.toOciArch : HostArch → Option Arch
  | .x86 => some .scmpArchX86
  | .x86_64 => some .scmpArchX86_64
  | .arm => some .scmpArchArm
  | .aarch64 => some .scmpArchAarch64
  | .unsupported => none

inductive NetworkMode where
  | host
  | none
  | bridge
  /-- A namespace that is there already, at this path. -/
  | netns (path : String)
  deriving DecidableEq

/-- Where the data of a package is, and which of its directories are mounted. -/
structure DataMountPaths where
  root : String
  dirs : List String

def DataMountPaths.new (dataDir : Volume.DataDirectory) : DataMountPaths where
  root := dataDir.path
  dirs := dataDir.dataDirs.getD []

/-- What a bundle is made from. -/
structure ContainerBundleSpec (Action Rule : Type) where
  ociTemplate : Spec Action Rule
  seccompPolicy : Option Package.Bytes
  macEnabled : Bool
  networkMode : NetworkMode
  cgroupsPath : String
  packageName : String
  mountPoint : String
  dataMounts : Option DataMountPaths
  bridgeNetnsPath : Option String

/-- A bundle: the directory, and what its `config.json` says. -/
structure TransientRuntimeConfig (Action Rule : Type) where
  path : String
  config : Spec Action Rule

section Build

variable {Action Rule : Type} (crates : Crates Action Rule) (host : BundleHost)

/-- The architectures that an entry of the map names, if it is the entry of `hostArch`. -/
def architecturesOfEntry (hostArch : String) (entry : Json) : Option (List Arch) := do
  let arch ← (← entry.get "architecture").asStr
  if arch ≠ hostArch then none
  else
    let mainArch ← crates.parseArch arch
    -- What is no architecture is passed over.
    let subArchs := ((entry.get "subArchitectures").bind Json.asArray).map fun values =>
      values.filterMap fun v => v.asStr.bind crates.parseArch
    some (mainArch :: subArchs.getD [])

def convertArchMapToArchitectures (archMap : List Json) (hostArch : HostArch) :
    Option (List Arch) := do
  let ociArch ← hostArch.toOciArch
  archMap.findSome? (architecturesOfEntry crates ociArch.text)

/-- The seccomp section of the policy. What goes wrong is only logged. -/
def buildSeccompConfig (seccompPolicy : Option Package.Bytes) :
    Option (LinuxSeccomp Action Rule) := do
  let policy ← seccompPolicy
  let json ← (crates.parseJson policy).toOption
  let architectures := ((json.get "archMap").bind Json.asArray).bind fun archMap =>
    convertArchMapToArchitectures crates archMap (HostArch.fromEnv host.arch)
  -- An error is only logged here, and leaves the section empty.
  let seccomp ← (crates.decodeSeccomp json).toOption
  some { seccomp with architectures := architectures }

/-- The namespaces with that of the network as the mode has it. -/
def configureNetworkNamespace (namespaces : List LinuxNamespace) (networkMode : NetworkMode)
    (bridgeNetnsPath : Option String) : Except Error (List LinuxNamespace) :=
  let namespaces := namespaces.filter fun ns => ns.typ ≠ .network
  match networkMode with
  | .host => .ok namespaces
  | .none => .ok (namespaces ++ [⟨.network, none⟩])
  | .bridge =>
      match bridgeNetnsPath with
      | none => .error ["bridge network mode requires a netns path"]
      | some path => .ok (namespaces ++ [⟨.network, some path⟩])
  | .netns path => do
      context "Failed to verify external netns" (host.verifyIsNetns path)
      .ok (namespaces ++ [⟨.network, some path⟩])

def setCgroupsPath (spec : Spec Action Rule) (cgroupsPath : String) : Spec Action Rule :=
  { spec with linux := spec.linux.map fun linux => { linux with cgroupsPath := some cgroupsPath } }

def appendMount (spec : Spec Action Rule) (mount : Mount) : Spec Action Rule :=
  { spec with mounts := spec.mounts.map fun mounts => mounts ++ [mount] }

/-- The profile of the container. A host that cannot be asked counts as one without. -/
def buildApparmorProfile (packageName : String) : Option String := do
  let enabled ← host.apparmorEnabled.toOption
  if enabled then
    let profileName := s!"ssam-prof-{packageName}"
    let found ← (host.apparmorProfile profileName).toOption
    some (if found then profileName else "container-default")
  else none

/-- The mount of one declared directory. -/
def bindMount (packageDataRoot relative : String) : Mount where
  destination := joinPath "/" relative
  typ := some "none"
  source := some (joinPath packageDataRoot relative)
  options := some ["rbind", "rw"]

def makeBindMount (packageDataRoot destPath : String) : Except Error Mount := do
  let relative := stripRoot destPath
  ensure (isSafeRelativePath relative) s!"Unsafe data_dir bind mount escapes root: {destPath}"
  .ok (bindMount packageDataRoot relative)

def makeBindMounts (packageDataRoot : String) (dataDirs : List String) :
    Except Error (List Mount) :=
  dataDirs.mapM (makeBindMount packageDataRoot)

/-- The spec with the mounts of the data directories. That they cannot be made is only
    logged. -/
def mountDataDirs (spec : Spec Action Rule) (dataMounts : Option DataMountPaths) :
    Spec Action Rule :=
  match dataMounts with
  | none => spec
  | some dataMounts =>
      match makeBindMounts dataMounts.root dataMounts.dirs with
      | .ok bindMounts => bindMounts.foldl appendMount spec
      | .error _ => spec

/-- The template with its sections set. -/
def runtimeSpec (spec : ContainerBundleSpec Action Rule) (rootfsPath : String)
    (namespaces : List LinuxNamespace) : Spec Action Rule :=
  let template := spec.ociTemplate
  let linux := { template.linux.getD crates.defaultLinux with
    seccomp := buildSeccompConfig crates host spec.seccompPolicy
    namespaces := some namespaces }
  let process : Process := { template.process.getD crates.defaultProcess with
    apparmorProfile :=
      if spec.macEnabled then buildApparmorProfile host spec.packageName else none }
  let conf := { template with linux := some linux, process := some process }
  let conf := setCgroupsPath conf
    (joinPath spec.cgroupsPath s!"{spec.packageName}.service/container")
  mountDataDirs { conf with root := some ⟨rootfsPath, some true⟩ } spec.dataMounts

/-- Make the bundle. -/
def TransientRuntimeConfig.new (spec : ContainerBundleSpec Action Rule) :
    Except Error (TransientRuntimeConfig Action Rule) := do
  let path ← context "Failed to create temporary directory" host.tempdir
  let rootfsPath ← context s!"Unable to absoluteize rootfs directory of {spec.packageName}"
    (host.absolute spec.mountPoint)
  let linux := spec.ociTemplate.linux.getD crates.defaultLinux
  let namespaces ← configureNetworkNamespace host (linux.namespaces.getD []) spec.networkMode
    spec.bridgeNetnsPath
  let newConfPath := joinPath path "config.json"
  context s!"Failed to save container runtime spec to {newConfPath}" host.savePretty
  .ok ⟨path, runtimeSpec crates host spec rootfsPath namespaces⟩

variable {crates host} in
/-- A bundle is made when the steps that may fail succeed. -/
theorem new_eq_ok {spec : ContainerBundleSpec Action Rule}
    {bundle : TransientRuntimeConfig Action Rule} :
    TransientRuntimeConfig.new crates host spec = .ok bundle ↔
      ∃ path rootfsPath namespaces, host.tempdir = .ok path ∧
        host.absolute spec.mountPoint = .ok rootfsPath ∧
        configureNetworkNamespace host
          ((spec.ociTemplate.linux.getD crates.defaultLinux).namespaces.getD []) spec.networkMode
          spec.bridgeNetnsPath = .ok namespaces ∧
        host.savePretty = .ok () ∧
        bundle = ⟨path, runtimeSpec crates host spec rootfsPath namespaces⟩ := by
  simp only [TransientRuntimeConfig.new, except_bind_eq_ok, context_eq_ok, Except.ok.injEq]
  constructor
  · rintro ⟨path, hpath, rootfsPath, hrootfs, namespaces, hnamespaces, ⟨⟩, hsave, rfl⟩
    exact ⟨path, rootfsPath, namespaces, hpath, hrootfs, hnamespaces, hsave, rfl⟩
  · rintro ⟨path, rootfsPath, namespaces, hpath, hrootfs, hnamespaces, hsave, rfl⟩
    exact ⟨path, hpath, rootfsPath, hrootfs, namespaces, hnamespaces, (), hsave, rfl⟩

/-- The namespaces can be set unless a bridge has no path for its namespace or what is at
    the path of an external one is none. -/
theorem configureNetworkNamespace_eq_ok (namespaces : List LinuxNamespace) (mode : NetworkMode)
    (bridgeNetnsPath : Option String) :
    (∃ r, configureNetworkNamespace host namespaces mode bridgeNetnsPath = .ok r) ↔
      (mode = .bridge → bridgeNetnsPath.isSome = true) ∧
        ∀ path, mode = .netns path → host.verifyIsNetns path = .ok () := by
  cases mode with
  | host => exact iff_of_true ⟨_, rfl⟩ ⟨nofun, nofun⟩
  | none => exact iff_of_true ⟨_, rfl⟩ ⟨nofun, nofun⟩
  | bridge =>
      cases bridgeNetnsPath with
      | none => exact iff_of_false (by rintro ⟨r, ⟨⟩⟩) fun h => Bool.false_ne_true (h.1 rfl)
      | some path => exact iff_of_true ⟨_, rfl⟩ ⟨fun _ => rfl, nofun⟩
  | netns path =>
      simp only [configureNetworkNamespace, except_bind_eq_ok, context_eq_ok, Except.ok.injEq]
      constructor
      · rintro ⟨r, ⟨⟩, hverify, -⟩
        refine ⟨nofun, fun path' hpath => ?_⟩
        rw [← NetworkMode.netns.inj hpath]
        exact hverify
      · rintro ⟨-, hverify⟩
        exact ⟨_, (), hverify path rfl, rfl⟩

theorem foldl_appendMount (spec : Spec Action Rule) (mounts : List Mount) :
    mounts.foldl appendMount spec =
      { spec with mounts := spec.mounts.map fun ms => ms ++ mounts } := by
  induction mounts generalizing spec with
  -- Without a list there is none to extend, and the mounts are dropped.
  | nil =>
      have hmounts : (spec.mounts.map fun ms => ms ++ []) = spec.mounts := by
        cases spec.mounts with
        | none => rfl
        | some ms => exact congrArg some (List.append_nil ms)
      rw [hmounts]
      rfl
  | cons m mounts ih =>
      rw [List.foldl_cons, ih, appendMount, Option.map_map]
      congr 1
      refine congrArg (spec.mounts.map ·) (funext fun ms => ?_)
      exact List.append_assoc ms [m] mounts

theorem linux_mountDataDirs (spec : Spec Action Rule) (dataMounts : Option DataMountPaths) :
    (mountDataDirs spec dataMounts).linux = spec.linux := by
  unfold mountDataDirs
  split
  · rfl
  · split
    · rw [foldl_appendMount]
    · rfl

/-- The seccomp section of the written spec is the one that is built from the policy. -/
theorem seccomp_runtimeSpec (spec : ContainerBundleSpec Action Rule) (rootfsPath : String)
    (namespaces : List LinuxNamespace) :
    ((runtimeSpec crates host spec rootfsPath namespaces).linux.bind fun linux =>
        linux.seccomp) = buildSeccompConfig crates host spec.seccompPolicy := by
  rw [runtimeSpec, linux_mountDataDirs]
  rfl

/-- The mounts of the written spec are the template's, and those of the data directories
    if the template has any list of them. -/
theorem mounts_runtimeSpec (spec : ContainerBundleSpec Action Rule) (rootfsPath : String)
    (namespaces : List LinuxNamespace) :
    (runtimeSpec crates host spec rootfsPath namespaces).mounts =
      (mountDataDirs spec.ociTemplate spec.dataMounts).mounts := by
  unfold runtimeSpec mountDataDirs
  cases spec.dataMounts with
  | none => rfl
  | some dataMounts =>
      -- The sections set before do not touch the mounts.
      cases hmake : makeBindMounts dataMounts.root dataMounts.dirs with
      | ok bindMounts => simp only [hmake, foldl_appendMount, setCgroupsPath]
      | error e => simp only [hmake, setCgroupsPath]

end Build

/-- The volume of a package: where it is mounted, and its data directory. -/
structure PackageVolume where
  mountPoint : String
  dataDirectory : Option Volume.DataDirectory

/-- What the inputs of a bundle depend on beside the package. -/
structure Surroundings where
  tempDir : String
  packagesCgroup : String
  pkgHash10 : String → String

namespace Surroundings

variable (env : Surroundings)

def netnsName (pkg : String) : String := s!"ssam-{env.pkgHash10 pkg}"

def netnsPath (name : String) : String :=
  joinPath (joinPath (joinPath env.tempDir "ssam") "netns") name

def cgroupsPath : String := if env.packagesCgroup = "" then "system.slice" else env.packagesCgroup

end Surroundings

/-- The inputs of a package's bundle. -/
def fromPackage {Action Rule : Type} (env : Surroundings) (name : String)
    (packageFile : Package.PackageFile Package.PackageMetadata (Spec Action Rule))
    (pkgVolume : PackageVolume) (networkMode : NetworkMode) : ContainerBundleSpec Action Rule :=
  let security := packageFile.metadata.packageConfig.container.security
  { ociTemplate := packageFile.runtimeConfig
    seccompPolicy := if security.seccomp then some packageFile.seccompPolicy else none
    macEnabled := security.mac
    networkMode := networkMode
    cgroupsPath := env.cgroupsPath
    packageName := name
    mountPoint := pkgVolume.mountPoint
    dataMounts := pkgVolume.dataDirectory.map DataMountPaths.new
    bridgeNetnsPath :=
      if networkMode = .bridge then some (env.netnsPath (env.netnsName name)) else none }

end Oci

end Ssam
