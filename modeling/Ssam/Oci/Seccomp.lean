import Ssam.Oci.Bundle

/-!
# Does Seccomp Fail Closed?

A package that asks for seccomp brings a policy, which is stored if it is any value of
JSON. The bundle is made from the value as the type of a seccomp section, and that is
the narrower grammar: where the value is none of that type, the error is only logged and
the section is left empty. So the container runs without a filter, whatever section the
template brings, and the log says that seccomp is disabled by configuration.

`seccomp_fails_closed_iff` says when this happens: exactly when nothing else keeps the
bundle from being made.

## Main definitions

* `readPolicy`: The policy as the runtime reads it.
* `FailsClosed`: No bundle, or one with the policy's default action and its rules.
* `Prepares`: The host lets the bundle be made.

## Theorems

* `fromPackage_prepares`: When the bundle of a package is made.
* `seccomp_fails_closed_iff`: When a package with seccomp fails closed.
* `empty_policy_fails_open`: A policy that is stored and gives no section.
-/

namespace Ssam

namespace Oci

open Lib

section Seccomp

variable {Action Rule : Type}

/-- The stored policy as a seccomp section of the runtime, if it is one. -/
def readPolicy (crates : Crates Action Rule) (policy : Package.Bytes) :
    Option (LinuxSeccomp Action Rule) :=
  (crates.parseJson policy).toOption.bind fun json => (crates.decodeSeccomp json).toOption

/-- The section carries the default action of the policy and all of its rules. -/
def Carries (policy : Option (LinuxSeccomp Action Rule)) (config : Spec Action Rule) : Prop :=
  ∃ read linux seccomp, policy = some read ∧ config.linux = some linux ∧
    linux.seccomp = some seccomp ∧ seccomp.defaultAction = read.defaultAction ∧
    seccomp.syscalls = read.syscalls

/-- There is no bundle, or its spec carries the policy. -/
def FailsClosed (policy : Option (LinuxSeccomp Action Rule))
    (bundle : Except Error (TransientRuntimeConfig Action Rule)) : Prop :=
  ∀ made, bundle = .ok made → Carries policy made.config

/-- What the host is asked for goes well: the directory, the path of the root file system,
    the check of an external namespace and the writing of the spec. -/
structure Prepares (host : BundleHost) (mountPoint : String) (networkMode : NetworkMode) :
    Prop where
  tempdir : ∃ path, host.tempdir = .ok path
  absolute : ∃ path, host.absolute mountPoint = .ok path
  verifyIsNetns : ∀ path, networkMode = .netns path → host.verifyIsNetns path = .ok ()
  savePretty : host.savePretty = .ok ()

variable (crates : Crates Action Rule) (host : BundleHost)

/-- The section is the policy as it is read, with other architectures. -/
theorem buildSeccompConfig_eq (policy : Package.Bytes) :
    ∃ architectures, buildSeccompConfig crates host (some policy) =
      (readPolicy crates policy).map fun read => { read with architectures := architectures } := by
  unfold buildSeccompConfig readPolicy
  cases hjson : crates.parseJson policy with
  -- Text that is no JSON gives no section either, but it is not stored.
  | error e =>
      refine ⟨none, ?_⟩
      simp only [Option.bind_eq_bind, Option.bind_some, hjson, Except.toOption, Option.bind_none,
        Option.map_none]
  | ok json =>
      refine ⟨((json.get "archMap").bind Json.asArray).bind fun archMap =>
        convertArchMapToArchitectures crates archMap (HostArch.fromEnv host.arch), ?_⟩
      simp only [Option.bind_eq_bind, Option.bind_some, hjson, Except.toOption]
      cases crates.decodeSeccomp json with
      | error e => rfl
      | ok read => rfl

/-- A spec that is written carries the policy exactly if the policy can be read. -/
theorem carries_runtimeSpec_iff {spec : ContainerBundleSpec Action Rule} {policy : Package.Bytes}
    (hpolicy : spec.seccompPolicy = some policy) (rootfsPath : String)
    (namespaces : List LinuxNamespace) :
    Carries (readPolicy crates policy) (runtimeSpec crates host spec rootfsPath namespaces) ↔
      (readPolicy crates policy).isSome = true := by
  rcases buildSeccompConfig_eq crates host policy with ⟨architectures, heq⟩
  constructor
  · rintro ⟨read, linux, seccomp, hread, -⟩
    rw [hread]
    rfl
  · intro hsome
    -- A policy that is read replaces the template's section, default action and rules included.
    rcases Option.isSome_iff_exists.mp hsome with ⟨read, hread⟩
    have hsection := seccomp_runtimeSpec crates host spec rootfsPath namespaces
    rw [hpolicy, heq, hread, Option.map_some] at hsection
    rcases Option.bind_eq_some_iff.mp hsection with ⟨linux, hlinux, hseccomp⟩
    exact ⟨read, linux, _, hread, hlinux, hseccomp, rfl, rfl⟩

variable (env : Surroundings) (name : String)
variable (packageFile : Package.PackageFile Package.PackageMetadata (Spec Action Rule))
variable (pkgVolume : PackageVolume) (networkMode : NetworkMode)

/-- The bundle of a package is made if the host lets it. -/
theorem fromPackage_prepares :
    (∃ made, TransientRuntimeConfig.new crates host
        (fromPackage env name packageFile pkgVolume networkMode) = .ok made) ↔
      Prepares host pkgVolume.mountPoint networkMode := by
  -- The path of the namespace is given wherever the mode is a bridge.
  have hbridge : networkMode = .bridge →
      (fromPackage env name packageFile pkgVolume networkMode).bridgeNetnsPath.isSome = true := by
    intro hmode
    rw [fromPackage, if_pos hmode]
    rfl
  have hnamespaces := configureNetworkNamespace_eq_ok host
    ((packageFile.runtimeConfig.linux.getD crates.defaultLinux).namespaces.getD []) networkMode
    (fromPackage env name packageFile pkgVolume networkMode).bridgeNetnsPath
  constructor
  · rintro ⟨made, hmade⟩
    rcases new_eq_ok.mp hmade with ⟨path, rootfsPath, namespaces, hpath, hrootfs, hns, hsave, -⟩
    exact ⟨⟨path, hpath⟩, ⟨rootfsPath, hrootfs⟩, (hnamespaces.mp ⟨namespaces, hns⟩).2, hsave⟩
  · rintro ⟨⟨path, hpath⟩, ⟨rootfsPath, hrootfs⟩, hverify, hsave⟩
    rcases hnamespaces.mpr ⟨hbridge, hverify⟩ with ⟨namespaces, hns⟩
    exact ⟨_, new_eq_ok.mpr ⟨path, rootfsPath, namespaces, hpath, hrootfs, hns, hsave, rfl⟩⟩

/-- A package with seccomp gets no bundle or one that carries its policy, exactly if the
    runtime can read the policy or the host lets no bundle be made. -/
theorem seccomp_fails_closed_iff
    (hseccomp : packageFile.metadata.packageConfig.container.security.seccomp = true) :
    FailsClosed (readPolicy crates packageFile.seccompPolicy)
        (TransientRuntimeConfig.new crates host
          (fromPackage env name packageFile pkgVolume networkMode)) ↔
      (readPolicy crates packageFile.seccompPolicy).isSome = true ∨
        ¬ Prepares host pkgVolume.mountPoint networkMode := by
  have hpolicy : (fromPackage env name packageFile pkgVolume networkMode).seccompPolicy =
      some packageFile.seccompPolicy := by
    rw [fromPackage, if_pos hseccomp]
  constructor
  · intro hclosed
    -- Once the host lets the bundle be made, nothing else stands in the way of an open one.
    by_cases hmade : Prepares host pkgVolume.mountPoint networkMode
    · rcases (fromPackage_prepares crates host env name packageFile pkgVolume networkMode).mpr
        hmade with ⟨made, hnew⟩
      rcases new_eq_ok.mp hnew with ⟨path, rootfsPath, namespaces, -, -, -, -, heq⟩
      have hcarries := hclosed made hnew
      rw [heq] at hcarries
      exact Or.inl ((carries_runtimeSpec_iff crates host hpolicy rootfsPath namespaces).mp hcarries)
    · exact Or.inr hmade
  · rintro (hread | hfails) made hnew
    · rcases new_eq_ok.mp hnew with ⟨path, rootfsPath, namespaces, -, -, -, -, heq⟩
      rw [heq]
      exact (carries_runtimeSpec_iff crates host hpolicy rootfsPath namespaces).mpr hread
    · exact absurd ((fromPackage_prepares crates host env name packageFile pkgVolume
        networkMode).mp ⟨made, hnew⟩) hfails

end Seccomp

/-! ### Two policies -/

/-- A policy with nothing but a default action. -/
def errnoPolicy : String := "\x7b\"defaultAction\":\"SCMP_ACT_ERRNO\"\x7d"

/-- The crates on the two policies below: the default action is required. -/
def sampleCrates : Crates String String where
  parseJson text :=
    if text = Package.asciiBytes "{}" then .ok (.object [])
    else if text = Package.asciiBytes errnoPolicy then
      .ok (.object [("defaultAction", .string "SCMP_ACT_ERRNO")])
    else .error ["expected value at line 1 column 1"]
  decodeSeccomp json :=
    match (json.get "defaultAction").bind Json.asStr with
    | some action => .ok ⟨action, none, none⟩
    | none => .error ["missing field `defaultAction`"]
  parseArch name := some (.other name)
  defaultLinux := ⟨none, none, none⟩
  defaultProcess := ⟨none⟩

/-- A package with this policy, whose template has a seccomp section of its own. -/
def packageWith (policy : String) :
    Package.PackageFile Package.PackageMetadata (Spec String String) where
  metadata :=
    { packageConfig :=
        ⟨⟨none, none, ⟨false, true⟩, none⟩, ⟨none, "", "app", "1.0.0"⟩, ⟨none, none, "simple"⟩⟩
      buildDate := "2026-01-01T00:00:00Z"
      pkgfsType := .erofs
      pkgfsVerityInfo := ⟨4096, 4096, "", 4096⟩ }
  runtimeConfig :=
    ⟨some ⟨none, some ⟨"SCMP_ACT_KILL", none, some ["kexec_load"]⟩, none⟩, none, none, some []⟩
  seccompPolicy := Package.asciiBytes policy
  payloads := Package.Payloads.init

def sampleSurroundings : Surroundings := ⟨"/tmp", "", fun pkg => pkg⟩

/-- The policy with a default action is carried. -/
theorem seccomp_fails_closed_errno :
    let pkg := packageWith errnoPolicy
    pkg.metadata.packageConfig.container.security.seccomp = true ∧
      FailsClosed (readPolicy sampleCrates pkg.seccompPolicy)
        (TransientRuntimeConfig.new sampleCrates BundleHost.fine
          (fromPackage sampleSurroundings "app" pkg ⟨"/run/app", none⟩ .host)) := by
  intro pkg
  have hread : (readPolicy sampleCrates pkg.seccompPolicy).isSome = true := by decide
  exact ⟨rfl, (seccomp_fails_closed_iff sampleCrates BundleHost.fine sampleSurroundings "app" pkg
    ⟨"/run/app", none⟩ .host rfl).mpr (Or.inl hread)⟩

/-- The policy without any member is stored, and the bundle has no seccomp section. -/
theorem empty_policy_fails_open :
    (∃ json, sampleCrates.parseJson (packageWith "{}").seccompPolicy = .ok json) ∧
      (packageWith "{}").metadata.packageConfig.container.security.seccomp = true ∧
      ¬ FailsClosed (readPolicy sampleCrates (packageWith "{}").seccompPolicy)
        (TransientRuntimeConfig.new sampleCrates BundleHost.fine
          (fromPackage sampleSurroundings "app" (packageWith "{}") ⟨"/run/app", none⟩ .host)) := by
  refine ⟨⟨_, rfl⟩, rfl, fun hclosed => ?_⟩
  rcases hclosed _ rfl with ⟨read, -, -, hread, -⟩
  cases hread

end Oci

end Ssam
