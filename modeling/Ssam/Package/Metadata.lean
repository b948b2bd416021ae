import Ssam.Package.Integrity

/-!
# The Metadata of a Package

Metadata is made in two ways. The constructor checks the version and takes the time.
The decoder takes what the file has, and checks nothing. The version of loaded metadata
is asked for as though the constructor had made it, which it need not have.

What parses a version and what writes a time are parameters.

## Main definitions

* `PackageMetadata`: The metadata, with what is said of the image.
* `PackageMetadata.new`, `PackageMetadata.version`: The constructor, and what relies on it.
* `Constructed`: Metadata the constructor makes.
* `metadataRegion`: The bytes of the metadata in a file.
* `StatesVersion`: The metadata in a file has a version and a date.

## Theorems

* `new_eq_ok`, `constructed_iff`: What the constructor establishes.
* `metadata_of_loaded`: Where the metadata of a loaded file comes from.
* `loaded_constructed_iff`: The files whose metadata is as the constructor makes it.
* `unversioned_loaded`: A file whose version is none.
-/

namespace Ssam

namespace Package

open Lib

inductive FsType where
  | erofs
  | ext4
  deriving DecidableEq

/-- What is signed of the image and its hash tree. -/
structure PackageFsVerityInfo where
  dataSize : UInt64
  hashSize : UInt64
  /-- The table of the device, without the paths of the devices. -/
  tableParams : String
  hashOffset : UInt64
  deriving DecidableEq

/-- The sections of the configuration a package is written from. -/
structure PackageSection where
  autostart : Option Bool
  description : String
  name : String
  version : String
  deriving DecidableEq

structure Security where
  mac : Bool
  seccomp : Bool
  deriving DecidableEq

structure NetworkSection where
  /-- The name of the interface, and that of the network. -/
  bridge : Option (Option String × Option String)
  mode : Option String
  deriving DecidableEq

structure ContainerSection where
  dataDirs : Option String
  network : Option NetworkSection
  security : Security
  storageLimit : Option Int
  deriving DecidableEq

structure ServiceSection where
  busName : Option String
  remainAfterExit : Option Bool
  serviceType : String
  deriving DecidableEq

structure PackageConfigSpec where
  container : ContainerSection
  package : PackageSection
  service : ServiceSection
  deriving DecidableEq

structure PackageMetadata where
  packageConfig : PackageConfigSpec
  buildDate : String
  pkgfsType : FsType
  pkgfsVerityInfo : PackageFsVerityInfo
  deriving DecidableEq

/-- What parses a version, and what writes a time. -/
structure Texts (Version Timestamp : Type) where
  parseVersion : String → Except Error Version
  timestamp : Timestamp → String

section Metadata

variable {Version Timestamp : Type} (texts : Texts Version Timestamp)

namespace PackageMetadata

/-- The metadata of a package that is built now. -/
def new (now : Timestamp) (packageConfig : PackageConfigSpec) (pkgfsType : FsType)
    (pkgfsVerityInfo : PackageFsVerityInfo) : Except Error PackageMetadata := do
  let buildDate := texts.timestamp now
  -- The version is checked, and kept as it was given.
  let _ ← context s!"Package version '{packageConfig.package.version}' is invalid"
    (texts.parseVersion packageConfig.package.version)
  .ok ⟨packageConfig, buildDate, pkgfsType, pkgfsVerityInfo⟩

/-- The version of the package, or none where the call panics. -/
def version (m : PackageMetadata) : Option Version :=
  (texts.parseVersion m.packageConfig.package.version).toOption

end PackageMetadata

/-- The constructor makes the metadata, of some configuration at some time. -/
def Constructed (m : PackageMetadata) : Prop :=
  ∃ now packageConfig pkgfsType pkgfsVerityInfo,
    PackageMetadata.new texts now packageConfig pkgfsType pkgfsVerityInfo = .ok m

variable {texts}

theorem new_eq_ok {now : Timestamp} {packageConfig : PackageConfigSpec} {pkgfsType : FsType}
    {pkgfsVerityInfo : PackageFsVerityInfo} {m : PackageMetadata} :
    PackageMetadata.new texts now packageConfig pkgfsType pkgfsVerityInfo = .ok m ↔
      (∃ v, texts.parseVersion packageConfig.package.version = .ok v) ∧
        m = ⟨packageConfig, texts.timestamp now, pkgfsType, pkgfsVerityInfo⟩ := by
  rw [PackageMetadata.new]
  simp only [except_bind_eq_ok, context_eq_ok, Except.ok.injEq]
  exact ⟨fun ⟨v, hv, hm⟩ => ⟨⟨v, hv⟩, hm.symm⟩, fun ⟨⟨v, hv⟩, hm⟩ => ⟨v, hv, hm.symm⟩⟩

/-- The version is asked for without a panic if it parses. -/
theorem version_isSome {m : PackageMetadata} :
    (m.version texts).isSome = true ↔
      ∃ v, texts.parseVersion m.packageConfig.package.version = .ok v := by
  rw [PackageMetadata.version]
  cases texts.parseVersion m.packageConfig.package.version with
  | ok v => exact ⟨fun _ => ⟨v, rfl⟩, fun _ => rfl⟩
  | error e =>
      refine ⟨fun h => absurd h Bool.false_ne_true, ?_⟩
      rintro ⟨v, hv⟩
      exact absurd hv (by simp only [reduceCtorEq, not_false_eq_true])

/-- The constructor establishes that there is a version and that the date is a time, and
    nothing else. -/
theorem constructed_iff {m : PackageMetadata} :
    Constructed texts m ↔ (m.version texts).isSome = true ∧
      ∃ now, m.buildDate = texts.timestamp now := by
  rw [version_isSome]
  constructor
  · rintro ⟨now, packageConfig, pkgfsType, info, hnew⟩
    rcases new_eq_ok.mp hnew with ⟨hv, rfl⟩
    exact ⟨hv, now, rfl⟩
  · rintro ⟨hv, now, hdate⟩
    -- The metadata itself, taken apart, is what the constructor is called with.
    refine ⟨now, m.packageConfig, m.pkgfsType, m.pkgfsVerityInfo, new_eq_ok.mpr ⟨hv, ?_⟩⟩
    rw [← hdate]

end Metadata

section Load

variable {Metadata RuntimeConfig : Type} (decoders : Decoders Metadata RuntimeConfig)

/-- The bytes of the metadata, as the table of the file places them. -/
def metadataRegion (file : Bytes) : Option Bytes :=
  (payloadTable decoders file).bind fun p => p.extract file .metadata

variable {decoders} {sha256 : Bytes → Bytes} {publicKey : Except Error PublicKey} {file : Bytes}

/-- The metadata of a loaded file is what its region is decoded to. -/
theorem metadata_of_loaded {packageFile : String} {pkg : PackageFile Metadata RuntimeConfig}
    (h : fromFileVerified decoders sha256 publicKey packageFile (.ok file) = .ok pkg) :
    ∃ bytes, metadataRegion decoders file = some bytes ∧
      decoders.metadata bytes = .ok pkg.metadata := by
  rcases fromFileVerified_eq_ok h with ⟨verified, metadata, -, hload, hm, -, -, hdecode⟩
  rcases payloadTable_of_loaded hload with ⟨htable, hverify⟩
  refine ⟨metadata, ?_, hdecode⟩
  rw [metadataRegion, htable]
  exact extract_of_liesAt ((verify_eq_ok hverify).2 _ _ hm).2.1

end Load

section Constructed

variable {Version Timestamp RuntimeConfig : Type} (texts : Texts Version Timestamp)
  (decoders : Decoders PackageMetadata RuntimeConfig)

/-- The metadata region of the file states a version that is one, and a date that is a
    time. -/
def StatesVersion (file : Bytes) : Prop :=
  ∃ bytes m v now, metadataRegion decoders file = some bytes ∧ decoders.metadata bytes = .ok m ∧
    texts.parseVersion m.packageConfig.package.version = .ok v ∧
    m.buildDate = texts.timestamp now

variable {texts decoders} {sha256 : Bytes → Bytes} {publicKey : Except Error PublicKey}
  {file : Bytes}

/-- The metadata of a loaded file is one the constructor makes, and asking for its version
    does not panic, exactly if the bytes in the file state a version and a date. -/
theorem loaded_constructed_iff {packageFile : String}
    {pkg : PackageFile PackageMetadata RuntimeConfig}
    (h : fromFileVerified decoders sha256 publicKey packageFile (.ok file) = .ok pkg) :
    (Constructed texts pkg.metadata ∧ (pkg.metadata.version texts).isSome = true) ↔
      StatesVersion texts decoders file := by
  rcases metadata_of_loaded h with ⟨bytes, hregion, hdecode⟩
  rw [constructed_iff]
  constructor
  · rintro ⟨⟨hversion, now, hdate⟩, -⟩
    rcases version_isSome.mp hversion with ⟨v, hv⟩
    exact ⟨bytes, pkg.metadata, v, now, hregion, hdecode, hv, hdate⟩
  · rintro ⟨bytes', m, v, now, hregion', hdecode', hv, hdate⟩
    -- There is one region, and it is decoded to one value.
    rw [hregion, Option.some.injEq] at hregion'
    rw [← hregion', hdecode, Except.ok.injEq] at hdecode'
    rw [← hdecode'] at hv hdate
    have hversion := version_isSome.mpr ⟨v, hv⟩
    exact ⟨⟨hversion, now, hdate⟩, hversion⟩

end Constructed

section Sample

/-- A numeral without a sign. -/
def numeral (cs : List Char) : Option Nat :=
  if cs.isEmpty ∨ cs.any (fun c => !c.isDigit) then none
  else some (cs.foldl (fun n c => 10 * n + (c.toNat - 48)) 0)

/-- Versions of three numerals, and the times of one minute. -/
def plainTexts : Texts (Nat × Nat × Nat) (Fin 60) where
  parseVersion s :=
    match (s.toList.splitOn '.').map numeral with
    | [some major, some minor, some patch] => .ok (major, minor, patch)
    | _ => .error ["unexpected character while parsing a version number"]
  timestamp second :=
    "2026-01-01T00:00:" ++ toString (second.val / 10) ++ toString (second.val % 10) ++ "Z"

def encOption {α : Type} (enc : α → Bytes) : Option α → Bytes
  | none => [0]
  | some a => 1 :: enc a

def encBool (b : Bool) : Bytes := [if b then 1 else 0]

/-- The metadata as it is encoded, where its texts are plain. -/
def encMetadata (m : PackageMetadata) : Bytes :=
  let container := m.packageConfig.container
  let package := m.packageConfig.package
  let service := m.packageConfig.service
  let network (n : NetworkSection) : Bytes :=
    encOption (fun b => encOption encString b.1 ++ encOption encString b.2) n.bridge ++
      encOption encString n.mode
  -- One field after another, those of the configuration first.
  encOption encString container.dataDirs ++ encOption network container.network ++
    encBool container.security.mac ++ encBool container.security.seccomp ++
    encOption (fun n => leBytes 8 (n % 2 ^ 64).toNat) container.storageLimit ++
    encOption encBool package.autostart ++ encString package.description ++
    encString package.name ++ encString package.version ++ encOption encString service.busName ++
    encOption encBool service.remainAfterExit ++ encString service.serviceType ++
    encString m.buildDate ++ leBytes 4 (match m.pkgfsType with | .erofs => 0 | .ext4 => 1) ++
    leBytes 8 m.pkgfsVerityInfo.dataSize.toNat ++ leBytes 8 m.pkgfsVerityInfo.hashSize.toNat ++
    encString m.pkgfsVerityInfo.tableParams ++ leBytes 8 m.pkgfsVerityInfo.hashOffset.toNat

/-- The metadata of the package `a`, with the version it is given. -/
def metadataOf (version : String) : PackageMetadata where
  packageConfig :=
    { container := ⟨none, none, ⟨true, true⟩, none⟩
      package := ⟨none, "", "a", version⟩
      service := ⟨none, none, "simple"⟩ }
  buildDate := "2026-01-01T00:00:00Z"
  pkgfsType := .erofs
  pkgfsVerityInfo := ⟨4096, 4096, "1 4096 4096 1 1 sha256 00 -", 4096⟩

example : encMetadata (metadataOf "1.0.0") = metadataA := by decide +kernel

/-- What the decoders make of a file with this metadata. -/
def decodersOf (m : PackageMetadata) (regions : List (Nat × Nat)) :
    Decoders PackageMetadata Unit where
  payloadsSize := (decodersA regions).payloadsSize
  payloads := (decodersA regions).payloads
  metadata bytes :=
    if bytes.take (encMetadata m).length = encMetadata m then .ok m else .error ["UnexpectedEnd"]
  runtimeConfig := (decodersA regions).runtimeConfig
  json := (decodersA regions).json

/-- The regions of the signed payloads, of the signature and of the image, each of the
    first at the end of the one before. -/
def regionsOf (m : PackageMetadata) (image : Nat × Nat) : List (Nat × Nat) :=
  let first := (encMetadata m).length
  let second := first + runtimeConfigA.length
  let third := second + seccompA.length
  [(0, first), (first, runtimeConfigA.length), (second, seccompA.length), (third, third), image]

/-- A signed file with this metadata, no image, and a table that places one. -/
def fileOf (m : PackageMetadata) (image : Nat × Nat) : Bytes :=
  let signed := encMetadata m ++ runtimeConfigA ++ seccompA
  packageBytes (signed ++ signed) (regionsOf m image)

/-- How the file with this metadata is loaded. -/
def loadOf (m : PackageMetadata) (image : Nat × Nat) : Parsed (PackageFile PackageMetadata Unit) :=
  fromFileVerified (decodersOf m (regionsOf m image)) id (.ok idealPublic) "a.ssam"
    (.ok (fileOf m image))

/-- A package whose version is one, in a file that states it. -/
theorem loaded_constructed_plain :
    ∃ pkg, loadOf (metadataOf "1.0.0") (0, 0) = .ok pkg ∧
      ((Constructed plainTexts pkg.metadata ∧
          (pkg.metadata.version plainTexts).isSome = true) ↔
        StatesVersion plainTexts
          (decodersOf (metadataOf "1.0.0") (regionsOf (metadataOf "1.0.0") (0, 0)))
          (fileOf (metadataOf "1.0.0") (0, 0))) := by
  have hsome : (loadOf (metadataOf "1.0.0") (0, 0)).toOption.isSome = true := by decide +kernel
  cases hload : loadOf (metadataOf "1.0.0") (0, 0) with
  | error e =>
      rw [hload] at hsome
      exact absurd hsome Bool.false_ne_true
  | ok pkg => exact ⟨pkg, rfl, loaded_constructed_iff hload⟩

/-- A signed file whose version is `latest` is loaded, and asking for the version
    panics. -/
theorem unversioned_loaded :
    ∃ pkg, loadOf (metadataOf "latest") (0, 0) = .ok pkg ∧
      ¬ (Constructed plainTexts pkg.metadata ∧
        (pkg.metadata.version plainTexts).isSome = true) := by
  have hmetadata : (loadOf (metadataOf "latest") (0, 0)).toOption.map PackageFile.metadata =
      some (metadataOf "latest") := by
    decide +kernel
  cases hload : loadOf (metadataOf "latest") (0, 0) with
  | error e =>
      rw [hload] at hmetadata
      exact absurd hmetadata.symm (Option.some_ne_none _)
  | ok pkg =>
      rw [hload] at hmetadata
      have hpkg : pkg.metadata = metadataOf "latest" := Option.some.inj hmetadata
      refine ⟨pkg, rfl, fun h => ?_⟩
      have hversion := h.2
      rw [hpkg] at hversion
      exact absurd hversion (by decide +kernel)

end Sample

end Package

end Ssam
