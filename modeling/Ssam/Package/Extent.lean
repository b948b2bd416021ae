import Ssam.Lib.Calls
import Ssam.Mount.Pkgfs
import Ssam.Package.Metadata

/-!
# The Image of a Loaded Package

A loop device is put over the image of a package, which the table of its file places.
Nothing signs the table, and the loader looks at the image's place in it no more than it
looks at the image. The signed metadata says how far into the image its hash tree goes.

So the device lies in the file and covers the tree if and only if the place passes the
check that the loader makes of the payloads it reads, and is as long as the metadata has
it.

## Main definitions

* `PackageFilesystem`, `PackageFile.pkgfs`: The image of a package.
* `loadedPackageFs`: What the image is mounted with.
* `Contained`: An extent lies in the file and covers the hash tree.
* `ImageFits`: The table of the file places the image well.

## Theorems

* `verify_image_entry`: The image's place plays no part in what is verified.
* `only_attach_iff`: The extent of the loop device.
* `image_extent_iff`: When the extent is contained.
* `image_beyond_file`: An accepted file whose image lies beyond its end.
-/

namespace Ssam

namespace Package

open Lib
open Mount (MountConfig PackageFsMetadata PkgfsInfo Syscall mountPkgfs)

/-- The image of a package. -/
structure PackageFilesystem where
  payload : Payload
  pkgfsType : FsType
  verityInfo : PackageFsVerityInfo
  deriving DecidableEq

/-- Where in the file the image lies. -/
structure PkgfsExtent where
  offset : UInt64
  length : UInt64
  deriving DecidableEq

/-- The extent of an image that is a part of the file. -/
def PackageFilesystem.pkgfsExtent (fs : PackageFilesystem) : Option PkgfsExtent :=
  match fs.payload with
  | .internal offset length => some ⟨offset, length⟩
  | .external _ => none
  | .data _ => none

def FsType.name : FsType → String
  | .erofs => "erofs"
  | .ext4 => "ext4"

variable {RuntimeConfig : Type}

/-- The image of the package, as its table and its metadata describe it. -/
def PackageFile.pkgfs (pkg : PackageFile PackageMetadata RuntimeConfig) :
    Except Error PackageFilesystem :=
  match pkg.payloads.get .packageFilesystem with
  | none => .error ["No pkgfs found in package file"]
  | some payload => .ok ⟨payload, pkg.metadata.pkgfsType, pkg.metadata.pkgfsVerityInfo⟩

/-- What the image of the package in the file at the path is mounted with. -/
def loadedPackageFs (cfg : MountConfig) (path : String)
    (pkg : PackageFile PackageMetadata RuntimeConfig) : Except Error (PackageFsMetadata cfg) :=
  PackageFsMetadata.new cfg path pkg.metadata.packageConfig.package.name
    (pkg.pkgfs.map fun fs => ⟨fs.pkgfsType.name,
      fs.pkgfsExtent.map fun extent => (extent.offset.toNat, extent.length.toNat)⟩)

/-- The extent lies in the file and covers the hash tree, and both ends are numbers of 64
    bits. -/
structure Contained (fileSize offset length : Nat) (info : PackageFsVerityInfo) : Prop where
  inFile : offset + length ≤ fileSize
  covers : info.hashOffset.toNat + info.hashSize.toNat ≤ length
  end_lt : offset + length < 2 ^ 64
  hash_lt : info.hashOffset.toNat + info.hashSize.toNat < 2 ^ 64

/-- A loop device is attached to a contained extent only. -/
def AttachContained (fileSize : Nat) (info : PackageFsVerityInfo) : {β : Type} → Syscall β → Prop
  | _, .attach _ offset length => Contained fileSize offset length info
  | _, _ => True

section Verify

/-- What is not signed is passed over. -/
theorem verifyEntry_unsigned (file : Bytes) (p : Payloads) (acc : Bytes × VerifiedPayloads)
    {t : PayloadType} (h : t.needVerify = false) :
    Payloads.verifyEntry file p acc t = .ok acc := by
  unfold Payloads.verifyEntry
  cases p t with
  | none => rfl
  | some payload =>
      dsimp only
      rw [h, if_neg Bool.false_ne_true]

/-- The image's place plays no part in what is verified. -/
theorem verify_image_entry (sha256 : Bytes → Bytes) (publicKey : Except Error PublicKey)
    (file : Bytes) (p : Payloads) (entry : Option (Option Payload)) :
    Payloads.verify sha256 publicKey file (Function.update p .packageFilesystem entry) =
      p.verify sha256 publicKey file := by
  have hother : ∀ t, t ≠ .packageFilesystem →
      (Function.update p .packageFilesystem entry : Payloads) t = p t :=
    fun t ht => Function.update_of_ne ht _ _
  -- The one entry that differs is not among those that are verified.
  have hentries : Payloads.verifyEntry file (Function.update p .packageFilesystem entry) =
      Payloads.verifyEntry file p := by
    funext acc t
    by_cases ht : t = .packageFilesystem
    · rw [ht, verifyEntry_unsigned _ _ _ rfl, verifyEntry_unsigned _ _ _ rfl]
    · rw [Payloads.verifyEntry, Payloads.verifyEntry, hother t ht]
  have hsignature : Payloads.readSignature file (Function.update p .packageFilesystem entry) =
      Payloads.readSignature file p := by
    funext key
    rw [Payloads.readSignature, Payloads.readSignature, Payloads.get, Payloads.get,
      hother .signature (by decide)]
  unfold Payloads.verify
  simp only [hentries, hsignature]

end Verify

section Attach

variable {cfg : MountConfig} {fileSize : Nat} {info : PackageFsVerityInfo}

theorem only_makeDirs (dir : Mount.MountDir) (shown : String) :
    (Mount.makeDirs dir shown).Only (AttachContained fileSize info) :=
  Prog.only_context (Prog.only_try_ trivial)

theorem only_doMount (md : PackageFsMetadata cfg) (layer : Mount.Layer) (source fstype : String)
    (data : Option String) :
    (Mount.doMount md layer source fstype data).Only (AttachContained fileSize info) := by
  refine Prog.only_bind (Prog.only_ask trivial) fun present => ?_
  have hmount : (Prog.try_ (Syscall.mount layer source fstype data) : Mount.Mounting Unit).Only
      (AttachContained fileSize info) := Prog.only_try_ trivial
  cases present with
  | true => exact Prog.only_context hmount
  | false => exact Prog.only_bind (only_makeDirs _ _) fun _ => Prog.only_context hmount

theorem only_mountDevice (blkdev : String) (md : PackageFsMetadata cfg) :
    (Mount.mountDevice blkdev md).Only (AttachContained fileSize info) := by
  refine Prog.only_bind (only_doMount md _ _ _ _) fun _ => ?_
  -- An overlay is made only where the package wants one.
  split
  · refine Prog.only_bind (Prog.only_attempt ?_) fun overlaid => ?_
    · exact Prog.only_bind (only_makeDirs _ _) fun _ =>
        Prog.only_bind (only_makeDirs _ _) fun _ => only_doMount md _ _ _ _
    · cases overlaid with
      | ok _ => exact trivial
      | error e =>
          exact Prog.only_bind
            (Prog.only_attempt (Prog.only_context (Prog.only_try_ trivial))) fun _ => trivial
  · exact trivial

/-- The loop device is attached to the extent the image is mounted with. -/
theorem only_attach_iff (pkgName : String) (md : PackageFsMetadata cfg) :
    (mountPkgfs pkgName md).Only (AttachContained fileSize info) ↔
      Contained fileSize md.pkgfsOffset md.length info := by
  constructor
  · intro h
    -- Where nothing is mounted, the first thing done is to attach the device.
    have hattach : AttachContained fileSize info (Syscall.attach md.path md.pkgfsOffset md.length) ∧
        _ := h.2 false
    exact hattach.1
  · intro h
    refine Prog.only_bind (Prog.only_ask trivial) fun mounted => ?_
    cases mounted with
    | true => exact trivial
    | false =>
        refine Prog.only_bind (Prog.only_context (Prog.only_try_ h)) fun _ => ?_
        refine Prog.only_bind (Prog.only_ask trivial) fun loopDev => ?_
        cases loopDev with
        | none => exact trivial
        | some loopDev =>
            refine Prog.only_bind (Prog.only_context (Prog.only_try_ trivial)) fun device => ?_
            exact Prog.only_context (only_mountDevice device md)

end Attach

section Loaded

variable {cfg : MountConfig} {path : String}

/-- A package with a safe name has an extent to be mounted if there is one in its file. -/
theorem new_extent_iff {name : String} {info : PkgfsInfo} {offset length : Nat} :
    (∃ md, PackageFsMetadata.new cfg path name (.ok info) = .ok md ∧ md.pkgfsOffset = offset ∧
        md.length = length) ↔
      isSafePathSegment name = true ∧ info.extent = some (offset, length) := by
  rcases info with ⟨fstype, extent⟩
  constructor
  · rintro ⟨md, h, rfl, rfl⟩
    rcases ensure_bind_eq_ok.mp h with ⟨hname, h⟩
    cases extent with
    | none => exact absurd h (by rintro ⟨⟩)
    | some place =>
        rw [← Except.ok.inj h]
        exact ⟨hname, rfl⟩
  · rintro ⟨hname, rfl⟩
    exact ⟨_, ensure_bind_eq_ok.mpr ⟨hname, rfl⟩, rfl, rfl⟩

/-- The image of a package is mounted from its place in the table, if the package has a
    safe name. -/
theorem loadedPackageFs_iff {pkg : PackageFile PackageMetadata RuntimeConfig}
    {offset length : Nat} :
    (∃ md : PackageFsMetadata cfg, loadedPackageFs cfg path pkg = .ok md ∧
        md.pkgfsOffset = offset ∧ md.length = length) ↔
      isSafePathSegment pkg.metadata.packageConfig.package.name = true ∧
        ∃ o l, pkg.payloads .packageFilesystem = some (some (.internal o l)) ∧
          o.toNat = offset ∧ l.toNat = length := by
  unfold loadedPackageFs PackageFile.pkgfs Payloads.get
  rcases pkg.payloads .packageFilesystem with _ | _ | payload
  · -- Without an entry, or with an empty one, nothing is mounted.
    refine iff_of_false ?_ (by rintro ⟨-, o, l, ⟨⟩, -⟩)
    rintro ⟨md, ⟨⟩, -⟩
  · refine iff_of_false ?_ (by rintro ⟨-, o, l, ⟨⟩, -⟩)
    rintro ⟨md, ⟨⟩, -⟩
  · rw [Option.join_some]
    refine new_extent_iff.trans (and_congr_right fun _ => ?_)
    cases payload with
    | internal o l =>
        constructor
        · intro h
          have hplace := Prod.mk.inj (Option.some.inj h)
          exact ⟨o, l, rfl, hplace.1, hplace.2⟩
        · rintro ⟨o, l, ⟨⟩, rfl, rfl⟩
          rfl
    -- A payload in a file of its own or in memory has no place.
    | external file => exact iff_of_false (by rintro ⟨⟩) (by rintro ⟨o, l, ⟨⟩, -⟩)
    | data bytes => exact iff_of_false (by rintro ⟨⟩) (by rintro ⟨o, l, ⟨⟩, -⟩)

end Loaded

section Extent

variable (decoders : Decoders PackageMetadata RuntimeConfig)

/-- If the file has a package with a safe name and a place for its image, the place passes
    the check of the payloads that are read, and is as long as the metadata has it. -/
def ImageFits (file : Bytes) : Prop :=
  ∀ table region m offset length, payloadTable decoders file = some table →
    metadataRegion decoders file = some region → decoders.metadata region = .ok m →
    isSafePathSegment m.packageConfig.package.name = true →
    table .packageFilesystem = some (some (.internal offset length)) →
      seekToPayload file offset length = .ok () ∧
        m.pkgfsVerityInfo.hashOffset.toNat + m.pkgfsVerityInfo.hashSize.toNat ≤ length.toNat

variable {decoders} {sha256 : Bytes → Bytes} {publicKey : Except Error PublicKey}
  {file : RegularFile}

/-- The check is one of the region, though the sum of its bounds saturates. -/
theorem seekToPayload_eq_ok {offset size : UInt64} :
    seekToPayload file.bytes offset size = .ok () ↔
      offset.toNat + size.toNat ≤ file.bytes.length := by
  have hlen := file.length_lt
  unfold seekToPayload
  split
  · refine iff_of_false (by rintro ⟨⟩) ?_
    omega
  · refine iff_of_true rfl ?_
    omega

/-- The loop devices over a loaded image lie in its file and cover its hash tree exactly if
    the file has the image in a place that fits. -/
theorem image_extent_iff {packageFile : String} {pkg : PackageFile PackageMetadata RuntimeConfig}
    (h : fromFileVerified decoders sha256 publicKey packageFile (.ok file.bytes) = .ok pkg) :
    (∀ (cfg : MountConfig) (path pkgName : String) (md : PackageFsMetadata cfg),
        loadedPackageFs cfg path pkg = .ok md →
          (mountPkgfs pkgName md).Only
            (AttachContained file.bytes.length pkg.metadata.pkgfsVerityInfo)) ↔
      ImageFits decoders file.bytes := by
  rcases metadata_of_loaded h with ⟨region, hregion, hmetadata⟩
  have htable : payloadTable decoders file.bytes = some pkg.payloads := by
    rcases fromFileVerified_eq_ok h with ⟨verified, -, -, hload, -⟩
    exact (payloadTable_of_loaded hload).1
  constructor
  · -- One mount point is enough to find the extent.
    intro hcontained table region' m offset length htable' hregion' hm hname hplace
    rw [htable, Option.some.injEq] at htable'
    rw [hregion, Option.some.injEq] at hregion'
    rw [← hregion', hmetadata, Except.ok.injEq] at hm
    subst htable' hm
    rcases loadedPackageFs_iff.mpr ⟨hname, offset, length, hplace, rfl, rfl⟩ with
      ⟨md, hmd, hoffset, hlength⟩
    have hextent := (only_attach_iff "" md).mp (hcontained ⟨"", ""⟩ "" "" md hmd)
    rw [hoffset, hlength] at hextent
    exact ⟨seekToPayload_eq_ok.mpr hextent.inFile, hextent.covers⟩
  · -- Every mount of the package has the extent of the table.
    intro hfits cfg path pkgName md hmd
    rcases loadedPackageFs_iff.mp ⟨md, hmd, rfl, rfl⟩ with
      ⟨hname, offset, length, hplace, hoffset, hlength⟩
    rcases hfits _ _ _ _ _ htable hregion hmetadata hname hplace with ⟨hseek, hcovers⟩
    have hin := seekToPayload_eq_ok.mp hseek
    have hlen := file.length_lt
    have hlt := length.toNat_lt
    rw [only_attach_iff, ← hoffset, ← hlength]
    exact ⟨hin, hcovers, by omega, by omega⟩

end Extent

section Sample

/-- The file of the package `a`, with its image in this place. -/
def fileAt (image : Nat × Nat) (h : (fileOf (metadataOf "1.0.0") image).length < 2 ^ 63) :
    RegularFile :=
  ⟨fileOf (metadataOf "1.0.0") image, h⟩

theorem length_fileAt : (fileOf (metadataOf "1.0.0") (0, 8192)).length < 2 ^ 63 := by
  decide +kernel

/-- What the loader makes of that file. -/
theorem loadOf_fileAt :
    ∃ pkg, loadOf (metadataOf "1.0.0") (0, 8192) = .ok pkg ∧
      pkg.metadata = metadataOf "1.0.0" ∧
      pkg.payloads .packageFilesystem = some (some (.internal 0 8192)) := by
  have hsome : (loadOf (metadataOf "1.0.0") (0, 8192)).toOption.map
      (fun pkg => (pkg.metadata, pkg.payloads .packageFilesystem)) =
        some (metadataOf "1.0.0", some (some (.internal 0 8192))) := by
    decide +kernel
  cases hload : loadOf (metadataOf "1.0.0") (0, 8192) with
  | error e =>
      rw [hload] at hsome
      exact absurd hsome.symm (Option.some_ne_none _)
  | ok pkg =>
      rw [hload] at hsome
      have hpair := Prod.mk.inj (Option.some.inj hsome)
      exact ⟨pkg, rfl, hpair.1, hpair.2⟩

/-- The condition for that file. -/
theorem image_extent_sample :
    ∃ pkg, loadOf (metadataOf "1.0.0") (0, 8192) = .ok pkg ∧
      ((∀ (cfg : MountConfig) (path pkgName : String) (md : PackageFsMetadata cfg),
          loadedPackageFs cfg path pkg = .ok md →
            (mountPkgfs pkgName md).Only (AttachContained
              (fileAt (0, 8192) length_fileAt).bytes.length pkg.metadata.pkgfsVerityInfo)) ↔
        ImageFits (decodersOf (metadataOf "1.0.0") (regionsOf (metadataOf "1.0.0") (0, 8192)))
          (fileAt (0, 8192) length_fileAt).bytes) := by
  rcases loadOf_fileAt with ⟨pkg, hload, -, -⟩
  exact ⟨pkg, hload,
    @image_extent_iff _ _ _ _ (fileAt (0, 8192) length_fileAt) "a.ssam" pkg hload⟩

/-- The file is accepted, and a loop device is attached to a part of it that it has not. -/
theorem image_beyond_file :
    ∃ pkg, loadOf (metadataOf "1.0.0") (0, 8192) = .ok pkg ∧
      ∃ md : PackageFsMetadata ⟨"", "/mnt"⟩, loadedPackageFs _ "/a.ssam" pkg = .ok md ∧
        ¬ (mountPkgfs "a" md).Only (AttachContained
          (fileAt (0, 8192) length_fileAt).bytes.length pkg.metadata.pkgfsVerityInfo) := by
  rcases loadOf_fileAt with ⟨pkg, hload, hmetadata, hplace⟩
  have hname : isSafePathSegment pkg.metadata.packageConfig.package.name = true := by
    rw [hmetadata]
    decide +kernel
  rcases loadedPackageFs_iff.mpr ⟨hname, 0, 8192, hplace, rfl, rfl⟩ with
    ⟨md, hmd, hoffset, hlength⟩
  refine ⟨pkg, hload, md, hmd, fun honly => ?_⟩
  have hin := ((only_attach_iff "a" md).mp honly).inFile
  rw [hoffset, hlength] at hin
  have hshort : (fileAt (0, 8192) length_fileAt).bytes.length < 8192 := by decide +kernel
  exact absurd hin (Nat.not_le.mpr hshort)

end Sample

end Package

end Ssam
