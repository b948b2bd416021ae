import Mathlib.Algebra.Order.Floor.Div
import Ssam.Package.Verity

/-!
# Formatting an Image, and the Device on it

When a package is built, a hash tree is put behind its image. The image is padded to the
block size of its file system, and `veritysetup` does the rest. What it leaves behind is
read again, and becomes the signed table. When the package is mounted, the table and the
size of the image become the target of a device.

What decodes the superblocks and what runs the command are parameters.

## Main definitions

* `FileSystemSuperBlockBroker.new`, `SuperBlock.blockSize`: The block size of an image.
* `alignedHashOffset`: Where the hash tree may begin.
* `FormatVerity.new`, `FormatVerity.run`: Formatting an image.
* `makeTarget`: The target of the device.

## Theorems

* `blockSize_eq_ok`: The block sizes that are accepted.
* `toNat_alignedHashOffset`: The padded size, which does not overflow.
-/

namespace Ssam

namespace Package

open Lib
open Network (isWhitespace)

/-- The superblock of EROFS, as far as it is read. -/
structure ErofsSuperBlock where
  magic : UInt32
  blkszbits : UInt8
  deriving DecidableEq

def erofsSuperMagic : UInt32 := 0xe0f5e1e2

def erofsMaxBlkszbits : UInt8 := 16

def ErofsSuperBlock.blockSize (sb : ErofsSuperBlock) : Except Error UInt32 := do
  ensure (sb.blkszbits ≤ erofsMaxBlkszbits)
    s!"EROFS blkszbits {sb.blkszbits} exceeds maximum {erofsMaxBlkszbits}"
  .ok (UInt32.ofNat (2 ^ sb.blkszbits.toNat))

def ErofsSuperBlock.verify (sb : ErofsSuperBlock) : Bool := sb.magic == erofsSuperMagic

/-- The superblock of ext4, as far as it is read. -/
structure Ext4SuperBlock where
  sLogBlockSize : UInt32
  sMagic : UInt16
  deriving DecidableEq

def ext4SuperMagic : UInt16 := 0xef53

def ext4MaxSLogBlockSize : UInt32 := 6

def Ext4SuperBlock.blockSize (sb : Ext4SuperBlock) : Except Error UInt32 := do
  ensure (sb.sLogBlockSize ≤ ext4MaxSLogBlockSize)
    s!"ext4 s_log_block_size {sb.sLogBlockSize} exceeds maximum {ext4MaxSLogBlockSize}"
  .ok (1024 <<< sb.sLogBlockSize)

def Ext4SuperBlock.verify (sb : Ext4SuperBlock) : Bool := sb.sMagic == ext4SuperMagic

inductive SuperBlock where
  | erofs (sb : ErofsSuperBlock)
  | ext4 (sb : Ext4SuperBlock)
  deriving DecidableEq

namespace SuperBlock

def blockSize : SuperBlock → Except Error UInt32
  | erofs sb => sb.blockSize
  | ext4 sb => sb.blockSize

end SuperBlock

/-- What decodes the superblocks, each from the bytes it starts at. -/
structure SuperBlockDecoders where
  erofs : Bytes → Except Error ErofsSuperBlock
  ext4 : Bytes → Except Error Ext4SuperBlock
  verity : Bytes → Except Error VeritySuperBlock

/-- The superblock of one of the file systems, which begins 1024 bytes into the image. -/
def getSuperblock {S : Type} (decode : Bytes → Except Error S) (verify : S → Bool)
    (path : String) (opened : Except Error RegularFile) : Except Error S := do
  let fd ← context "File open error" opened
  let sb ← context s!"Cannot get correct superblock. Please check the file: {path}"
    (decode (fd.bytes.drop 1024))
  ensure (verify sb) "Invalid filesystem, check if the file is a correct EROFS image."
  .ok sb

/-- The superblock of an image, which is EROFS or else ext4. -/
def FileSystemSuperBlockBroker.new (decoders : SuperBlockDecoders) (path : String)
    (opened : Except Error RegularFile) : Except Error SuperBlock :=
  context (s!"Error while getting filesystem superblock from {path}. " ++
    "The file might not be the type of erofs or ext4")
    (match getSuperblock decoders.erofs ErofsSuperBlock.verify path opened with
      | .ok sb => .ok (.erofs sb)
      | .error _ =>
          (getSuperblock decoders.ext4 Ext4SuperBlock.verify path opened).map SuperBlock.ext4)

/-- The quotient, and one more if there is a remainder. -/
def divCeil (a b : UInt64) : UInt64 := if a % b = 0 then a / b else a / b + 1

/-- The first block boundary from the end of the image on. -/
def alignedHashOffset (dataSize blockSize : UInt64) : UInt64 :=
  divCeil dataSize blockSize * blockSize

/-- The arguments of `veritysetup format`, after the ones given. -/
def buildFormatArgs (blockSize hashOffset : UInt64) (includeSuperblock : Bool)
    (rootHashFile : Option String) (imagePath : String) (extraArgs : List String) :
    List String :=
  let superblock := if includeSuperblock then "" else "--no-superblock"
  let rootHash := (rootHashFile.map fun p => s!"--root-hash-file={p}").getD ""
  extraArgs ++ [s!"--data-block-size={blockSize}", s!"--hash-offset={hashOffset}", superblock,
    rootHash, imagePath, imagePath].filter (· ≠ "")

/-- An image that is to be formatted. -/
structure FormatVerity where
  args : List String
  imagePath : String
  rootHashFile : Option String
  dataSize : UInt64
  hashOffset : UInt64

/-- What the command leaves behind. -/
structure FormatOutput where
  success : Bool
  status : String
  stderr : String
  image : Except Error RegularFile
  /-- What is in the file for the root hash. -/
  rootHash : Except Error String

namespace FormatVerity

def fromParts (imagePath : String) (rootHashFile : Option String) (blockSize dataSize : UInt64)
    (includeSuperblock : Bool) (extraArgs : List String) : FormatVerity :=
  let hashOffset := alignedHashOffset dataSize blockSize
  ⟨buildFormatArgs blockSize hashOffset includeSuperblock rootHashFile imagePath extraArgs,
    imagePath, rootHashFile, dataSize, hashOffset⟩

/-- The data of the image ends where the image does, as it is before it is formatted. -/
def new (decoders : SuperBlockDecoders) (imagePath : String)
    (opened : Except Error RegularFile) (rootHashFile : Option String)
    (includeSuperblock : Bool) (extraArgs : List String) : Except Error FormatVerity := do
  let fsSuperblock ← FileSystemSuperBlockBroker.new decoders imagePath opened
  let blockSize ← fsSuperblock.blockSize
  let image ← opened
  .ok (fromParts imagePath rootHashFile blockSize.toUInt64 image.size includeSuperblock
    extraArgs)

/-- The text without white space at its ends. -/
def trim (s : String) : String :=
  String.ofList (((s.toList.dropWhile isWhitespace).reverse.dropWhile isWhitespace).reverse)

/-- The root hash, if it is written to a file. -/
def readRootHash (rootHashFile : Option String) (content : Except Error String) :
    Except Error String :=
  match rootHashFile with
  | some _ => (context "Failed to read root hash file" content).map trim
  | none => .ok ""

/-- The size of the tree is what the image has grown by, from the offset on. -/
def run (decode : Bytes → Except Error VeritySuperBlock)
    (runner : List String → Except Error FormatOutput) (f : FormatVerity) :
    Except Error PackageFsVerityInfo := do
  let joined := " ".intercalate f.args
  let output ← context s!"Failed to run veritysetup format {joined}" (runner f.args)
  ensure output.success
    ("Failed to create dm-verity hash tree: process exited with status " ++
      s!"{output.status}. Errmsg: {output.stderr}")
  let image ← context "Failed to get pkgfs image file metadata after verity formatting"
    output.image
  -- The tree is what the command has put behind the offset.
  ensure (f.hashOffset ≤ image.size)
    ("Image file smaller than expected after verity formatting: " ++
      "hash_offset exceeds file size")
  let rootHash ← readRootHash f.rootHashFile output.rootHash
  fromVerityImage decode f.imagePath (.ok image.bytes) f.dataSize (image.size - f.hashOffset)
    f.hashOffset rootHash

end FormatVerity

/-- A target of a device, in sectors. -/
structure DMTargetInfo where
  sectorStart : UInt64
  sectorSize : UInt64
  targetType : String
  params : String
  deriving DecidableEq

/-- The target of a verity device on the one at the path, whose sectors have a size. -/
def makeTarget (sectorSize : Except Error UInt32) (devPath : String)
    (verityInfo : PackageFsVerityInfo) : Except Error DMTargetInfo := do
  let size ← sectorSize
  let sectorCount := verityInfo.dataSize / size.toUInt64
  let tableParams ← verityInfo.resolveTable devPath
  .ok ⟨0, sectorCount, "verity", tableParams⟩

/-- The block sizes that are accepted are powers of two, and none is above 64 KiB. -/
theorem blockSize_eq_ok {sb : SuperBlock} {blockSize : UInt32} (h : sb.blockSize = .ok blockSize) :
    ∃ b, b ≤ 16 ∧ blockSize.toNat = 2 ^ b := by
  cases sb with
  -- At most 16 bits, so the shift loses none.
  | erofs sb =>
      rcases ensure_bind_eq_ok.mp h with ⟨hmax, hsize⟩
      have hbits : sb.blkszbits.toNat ≤ 16 := UInt8.le_iff_toNat_le.mp (of_decide_eq_true hmax)
      have hlt : 2 ^ sb.blkszbits.toNat < 2 ^ 32 := Nat.pow_lt_pow_right (by decide) (by omega)
      refine ⟨sb.blkszbits.toNat, hbits, ?_⟩
      rw [← Except.ok.inj hsize, UInt32.toNat_ofNat', Nat.mod_eq_of_lt hlt]
  -- At most 6, on top of the 1024 of the smallest block.
  | ext4 sb =>
      rcases ensure_bind_eq_ok.mp h with ⟨hmax, hsize⟩
      have hlog : sb.sLogBlockSize.toNat ≤ 6 :=
        UInt32.le_iff_toNat_le.mp (of_decide_eq_true hmax)
      have hlt : 2 ^ (sb.sLogBlockSize.toNat + 10) < 2 ^ 32 :=
        Nat.pow_lt_pow_right (by decide) (by omega)
      have hshift : sb.sLogBlockSize.toNat % 32 = sb.sLogBlockSize.toNat :=
        Nat.mod_eq_of_lt (by omega)
      have hpow : (1024 : UInt32).toNat * 2 ^ sb.sLogBlockSize.toNat =
          2 ^ (sb.sLogBlockSize.toNat + 10) := by
        rw [Nat.pow_add, Nat.mul_comm]
        rfl
      refine ⟨sb.sLogBlockSize.toNat + 10, by omega, ?_⟩
      rw [← Except.ok.inj hsize, UInt32.toNat_shiftLeft, hshift, Nat.shiftLeft_eq, hpow,
        Nat.mod_eq_of_lt hlt]

/-- A quotient that is rounded up lies above the one before. -/
theorem ceilDiv_eq_succ_iff {a b q : Nat} (hb : 0 < b) :
    a ⌈/⌉ b = q + 1 ↔ b * q < a ∧ a ≤ b * (q + 1) := by
  rw [← not_le, ← ceilDiv_le_iff_le_mul hb, ← ceilDiv_le_iff_le_mul hb]
  omega

/-- The quotient is rounded up, without overflow. -/
theorem toNat_divCeil {a b : UInt64} (hb : 0 < b.toNat) :
    (divCeil a b).toNat = a.toNat ⌈/⌉ b.toNat := by
  have hdiv := Nat.div_add_mod a.toNat b.toNat
  have hmod := Nat.mod_lt a.toNat hb
  rw [divCeil]
  split
  · -- Nothing is left over.
    rename_i hzero
    have hzero : a.toNat % b.toNat = 0 := by
      rw [← UInt64.toNat_mod, hzero]
      rfl
    have hexact := smul_ceilDiv hb (a.toNat / b.toNat)
    rw [hzero, Nat.add_zero] at hdiv
    rw [smul_eq_mul, hdiv] at hexact
    rw [UInt64.toNat_div, hexact]
  · -- Something is, and a divisor of one would leave nothing, so one more fits.
    rename_i hnonzero
    have hpos : 0 < a.toNat % b.toNat := by
      refine Nat.pos_of_ne_zero fun hzero => hnonzero (UInt64.toNat_inj.mp ?_)
      rw [UInt64.toNat_mod, hzero]
      rfl
    have hceil : a.toNat ⌈/⌉ b.toNat = a.toNat / b.toNat + 1 := by
      rw [ceilDiv_eq_succ_iff hb, Nat.mul_add, Nat.mul_one]
      omega
    have hle : a.toNat / b.toNat ≤ b.toNat * (a.toNat / b.toNat) := Nat.le_mul_of_pos_left _ hb
    have hlt := a.toNat_lt
    have hone : (1 : UInt64).toNat = 1 := rfl
    rw [hceil, UInt64.toNat_add, UInt64.toNat_div, hone, Nat.mod_eq_of_lt (by omega)]

/-- The padded size is the first multiple of the block size, and has a place. -/
theorem toNat_alignedHashOffset {dataSize blockSize : UInt64} (hpos : 0 < blockSize.toNat)
    (hfits : dataSize.toNat + blockSize.toNat < 2 ^ 64) :
    (alignedHashOffset dataSize blockSize).toNat =
      (dataSize.toNat ⌈/⌉ blockSize.toNat) * blockSize.toNat := by
  -- The padding is less than a block.
  have hle : (dataSize.toNat ⌈/⌉ blockSize.toNat) * blockSize.toNat <
      dataSize.toNat + blockSize.toNat := by
    rw [Nat.ceilDiv_eq_add_pred_div]
    have hmul := Nat.div_mul_le_self (dataSize.toNat + blockSize.toNat - 1) blockSize.toNat
    omega
  rw [alignedHashOffset, UInt64.toNat_mul, toNat_divCeil hpos, Nat.mod_eq_of_lt (by omega)]

end Package

end Ssam
