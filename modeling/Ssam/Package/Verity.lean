import Ssam.Network.Actor
import Ssam.Package.Metadata

/-!
# The Table of a Verity Device

The table is made of the superblock that the formatting of an image leaves behind it,
when a package is built. Its fields are texts with blanks between them. It is signed
with the metadata, and completed with the path of the device when the package is
mounted.

What decodes the superblock is a parameter.

## Main definitions

* `VeritySuperBlock`: The superblock, as far as it is read.
* `buildTableParams`, `resolveTable`: The signed table, and the one of the device.
* `fromVerityImage`: What is signed of a formatted image.

## Theorems

* `fromVerityImage_eq_ok`: What the fields of the table are.
-/

namespace Ssam

namespace Package

open Lib
open Network (isWhitespace)

/-- The superblock of a hash tree. Its texts have a place of fixed size. -/
structure VeritySuperBlock where
  version : UInt32
  algorithm : Bytes
  dataBlockSize : UInt32
  hashBlockSize : UInt32
  dataBlocks : UInt64
  saltSize : UInt16
  salt : Bytes
  length_algorithm : algorithm.length = 32
  length_salt : salt.length = 256
  deriving DecidableEq

/-- The byte as two digits, of the base sixteen. -/
def hexByte (b : UInt8) : String :=
  String.ofList [(b.toNat / 16).digitChar, (b.toNat % 16).digitChar]

namespace VeritySuperBlock

/-- The bytes of the algorithm, which end before the first zero. -/
def algorithmBytes (sb : VeritySuperBlock) : Bytes := sb.algorithm.takeWhile (· ≠ 0)

def getAlgorithm (sb : VeritySuperBlock) : Except Error String :=
  match String.fromUTF8? ⟨sb.algorithmBytes.toArray⟩ with
  | none => .error ["invalid utf-8 sequence"]
  | some algorithm => do
      ensure (!algorithm.toList.any isWhitespace)
        "Invalid dm-verity superblock: algorithm field contains whitespace"
      .ok algorithm

def getSalt (sb : VeritySuperBlock) : Except Error String := do
  let saltSize := sb.saltSize.toNat
  ensure (saltSize ≤ sb.salt.length)
    (s!"Invalid dm-verity superblock: salt_size ({saltSize}) exceeds salt buffer length " ++
      s!"({sb.salt.length})")
  -- A salt that is empty has a field of its own, for else there would be none.
  if saltSize = 0 then .ok "-"
  else .ok ((sb.salt.take saltSize).foldl (fun acc byte => acc ++ hexByte byte) "")

end VeritySuperBlock

/-- The superblock at the offset. The kernel refuses to seek to one that is negative as
    a signed number. -/
def readSuperBlock (decode : Bytes → Except Error VeritySuperBlock) (hashFile : Bytes)
    (hashOffset : UInt64) : Except Error VeritySuperBlock :=
  if 2 ^ 63 ≤ hashOffset.toNat then .error ["Invalid argument (os error 22)"]
  else decode (hashFile.drop hashOffset.toNat)

/-- The table without the two paths, which come after the version. -/
def buildTableParams (version dataBlockSize hashBlockSize : UInt32)
    (dataBlocks hashStartBlock : UInt64) (algorithm rootHash salt : String) : String :=
  s!"{version} {dataBlockSize} {hashBlockSize} {dataBlocks} {hashStartBlock} {algorithm} " ++
    s!"{rootHash} {salt}"

/-- The text before the first blank, and the one after it. -/
def splitOnce (s : String) : Option (String × String) :=
  match s.toList.dropWhile (· ≠ ' ') with
  | [] => none
  | _ :: rest => some (String.ofList (s.toList.takeWhile (· ≠ ' ')), String.ofList rest)

/-- The table of the device: its path is put in twice after the version. -/
def PackageFsVerityInfo.resolveTable (info : PackageFsVerityInfo) (devPath : String) :
    Except Error String :=
  match splitOnce info.tableParams with
  | none => .error ["Invalid signed dm-verity table: missing fields"]
  | some (version, rest) => .ok s!"{version} {devPath} {devPath} {rest}"

/-- The first block of the hash tree, in blocks of data. -/
def hashStartBlock (dataSize : UInt64) (dataBlockSize : UInt32) : UInt64 :=
  dataSize / dataBlockSize.toUInt64 + 1

/-- What is signed of an image that has been formatted. -/
def fromVerityImage (decode : Bytes → Except Error VeritySuperBlock) (imagePath : String)
    (opened : Except Error Bytes) (dataSize hashSize hashOffset : UInt64) (rootHash : String) :
    Except Error PackageFsVerityInfo := do
  let hashFile ← context s!"Failed to open verity image for superblock read: {imagePath}" opened
  let sb ← context "Failed to read dm-verity superblock while building signed table"
    (readSuperBlock decode hashFile hashOffset)
  let algorithm ← sb.getAlgorithm
  let salt ← sb.getSalt
  -- The size of the data blocks is a divisor below.
  ensure (sb.dataBlockSize != 0 && sb.hashBlockSize != 0)
    ("Invalid dm-verity superblock: block sizes must be non-zero " ++
      s!"(data_block_size={sb.dataBlockSize}, hash_block_size={sb.hashBlockSize})")
  let tableParams := buildTableParams sb.version sb.dataBlockSize sb.hashBlockSize sb.dataBlocks
    (hashStartBlock dataSize sb.dataBlockSize) algorithm rootHash salt
  .ok ⟨dataSize, hashSize, tableParams, hashOffset⟩

/-- An image is accepted if its superblock is, and its fields are those of the table. -/
theorem fromVerityImage_eq_ok {decode : Bytes → Except Error VeritySuperBlock}
    {imagePath : String} {hashFile : Bytes} {dataSize hashSize hashOffset : UInt64}
    {rootHash : String} {info : PackageFsVerityInfo}
    (h : fromVerityImage decode imagePath (.ok hashFile) dataSize hashSize hashOffset rootHash =
      .ok info) :
    ∃ sb algorithm salt, readSuperBlock decode hashFile hashOffset = .ok sb ∧
      sb.getAlgorithm = .ok algorithm ∧ sb.getSalt = .ok salt ∧
      sb.dataBlockSize ≠ 0 ∧ sb.hashBlockSize ≠ 0 ∧
      info = ⟨dataSize, hashSize, buildTableParams sb.version sb.dataBlockSize sb.hashBlockSize
        sb.dataBlocks (hashStartBlock dataSize sb.dataBlockSize) algorithm rootHash salt,
        hashOffset⟩ := by
  unfold fromVerityImage at h
  simp only [except_bind_eq_ok, context_eq_ok, Except.ok.injEq, exists_eq_left'] at h
  rcases h with ⟨sb, hsb, algorithm, halgorithm, salt, hsalt, ⟨⟩, hblocks, hinfo⟩
  have hnonzero := Bool.and_eq_true_iff.mp (ensure_eq_ok.mp hblocks)
  exact ⟨sb, algorithm, salt, hsb, halgorithm, hsalt, bne_iff_ne.mp hnonzero.1,
    bne_iff_ne.mp hnonzero.2, hinfo.symm⟩

end Package

end Ssam
