import Ssam.Package.RoundTrip
import Ssam.Package.VeritySetup
import Ssam.Package.VerityTokens

/-!
# Where the Hash Tree Begins

The table gives the first block of the hash tree in blocks of the tree. It is taken as
the block of data behind the superblock, which is the same only if both kinds of blocks
have one size. The device ends where the image does, in sectors, while the superblock has
the data end at the next boundary of a block. So the table and the device fit what
`veritysetup` has made if and only if the image is empty, or the blocks have one size and
the image is a number of them.

What is relied on of `veritysetup` is `Formatted`.

## Main definitions

* `treeOffset`: Where the hash tree begins.
* `Formatted`: What `veritysetup` makes of an image.
* `tableNumber`: A field of the signed table, as a number.
* `Geometry`: The table and the device fit the formatted image.

## Theorems

* `blocks_fit_iff`: The condition, on numbers.
* `tableNumber_start`: The field of the first block of the tree.
* `verity_geometry_iff`: The condition, for an image that is formatted.
* `decodeVerity_encVerity`: A superblock is read back from its bytes.
* `image_cut_off`: An image whose size is not that of its blocks.
-/

namespace Ssam

namespace Package

open Lib

/-- The hash tree begins at the first of its blocks behind the superblock, which has 512
    bytes. -/
def treeOffset (hashOffset hashBlockSize : Nat) : Nat :=
  (hashOffset + 512) ⌈/⌉ hashBlockSize * hashBlockSize

/-- The superblock that `veritysetup` leaves at the offset: it has the blocks of data it
    was asked for, up to the offset. Blocks of the tree have a size of its own choice. -/
structure Formatted (decode : Bytes → Except Error VeritySuperBlock) (output : FormatOutput)
    (blockSize hashOffset : UInt64) (hashBlockSize : UInt32) : Prop where
  superblock : ∀ image, output.image = .ok image →
    ∃ sb, readSuperBlock decode image.bytes hashOffset = .ok sb ∧
      sb.dataBlockSize.toUInt64 = blockSize ∧ sb.hashBlockSize = hashBlockSize ∧
      sb.dataBlocks = hashOffset / blockSize
  /-- Blocks of the tree have a size that is a power of two, and is 512 or more. -/
  hashBlock : ∃ h, 9 ≤ h ∧ hashBlockSize.toNat = 2 ^ h

/-- The field of the table with this number, as a number. -/
def tableNumber (table : String) (i : Nat) : Option Nat :=
  ((table.toList.splitOnP (· == ' '))[i]?).map fun digits => Nat.ofDigitChars 10 digits 0

/-- The table and the device fit the formatted image: the fifth field of the table gives
    the offset of the tree, and the device has the blocks of data and all of the image. -/
structure Geometry (imageSize blockSize hashOffset hashBlockSize : Nat)
    (info : PackageFsVerityInfo) (target : DMTargetInfo) : Prop where
  start : (tableNumber info.tableParams 4).map (· * hashBlockSize) =
    some (treeOffset hashOffset hashBlockSize)
  blocks : (tableNumber info.tableParams 3).map (· * blockSize) =
    some (target.sectorSize.toNat * 512)
  covers : imageSize ≤ target.sectorSize.toNat * 512

section Blocks

variable {size block hashBlock : Nat}

/-- A power of two is no more than half of any that is above it. -/
theorem two_mul_le_of_pow {a b : Nat} (h : 2 ^ a < 2 ^ b) : 2 * 2 ^ a ≤ 2 ^ b := by
  have hlt : a < b := (Nat.pow_lt_pow_iff_right (a := 2) (by decide)).mp h
  have hle : 2 ^ (a + 1) ≤ 2 ^ b := Nat.pow_le_pow_right Nat.two_pos hlt
  omega

/-- The sectors of the image are its blocks if it is a number of both. -/
theorem sectors_eq_blocks_iff (hpos : 0 < block) :
    size / 512 * 512 = size ⌈/⌉ block * block ∧ size ≤ size / 512 * 512 ↔
      512 ∣ size ∧ block ∣ size := by
  have hceil : size ≤ block * (size ⌈/⌉ block) := (ceilDiv_le_iff_le_mul hpos).mp le_rfl
  have hfloor := Nat.div_mul_le_self size 512
  rw [Nat.mul_comm block] at hceil
  constructor
  · -- Rounding down and rounding up agree only where nothing is rounded.
    rintro ⟨heq, hle⟩
    have hsectors : size / 512 * 512 = size := by omega
    have hblocks : size ⌈/⌉ block * block = size := by omega
    exact ⟨hsectors ▸ Nat.dvd_mul_left _ _, hblocks ▸ Nat.dvd_mul_left _ _⟩
  · rintro ⟨hsector, q, rfl⟩
    have hexact : (block * q) ⌈/⌉ block = q := smul_ceilDiv hpos q
    rw [Nat.div_mul_cancel hsector, hexact]
    exact ⟨Nat.mul_comm block q, le_rfl⟩

/-- The block behind the superblock is the first of the tree if the blocks have one size,
    or there is no data before it. -/
theorem start_eq_iff {b h q : Nat} (hh : 9 ≤ h) (hsector : 512 ∣ 2 ^ b * q) :
    (q + 1) * 2 ^ h = treeOffset (2 ^ b * q) (2 ^ h) ↔ q = 0 ∨ 2 ^ h = 2 ^ b := by
  have hpos : 0 < 2 ^ h := Nat.two_pow_pos h
  have h512 : 2 ^ 9 ≤ 2 ^ h := Nat.pow_le_pow_right Nat.two_pos hh
  rw [treeOffset, Nat.mul_left_inj hpos.ne', eq_comm, ceilDiv_eq_succ_iff hpos, Nat.mul_add,
    Nat.mul_one]
  -- Without data the tree begins with the block behind the superblock, whatever its size.
  rcases Nat.eq_zero_or_pos q with rfl | hq
  · refine iff_of_true ?_ (Or.inl rfl)
    omega
  · have hdata : 512 ≤ 2 ^ b * q := Nat.le_of_dvd (Nat.mul_pos (Nat.two_pow_pos b) hq) hsector
    rw [or_iff_right hq.ne']
    constructor
    · rintro ⟨hlow, hhigh⟩
      rcases Nat.lt_trichotomy (2 ^ h) (2 ^ b) with hlt | heq | hgt
      · -- The data has more than two blocks of the tree for each of its own.
        exfalso
        have htwice := Nat.mul_le_mul_right q (two_mul_le_of_pow hlt)
        have hone : 2 ^ h ≤ 2 ^ h * q := Nat.le_mul_of_pos_right _ hq
        rw [Nat.mul_assoc] at htwice
        omega
      · exact heq
      · -- A block of the tree has more than two of the data, and one is not enough.
        exfalso
        have htwice := Nat.mul_le_mul_right q (two_mul_le_of_pow hgt)
        rw [Nat.mul_assoc] at htwice
        omega
    · intro heq
      rw [heq] at h512 ⊢
      omega

/-- The table and the device fit the image if it is empty, or the blocks have one size and
    it is a number of them. -/
theorem blocks_fit_iff {b h : Nat} (hblock : block = 2 ^ b) (hhash : hashBlock = 2 ^ h)
    (hh : 9 ≤ h) :
    ((size / block + 1) * hashBlock = treeOffset (size ⌈/⌉ block * block) hashBlock ∧
        size ⌈/⌉ block * block = size / 512 * 512 ∧ size ≤ size / 512 * 512) ↔
      size = 0 ∨ hashBlock = block ∧ block ∣ size := by
  have hpos : 0 < block := hblock ▸ Nat.two_pow_pos b
  -- Where the image is a number of blocks the padding adds nothing.
  have hstart : 512 ∣ size → block ∣ size →
      ((size / block + 1) * hashBlock = treeOffset (size ⌈/⌉ block * block) hashBlock ↔
        size = 0 ∨ hashBlock = block) := by
    rintro hsector ⟨q, rfl⟩
    have hexact : (block * q) ⌈/⌉ block = q := smul_ceilDiv hpos q
    rw [hexact, Nat.mul_div_cancel_left q hpos, Nat.mul_comm q block, hblock, hhash,
      start_eq_iff hh (hblock ▸ hsector), Nat.mul_eq_zero]
    have hne : 2 ^ b ≠ 0 := (Nat.two_pow_pos b).ne'
    simp only [hne, false_or]
  rw [eq_comm (b := size / 512 * 512), sectors_eq_blocks_iff hpos]
  constructor
  · rintro ⟨heq, hsector, hdvd⟩
    exact ((hstart hsector hdvd).mp heq).imp_right fun hsame => ⟨hsame, hdvd⟩
  · intro hcond
    have hboth : 512 ∣ size ∧ block ∣ size := by
      rcases hcond with rfl | ⟨hsame, hdvd⟩
      · exact ⟨Nat.dvd_zero _, Nat.dvd_zero _⟩
      · have hsector : 2 ^ 9 ∣ hashBlock := hhash ▸ Nat.pow_dvd_pow 2 hh
        exact ⟨(hsame ▸ hsector).trans hdvd, hdvd⟩
    exact ⟨(hstart hboth.1 hboth.2).mpr (hcond.imp_right And.left), hboth⟩

end Blocks

section Table

/-- A field without a blank is the first, and the others follow. -/
theorem splitOnP_append {field rest : String} (h : ∀ c ∈ field.toList, c ≠ ' ') :
    (field ++ " " ++ rest).toList.splitOnP (· == ' ') =
      field.toList :: rest.toList.splitOnP (· == ' ') := by
  have hlist : (field ++ " " ++ rest).toList = field.toList ++ ' ' :: rest.toList := by
    rw [String.toList_append, String.toList_append, List.append_assoc]
    rfl
  rw [hlist]
  exact List.splitOnP_append_cons_of_forall_mem (fun c hc => beq_eq_false_iff_ne.mpr (h c hc)) ' '
    rfl _

/-- The fields that are numbers are found in the table. -/
theorem tableNumber_start {version dataBlockSize hashBlockSize : UInt32}
    {dataBlocks start : UInt64} {algorithm rootHash salt : String} :
    tableNumber (buildTableParams version dataBlockSize hashBlockSize dataBlocks start algorithm
        rootHash salt) 3 = some dataBlocks.toNat ∧
      tableNumber (buildTableParams version dataBlockSize hashBlockSize dataBlocks start algorithm
        rootHash salt) 4 = some start.toNat := by
  have hparams : buildTableParams version dataBlockSize hashBlockSize dataBlocks start algorithm
      rootHash salt = version.toNat.repr ++ " " ++ (dataBlockSize.toNat.repr ++ " " ++
        (hashBlockSize.toNat.repr ++ " " ++ (dataBlocks.toNat.repr ++ " " ++
          (start.toNat.repr ++ " " ++ (algorithm ++ " " ++ (rootHash ++ " " ++ salt)))))) := by
    rw [buildTableParams]
    simp only [String.append_assoc]
    rfl
  have hnumber : ∀ n : Nat, Nat.ofDigitChars 10 n.repr.toList 0 = n := fun n => by
    rw [Nat.toList_repr, Nat.ofDigitChars_ten_toDigits]
  have hsplit := fun (n : Nat) (rest : String) =>
    @splitOnP_append n.repr rest (repr_ne_blank n)
  rw [hparams, tableNumber, tableNumber, hsplit, hsplit, hsplit, hsplit, hsplit]
  exact ⟨congrArg some (hnumber _), congrArg some (hnumber _)⟩

end Table

section Format

variable {decoders : SuperBlockDecoders} {imagePath : String} {image : RegularFile}
  {rootHashFile : Option String} {superblock : SuperBlock} {blockSize : UInt32}
  {f : FormatVerity} {runner : List String → Except Error FormatOutput}
  {info : PackageFsVerityInfo}

theorem new_eq
    (hbroker : FileSystemSuperBlockBroker.new decoders imagePath (.ok image) = .ok superblock)
    (hblock : superblock.blockSize = .ok blockSize) :
    FormatVerity.new decoders imagePath (.ok image) rootHashFile true [] = .ok
      (FormatVerity.fromParts imagePath rootHashFile blockSize.toUInt64 image.size true []) := by
  rw [FormatVerity.new, hbroker]
  simp only [bind, Except.bind, hblock]

/-- The offset that is asked for is the padded size of the image. -/
theorem new_of_blockSize
    (hbroker : FileSystemSuperBlockBroker.new decoders imagePath (.ok image) = .ok superblock)
    (hblock : superblock.blockSize = .ok blockSize)
    (hnew : FormatVerity.new decoders imagePath (.ok image) rootHashFile true [] = .ok f) :
    f.dataSize = image.size ∧ f.hashOffset = alignedHashOffset image.size blockSize.toUInt64 := by
  rw [new_eq hbroker hblock, Except.ok.injEq] at hnew
  rw [← hnew]
  exact ⟨rfl, rfl⟩

/-- An image that has been formatted is read at the offset. -/
theorem run_eq_ok {decode : Bytes → Except Error VeritySuperBlock}
    (hrun : f.run decode runner = .ok info) :
    ∃ output image rootHash, runner f.args = .ok output ∧ output.image = .ok image ∧
      fromVerityImage decode f.imagePath (.ok image.bytes) f.dataSize (image.size - f.hashOffset)
        f.hashOffset rootHash = .ok info := by
  unfold FormatVerity.run at hrun
  simp only [except_bind_eq_ok, context_eq_ok] at hrun
  rcases hrun with ⟨output, houtput, -, -, image, himage, -, -, rootHash, -, hread⟩
  exact ⟨output, image, rootHash, houtput, himage, hread⟩

/-- An image is formatted if the superblock at the offset is accepted. -/
theorem exists_run_eq_ok {decode : Bytes → Except Error VeritySuperBlock} {output : FormatOutput}
    {after : RegularFile} {rootHash : String} {sb : VeritySuperBlock} {algorithm salt : String}
    (houtput : runner f.args = .ok output) (hsuccess : output.success = true)
    (hafter : output.image = .ok after) (hroot : output.rootHash = .ok rootHash)
    (hoffset : f.hashOffset ≤ after.size)
    (hsb : readSuperBlock decode after.bytes f.hashOffset = .ok sb)
    (halgorithm : sb.getAlgorithm = .ok algorithm) (hsalt : sb.getSalt = .ok salt)
    (hblocks : sb.dataBlockSize ≠ 0 ∧ sb.hashBlockSize ≠ 0) :
    ∃ info, f.run decode runner = .ok info ∧ info.dataSize = f.dataSize := by
  have hhash : ∃ r, FormatVerity.readRootHash f.rootHashFile output.rootHash = .ok r := by
    rw [hroot]
    cases f.rootHashFile with
    | none => exact ⟨_, rfl⟩
    | some file => exact ⟨_, rfl⟩
  rcases hhash with ⟨r, hr⟩
  have hnonzero : (sb.dataBlockSize != 0 && sb.hashBlockSize != 0) = true :=
    Bool.and_eq_true_iff.mpr ⟨bne_iff_ne.mpr hblocks.1, bne_iff_ne.mpr hblocks.2⟩
  have hrun : f.run decode runner = .ok ⟨f.dataSize, after.size - f.hashOffset,
      buildTableParams sb.version sb.dataBlockSize sb.hashBlockSize sb.dataBlocks
        (hashStartBlock f.dataSize sb.dataBlockSize) algorithm r salt, f.hashOffset⟩ := by
    simp only [FormatVerity.run, fromVerityImage, context, bind, Except.bind, ensure, houtput,
      hsuccess, hafter, hoffset, hr, hsb, halgorithm, hsalt, hnonzero, decide_true, if_true]
  exact ⟨_, hrun, rfl⟩

theorem makeTarget_eq_ok {sectorSize : Except Error UInt32} {devPath : String}
    {target : DMTargetInfo} (h : makeTarget sectorSize devPath info = .ok target) :
    ∃ size, sectorSize = .ok size ∧ target.sectorSize = info.dataSize / size.toUInt64 := by
  unfold makeTarget at h
  simp only [except_bind_eq_ok, Except.ok.injEq] at h
  rcases h with ⟨size, hsize, params, -, rfl⟩
  exact ⟨size, hsize, rfl⟩

/-- What is signed can be mounted, at any path. -/
theorem exists_makeTarget {decode : Bytes → Except Error VeritySuperBlock}
    (hrun : f.run decode runner = .ok info) (devPath : String) :
    ∃ target, makeTarget (.ok 512) devPath info = .ok target := by
  rcases run_eq_ok hrun with ⟨output, image, rootHash, -, -, hread⟩
  rcases fromVerityImage_eq_ok hread with ⟨sb, algorithm, salt, -, -, -, -, -, hinfo⟩
  have hparams : info.tableParams = buildTableParams sb.version sb.dataBlockSize sb.hashBlockSize
      sb.dataBlocks (hashStartBlock f.dataSize sb.dataBlockSize) algorithm rootHash salt := by
    rw [hinfo]
  have htable := resolveTable_eq devPath hparams
  simp only [makeTarget, bind, Except.bind, htable, Except.ok.injEq, exists_eq']

/-- For every image that is formatted, the table and the device fit what `veritysetup` has
    made exactly if the image is empty, or the blocks of the tree have the size of those
    of the file system and the image is a number of them. -/
theorem verity_geometry_iff {hashBlockSize : UInt32} {devPath : String} {target : DMTargetInfo}
    (hbroker : FileSystemSuperBlockBroker.new decoders imagePath (.ok image) = .ok superblock)
    (hblock : superblock.blockSize = .ok blockSize)
    (hnew : FormatVerity.new decoders imagePath (.ok image) rootHashFile true [] = .ok f)
    (hformat : ∀ output, runner f.args = .ok output →
      Formatted decoders.verity output blockSize.toUInt64 f.hashOffset hashBlockSize)
    (hrun : f.run decoders.verity runner = .ok info)
    (htarget : makeTarget (.ok 512) devPath info = .ok target) :
    Geometry image.bytes.length blockSize.toNat f.hashOffset.toNat hashBlockSize.toNat info
        target ↔
      image.bytes.length = 0 ∨
        hashBlockSize = blockSize ∧ blockSize.toNat ∣ image.bytes.length := by
  rcases new_of_blockSize hbroker hblock hnew with ⟨hdata, hoffset⟩
  rcases run_eq_ok hrun with ⟨output, after, rootHash, houtput, hafter, hread⟩
  have hformatted := hformat output houtput
  rcases hformatted.superblock after hafter with ⟨sb, hsb, hsbBlock, hsbHash, hsbBlocks⟩
  rcases hformatted.hashBlock with ⟨h, hh, hpow⟩
  rcases blockSize_eq_ok hblock with ⟨b, hb, hblockPow⟩
  rcases fromVerityImage_eq_ok hread with ⟨sb', algorithm, salt, hsb', -, -, -, -, rfl⟩
  rw [hsb, Except.ok.injEq] at hsb'
  subst hsb'
  rcases makeTarget_eq_ok htarget with ⟨size, hsize, hsectors⟩
  rw [← Except.ok.inj hsize] at hsectors
  -- None of the sums and products overflows, for the size of a file is a signed number.
  have hsize63 := image.length_lt
  have hblockLe : blockSize.toNat ≤ 2 ^ 16 :=
    hblockPow ▸ Nat.pow_le_pow_right (by decide) hb
  have hblockPos : 0 < blockSize.toNat := hblockPow ▸ Nat.two_pow_pos b
  have hblock64 : blockSize.toUInt64.toNat = blockSize.toNat := UInt32.toNat_toUInt64 _
  have hpadded : f.hashOffset.toNat =
      (image.bytes.length ⌈/⌉ blockSize.toNat) * blockSize.toNat := by
    rw [hoffset, toNat_alignedHashOffset (by omega) (by rw [image.toNat_size]; omega),
      image.toNat_size, hblock64]
  have hsbBlockNat : sb.dataBlockSize.toNat = blockSize.toNat := by
    rw [← UInt32.toNat_toUInt64, hsbBlock, hblock64]
  have hstart : (hashStartBlock f.dataSize sb.dataBlockSize).toNat =
      image.bytes.length / blockSize.toNat + 1 := by
    have hle := Nat.div_le_self image.bytes.length blockSize.toNat
    have hone : (1 : UInt64).toNat = 1 := rfl
    rw [hashStartBlock, UInt64.toNat_add, UInt64.toNat_div, UInt32.toNat_toUInt64, hsbBlockNat,
      hdata, image.toNat_size, hone, Nat.mod_eq_of_lt (by omega)]
  have hblocks : sb.dataBlocks.toNat * blockSize.toNat = f.hashOffset.toNat := by
    rw [hsbBlocks, UInt64.toNat_div, hblock64, hpadded, Nat.mul_div_cancel _ hblockPos]
  have hlength : target.sectorSize.toNat = image.bytes.length / 512 := by
    rw [hsectors, UInt64.toNat_div, hdata, image.toNat_size]
    rfl
  -- What the table says, as numbers.
  have hgeometry : Geometry image.bytes.length blockSize.toNat f.hashOffset.toNat
      hashBlockSize.toNat
      ⟨f.dataSize, after.size - f.hashOffset, buildTableParams sb.version sb.dataBlockSize
        sb.hashBlockSize sb.dataBlocks (hashStartBlock f.dataSize sb.dataBlockSize) algorithm
        rootHash salt, f.hashOffset⟩ target ↔
      ((image.bytes.length / blockSize.toNat + 1) * hashBlockSize.toNat =
          treeOffset f.hashOffset.toNat hashBlockSize.toNat ∧
        f.hashOffset.toNat = image.bytes.length / 512 * 512 ∧
        image.bytes.length ≤ image.bytes.length / 512 * 512) := by
    constructor
    · rintro ⟨hs, hb, hc⟩
      rw [tableNumber_start.2, Option.map_some, Option.some.injEq, hstart] at hs
      rw [tableNumber_start.1, Option.map_some, Option.some.injEq, hblocks, hlength] at hb
      rw [hlength] at hc
      exact ⟨hs, hb, hc⟩
    · rintro ⟨hs, hb, hc⟩
      refine ⟨?_, ?_, ?_⟩
      · rw [tableNumber_start.2, Option.map_some, hstart, hs]
      · rw [tableNumber_start.1, Option.map_some, hblocks, hlength, hb]
      · rw [hlength]
        exact hc
  rw [hgeometry, hpadded, blocks_fit_iff hblockPow hpow hh, UInt32.toNat_inj]

end Format

section SuperBlock

theorem length_encVerity (sb : VeritySuperBlock) : (encVerity sb).length = 512 := by
  have hmagic : (asciiBytes "verity").length = 6 := rfl
  simp only [encVerity, List.length_append, hmagic, List.length_cons, List.length_nil,
    length_leBytes, List.length_replicate, sb.length_algorithm, sb.length_salt]

/-- A part of what is put together is found behind the parts before it. -/
theorem take_drop_flatten {parts : List Bytes} {i : Nat} {part : Bytes}
    (h : parts[i]? = some part) (rest : Bytes) :
    ((parts.flatten ++ rest).drop (parts.take i).flatten.length).take part.length = part := by
  induction parts generalizing i with
  | nil => cases h
  | cons p parts ih =>
      rw [List.flatten_cons, List.append_assoc]
      cases i with
      | zero =>
          rw [List.getElem?_cons_zero, Option.some.injEq] at h
          rw [List.take_zero, List.flatten_nil, List.length_nil, List.drop_zero, h, List.take_left]
      | succ i =>
          rw [List.take_succ_cons, List.flatten_cons, List.length_append,
            List.drop_length_add_append]
          exact ih h

/-- The fields of the superblock, one after another. -/
def verityFields (sb : VeritySuperBlock) : List Bytes :=
  [asciiBytes "verity", [0, 0], leBytes 4 sb.version.toNat, leBytes 4 1, List.replicate 16 0,
    sb.algorithm, leBytes 4 sb.dataBlockSize.toNat, leBytes 4 sb.hashBlockSize.toNat,
    leBytes 8 sb.dataBlocks.toNat, leBytes 2 sb.saltSize.toNat, List.replicate 6 0, sb.salt,
    List.replicate 168 0]

theorem encVerity_eq_flatten (sb : VeritySuperBlock) :
    encVerity sb = (verityFields sb).flatten := by
  simp only [encVerity, verityFields, List.flatten_cons, List.flatten_nil, List.append_nil,
    List.append_assoc]

/-- A field is found at its place, whatever follows the superblock. -/
theorem take_drop_encVerity (sb : VeritySuperBlock) (rest : Bytes) (i : Nat) {field : Bytes}
    (hfield : (verityFields sb)[i]? = some field) :
    ((encVerity sb ++ rest).drop ([6, 2, 4, 4, 16, 32, 4, 4, 8, 2, 6, 256, 168].take i).sum).take
      field.length = field := by
  have hmagic : (asciiBytes "verity").length = 6 := rfl
  have hplace : ((verityFields sb).take i).flatten.length =
      ([6, 2, 4, 4, 16, 32, 4, 4, 8, 2, 6, 256, 168].take i).sum := by
    rw [List.length_flatten, List.map_take]
    simp only [verityFields, List.map_cons, List.map_nil, hmagic, List.length_cons,
      List.length_nil, length_leBytes, List.length_replicate, sb.length_algorithm,
      sb.length_salt]
  rw [← hplace, encVerity_eq_flatten]
  exact take_drop_flatten hfield rest

/-- A number is read from its place. -/
theorem leValue_encVerity (sb : VeritySuperBlock) (rest : Bytes) (i n : Nat) {v : Nat}
    (hfield : (verityFields sb)[i]? = some (leBytes n v)) (hv : v < 256 ^ n) :
    leValue (((encVerity sb ++ rest).drop
      ([6, 2, 4, 4, 16, 32, 4, 4, 8, 2, 6, 256, 168].take i).sum).take n) = v := by
  have hread := take_drop_encVerity sb rest i hfield
  rw [length_leBytes] at hread
  rw [hread, leValue_leBytes, Nat.mod_eq_of_lt hv]

/-- A superblock is read back from its bytes, whatever follows them. -/
theorem decodeVerity_encVerity (sb : VeritySuperBlock) (rest : Bytes) :
    decodeVerity (encVerity sb ++ rest) = .ok sb := by
  have hlong : 512 ≤ (encVerity sb ++ rest).length := by
    rw [List.length_append, length_encVerity]
    exact Nat.le_add_right _ _
  have hversion : leValue (((encVerity sb ++ rest).drop 8).take 4) = sb.version.toNat :=
    leValue_encVerity sb rest 2 4 rfl sb.version.toNat_lt
  have hdataBlock : leValue (((encVerity sb ++ rest).drop 64).take 4) = sb.dataBlockSize.toNat :=
    leValue_encVerity sb rest 6 4 rfl sb.dataBlockSize.toNat_lt
  have hhashBlock : leValue (((encVerity sb ++ rest).drop 68).take 4) = sb.hashBlockSize.toNat :=
    leValue_encVerity sb rest 7 4 rfl sb.hashBlockSize.toNat_lt
  have hblocks : leValue (((encVerity sb ++ rest).drop 72).take 8) = sb.dataBlocks.toNat :=
    leValue_encVerity sb rest 8 8 rfl sb.dataBlocks.toNat_lt
  have hsaltSize : leValue (((encVerity sb ++ rest).drop 80).take 2) = sb.saltSize.toNat :=
    leValue_encVerity sb rest 9 2 rfl sb.saltSize.toNat_lt
  have halgorithm : ((encVerity sb ++ rest).drop 32).take 32 = sb.algorithm := by
    have hread := take_drop_encVerity sb rest 5 rfl
    rwa [sb.length_algorithm] at hread
  have hsalt : ((encVerity sb ++ rest).drop 88).take 256 = sb.salt := by
    have hread := take_drop_encVerity sb rest 11 rfl
    rwa [sb.length_salt] at hread
  rw [decodeVerity, dif_pos hlong]
  simp only [hversion, halgorithm, hdataBlock, hhashBlock, hblocks, hsaltSize, hsalt,
    UInt32.ofNat_toNat, UInt64.ofNat_toNat, UInt16.ofNat_toNat]

end SuperBlock

section Sample

/-- An image of EROFS with blocks of 4096 bytes, which has `n` bytes behind its
    superblock. -/
def imageBytes (n : Nat) : Bytes :=
  List.replicate 1024 0 ++ leBytes 4 erofsSuperMagic.toNat ++ List.replicate 8 0 ++ [12] ++
    List.replicate (115 + n) 0

/-- What the decoders make of such an image, and of the superblock behind it. -/
def sampleDecoders : SuperBlockDecoders where
  erofs bytes :=
    if 128 ≤ bytes.length then
      .ok ⟨UInt32.ofNat (leValue (bytes.take 4)), (bytes.drop 12).headD 0⟩
    else .error ["UnexpectedEnd"]
  ext4 _ := .error ["UnexpectedEnd"]
  verity := decodeVerity

/-- The superblock of a formatted image of two blocks. -/
def twoBlocks : VeritySuperBlock where
  version := 1
  algorithm := asciiBytes "sha256" ++ List.replicate 26 0
  dataBlockSize := 4096
  hashBlockSize := 4096
  dataBlocks := 2
  saltSize := 0
  salt := List.replicate 256 0
  length_algorithm := by decide
  length_salt := List.length_replicate

/-- The image padded to two blocks, with the superblock, and a block of the tree behind
    the next boundary. -/
def formattedBytes (n : Nat) : Bytes :=
  imageBytes n ++ List.replicate (7040 - n) 0 ++ encVerity twoBlocks ++
    List.replicate (3584 + 4096) 0

theorem length_imageBytes (n : Nat) : (imageBytes n).length = 1152 + n := by
  simp only [imageBytes, List.length_append, List.length_replicate, length_leBytes,
    List.length_cons, List.length_nil]
  omega

theorem length_formattedBytes {n : Nat} (h : n ≤ 7040) : (formattedBytes n).length = 16384 := by
  rw [formattedBytes, List.length_append, List.length_append, List.length_append,
    length_imageBytes, List.length_replicate, List.length_replicate, length_encVerity]
  omega

/-- An image of up to two blocks. -/
def sampleImage (n : Nat) (h : n ≤ 7040) : RegularFile :=
  ⟨imageBytes n, by rw [length_imageBytes]; omega⟩

/-- What the command leaves of that image. -/
def sampleOutput (n : Nat) (h : n ≤ 7040) : FormatOutput where
  success := true
  status := "exit status: 0"
  stderr := ""
  image := .ok ⟨formattedBytes n, by rw [length_formattedBytes h]; decide⟩
  rootHash := .ok "cafebabe\n"

/-- The image as it is formatted, signed and mounted. -/
def sampleRun (n : Nat) (h : n ≤ 7040) :
    Except Error (FormatVerity × PackageFsVerityInfo × DMTargetInfo) := do
  let f ← FormatVerity.new sampleDecoders "filesystem.img" (.ok (sampleImage n h))
    (some "root.hash") true []
  let info ← f.run decodeVerity fun _ => .ok (sampleOutput n h)
  let target ← makeTarget (.ok 512) (loopPath 0) info
  .ok (f, info, target)

/-- The image is one of EROFS with blocks of 4096 bytes, whatever follows its bytes. -/
theorem broker_sample (path : String) (image : RegularFile) {n : Nat} {rest : Bytes}
    (himage : image.bytes = imageBytes n ++ rest) :
    FileSystemSuperBlockBroker.new sampleDecoders path (.ok image) =
      .ok (.erofs ⟨erofsSuperMagic, 12⟩) := by
  have hdrop : image.bytes.drop 1024 = leBytes 4 erofsSuperMagic.toNat ++
      (List.replicate 8 0 ++ ([12] ++ (List.replicate (115 + n) 0 ++ rest))) := by
    simp only [himage, imageBytes, List.append_assoc]
    exact List.drop_left' List.length_replicate
  have hlong : 128 ≤ (image.bytes.drop 1024).length := by
    simp only [hdrop, List.length_append, length_leBytes, List.length_replicate,
      List.length_singleton]
    omega
  have hmagic : UInt32.ofNat (leValue ((image.bytes.drop 1024).take 4)) = erofsSuperMagic := by
    rw [hdrop, take_leBytes, leValue_leBytes]
    rfl
  have hbits : ((image.bytes.drop 1024).drop 12).headD 0 = 12 := by
    have hbefore : (leBytes 4 erofsSuperMagic.toNat ++ List.replicate 8 0).length = 12 := by
      rw [List.length_append, length_leBytes, List.length_replicate]
    rw [hdrop, ← List.append_assoc, List.drop_left' hbefore]
    rfl
  have hdecode : sampleDecoders.erofs (image.bytes.drop 1024) = .ok ⟨erofsSuperMagic, 12⟩ := by
    rw [← hmagic, ← hbits]
    exact if_pos hlong
  have hsuper : getSuperblock sampleDecoders.erofs ErofsSuperBlock.verify path (.ok image) =
      .ok ⟨erofsSuperMagic, 12⟩ := by
    simp only [getSuperblock, context, bind, Except.bind, hdecode]
    rfl
  rw [FileSystemSuperBlockBroker.new, hsuper]
  rfl

/-- The superblock is the one behind the padding. -/
theorem readSuperBlock_sample {n : Nat} (h : n ≤ 7040) :
    readSuperBlock decodeVerity (formattedBytes n) 8192 = .ok twoBlocks := by
  have hbefore : (imageBytes n ++ List.replicate (7040 - n) 0).length = 8192 := by
    rw [List.length_append, length_imageBytes, List.length_replicate]
    omega
  have hdrop : (formattedBytes n).drop 8192 =
      encVerity twoBlocks ++ List.replicate (3584 + 4096) 0 := by
    rw [formattedBytes, List.append_assoc (imageBytes n ++ _), List.drop_left' hbefore]
  have hread : readSuperBlock decodeVerity (formattedBytes n) 8192 =
      decodeVerity ((formattedBytes n).drop 8192) := if_neg (by decide)
  rw [hread, hdrop, decodeVerity_encVerity]

/-- What the command makes of the image is as it is relied on. -/
theorem formatted_sample (n : Nat) (h : n ≤ 7040) :
    Formatted decodeVerity (sampleOutput n h) 4096 8192 4096 := by
  refine ⟨fun image himage => ⟨twoBlocks, ?_, rfl, rfl, rfl⟩, 12, by decide, rfl⟩
  rw [← Except.ok.inj himage, readSuperBlock_sample h]

theorem sampleRun_eq_ok {n : Nat} {h : n ≤ 7040} {f : FormatVerity} {info : PackageFsVerityInfo}
    {target : DMTargetInfo} (hrun : sampleRun n h = .ok (f, info, target)) :
    FormatVerity.new sampleDecoders "filesystem.img" (.ok (sampleImage n h)) (some "root.hash")
        true [] = .ok f ∧
      f.run decodeVerity (fun _ => .ok (sampleOutput n h)) = .ok info ∧
      makeTarget (.ok 512) (loopPath 0) info = .ok target := by
  unfold sampleRun at hrun
  simp only [except_bind_eq_ok, Except.ok.injEq, Prod.mk.injEq] at hrun
  rcases hrun with ⟨f', hnew, info', hformat, target', htarget, rfl, rfl, rfl⟩
  exact ⟨hnew, hformat, htarget⟩

/-- Images with this superblock are formatted, whatever number of blocks it gives. -/
theorem exists_run_twoBlocks {f : FormatVerity} {output : FormatOutput} {after : RegularFile}
    {rootHash : String} {blocks : UInt64} (hsuccess : output.success = true)
    (hafter : output.image = .ok after) (hroot : output.rootHash = .ok rootHash)
    (hoffset : f.hashOffset ≤ after.size)
    (hsb : readSuperBlock decodeVerity after.bytes f.hashOffset =
      .ok { twoBlocks with dataBlocks := blocks }) :
    ∃ info, f.run decodeVerity (fun _ => .ok output) = .ok info ∧ info.dataSize = f.dataSize := by
  have hbytes : { twoBlocks with dataBlocks := blocks }.algorithmBytes = asciiBytes "sha256" := by
    change twoBlocks.algorithmBytes = _
    decide
  have halgorithm : { twoBlocks with dataBlocks := blocks }.getAlgorithm = .ok "sha256" := by
    rw [VeritySuperBlock.getAlgorithm, hbytes]
    decide +kernel
  have hsalt : { twoBlocks with dataBlocks := blocks }.getSalt = .ok "-" := by
    change twoBlocks.getSalt = _
    decide +kernel
  have hsizes : twoBlocks.dataBlockSize ≠ 0 ∧ twoBlocks.hashBlockSize ≠ 0 := by decide
  exact exists_run_eq_ok rfl hsuccess hafter hroot hoffset hsb halgorithm hsalt hsizes

/-- An image that ends in its second block is formatted and mounted. -/
theorem exists_sampleRun {n : Nat} (h : n ≤ 7040)
    (hoffset : alignedHashOffset (sampleImage n h).size 4096 = 8192) :
    ∃ f info target, sampleRun n h = .ok (f, info, target) ∧ f.hashOffset = 8192 ∧
      target.sectorSize = (sampleImage n h).size / 512 := by
  have hblock : (SuperBlock.erofs ⟨erofsSuperMagic, 12⟩).blockSize = .ok 4096 := rfl
  have hbroker := broker_sample "filesystem.img" (sampleImage n h)
    (List.append_nil (imageBytes n)).symm
  have hnew : FormatVerity.new sampleDecoders "filesystem.img" (.ok (sampleImage n h))
      (some "root.hash") true [] = .ok _ := new_eq hbroker hblock
  rcases new_of_blockSize hbroker hblock hnew with ⟨hdata, hhash⟩
  generalize FormatVerity.fromParts "filesystem.img" (some "root.hash")
    (4096 : UInt32).toUInt64 (sampleImage n h).size true [] = f at hnew hdata hhash
  have hhash : f.hashOffset = 8192 := hhash.trans hoffset
  have hafter : ∃ after, (sampleOutput n h).image = .ok after ∧ after.bytes = formattedBytes n :=
    ⟨_, rfl, rfl⟩
  rcases hafter with ⟨after, hafter, hbytes⟩
  have hread : readSuperBlock decodeVerity after.bytes f.hashOffset = .ok twoBlocks := by
    rw [hbytes, hhash, readSuperBlock_sample h]
  have hsize : f.hashOffset ≤ after.size := by
    rw [hhash, UInt64.le_iff_toNat_le, RegularFile.toNat_size, hbytes, length_formattedBytes h]
    decide
  rcases exists_run_twoBlocks rfl hafter rfl hsize hread with ⟨info, hinfo, hdataSize⟩
  rcases exists_makeTarget hinfo (loopPath 0) with ⟨target, htarget⟩
  rcases makeTarget_eq_ok htarget with ⟨size, hsectorSize, hsectors⟩
  refine ⟨f, info, target, ?_, hhash, ?_⟩
  · simp only [sampleRun, bind, Except.bind, hnew, hinfo, htarget]
  · rw [hsectors, ← Except.ok.inj hsectorSize, hdataSize, hdata]
    rfl

theorem size_sampleImage (n : Nat) (h : n ≤ 7040) :
    (sampleImage n h).size = UInt64.ofNat (1152 + n) :=
  congrArg UInt64.ofNat (length_imageBytes n)

/-- An image of two whole blocks, whose tree has blocks of that size. -/
theorem verity_geometry_two_blocks :
    ∃ f info target, sampleRun 7040 (by decide) = .ok (f, info, target) ∧
      (Geometry 8192 4096 f.hashOffset.toNat 4096 info target ↔
        8192 = 0 ∨ (4096 : UInt32) = 4096 ∧ 4096 ∣ 8192) := by
  have hoffset : alignedHashOffset (sampleImage 7040 (by decide)).size 4096 = 8192 := by
    rw [size_sampleImage]
    rfl
  rcases exists_sampleRun (by decide) hoffset with ⟨f, info, target, hrun, hhash, -⟩
  rcases sampleRun_eq_ok hrun with ⟨hnew, hformat, htarget⟩
  have hbroker := broker_sample "filesystem.img" (sampleImage 7040 (by decide))
    (List.append_nil (imageBytes 7040)).symm
  have hlen : (sampleImage 7040 (by decide)).bytes.length = 8192 := length_imageBytes 7040
  have hiff := verity_geometry_iff hbroker rfl hnew (fun output houtput => by
    rw [hhash, ← Except.ok.inj houtput]
    exact formatted_sample 7040 (by decide)) hformat htarget
  rw [hlen] at hiff
  exact ⟨f, info, target, hrun, hiff⟩

/-- An image of 5000 bytes with blocks of 4096: the tree begins at the fourth block and the
    table has it begin at the third, and the device ends before the image does. -/
theorem image_cut_off :
    ∃ f info target, sampleRun 3848 (by decide) = .ok (f, info, target) ∧
      Formatted decodeVerity (sampleOutput 3848 (by decide)) 4096 f.hashOffset 4096 ∧
      ¬ Geometry 5000 4096 f.hashOffset.toNat 4096 info target := by
  have hoffset : alignedHashOffset (sampleImage 3848 (by decide)).size 4096 = 8192 := by
    rw [size_sampleImage]
    rfl
  rcases exists_sampleRun (by decide) hoffset with ⟨f, info, target, hrun, hhash, hsectors⟩
  have hformatted := formatted_sample 3848 (by decide)
  rw [← hhash] at hformatted
  refine ⟨f, info, target, hrun, hformatted, fun hfit => ?_⟩
  have hcovers := hfit.covers
  rw [hsectors, size_sampleImage] at hcovers
  exact absurd hcovers (by decide)

end Sample

end Package

end Ssam
