import Ssam.Dm.DeviceList
import Ssam.Lib.Calls
import Ssam.Package.VerityTokens

/-!
# Setting up a Verity Device

The commands to the device mapper that make a verity device, and the one that removes
it. A device is created under a name, is given a table, and is resumed, upon which the
table takes effect. A device that is created and cannot be set up is removed again. A
name that is in use already is an error, and then nothing is removed.

The kernel answers the first command with the number of the device, packed into one word.
The number is taken apart again for the path of the device.

## Main definitions

* `DeviceNum.fromKdevT`, `DeviceNum.asKdevT`: The number of a device in one word.
* `DmCall`: The calls of a set-up.
* `createDevice`, `loadTable`, `resumeDevice`, `removeDevice`: The commands.
* `VerityDevice.setup`, `VerityDevice.new`: The set-up.

## Theorems

* `fromKdevT_asKdevT_iff`: The numbers that are taken apart as they were put together.
* `devNode_injective`: Two devices have two paths.
* `genIoHdr_named`: What the header of a command says.
* `targetDevices_makeTarget`: The device a signed table is on.
-/

namespace Ssam

namespace Dm

open Lib Package

/-- The number of a device: that of its driver, and its own among the driver's. -/
@[ext]
structure DeviceNum where
  major : UInt32
  minor : UInt32
  deriving DecidableEq

namespace DeviceNum

def fromKdevT (kdev : UInt64) : DeviceNum where
  major := ((kdev &&& (0xfff00 : UInt64)) >>> 8).toUInt32
  minor := ((kdev &&& (0xff : UInt64)) ||| ((kdev >>> 12) &&& (0xfff00 : UInt64))).toUInt32

def asKdevT (num : DeviceNum) : UInt64 :=
  let minor := num.minor.toUInt64
  let major := num.major.toUInt64
  minor &&& (0xff : UInt64) ||| major <<< 8 ||| (minor &&& ~~~(0xff : UInt64)) <<< 12

end DeviceNum

structure DMDevice where
  devNo : DeviceNum
  deviceName : String

inductive DmOpcode where
  | devCreate
  | devRemove
  | devSuspend
  | tableLoad
  deriving DecidableEq

/-- The command as it is called in a message. -/
def DmOpcode.shown : DmOpcode → String
  | devCreate => "DevCreate"
  | devRemove => "DevRemove"
  | devSuspend => "DevSuspend"
  | tableLoad => "TableLoad"

def dmDeferredRemove : UInt32 := 131072

def dmSuspendFlag : UInt32 := 2

/-- What a system call fails with, as far as it is told apart. -/
inductive Errno where
  | busy
  | other
  deriving DecidableEq

/-- The error of a command: the messages, and the number of the call's error among them. -/
structure DmFailure where
  errno : Option Errno
  messages : Error

/-- The calls of a set-up, with the types of their answers. -/
inductive DmCall : Type → Type where
  | openControl : DmCall (Except Error Unit)
  /-- Open the device at the path and ask for the size of its sectors. -/
  | sectorSize (devPath : String) : DmCall (Except Error UInt32)
  /-- A command, which is answered with the number in the header. The targets are what
      the data behind the header says. -/
  | ioctl (op : DmOpcode) (ioHdr : DmIoctl) (targets : List DMTargetInfo) :
      DmCall (Except DmFailure UInt64)
  | listDevices : DmCall (Except Error (List String))

namespace DMControl

def open_ : Prog DmCall Error Unit :=
  (Prog.try_ DmCall.openControl).context "Failed to open DM control device /dev/mapper/control"

def ioctl (op : DmOpcode) (ioHdr : DmIoctl) (targets : List DMTargetInfo) :
    Prog DmCall DmFailure UInt64 :=
  (Prog.try_ (DmCall.ioctl op ioHdr targets)).mapError fun e =>
    { e with messages := s!"Failed to perform ioctl ({op.shown})" :: e.messages }

/-- A command about the device of a name. -/
def command (op : DmOpcode) (deviceName : String) (flags : UInt32) (dmData : DMData)
    (targets : List DMTargetInfo) : Prog DmCall DmFailure UInt64 := do
  let ioHdr ← (Prog.ofExcept (genIoHdr (some deviceName) none flags dmData)).mapError
    (DmFailure.mk none)
  ioctl op ioHdr targets

def createDevice (deviceName : String) : Prog DmCall DmFailure DMDevice := do
  let dev ← command .devCreate deviceName dmReadonlyFlag .emptyData []
  pure ⟨DeviceNum.fromKdevT dev, deviceName⟩

def loadTable (deviceName : String) (targets : List DMTargetInfo) : Prog DmCall Error Unit := do
  let dmData ← Prog.ofExcept (DMData.fromTargetInfo targets)
  let _dev ← (command .tableLoad deviceName dmReadonlyFlag dmData targets).mapError (·.messages)
  pure ()

def resumeDevice (deviceName : String) : Prog DmCall Error Unit := do
  let _dev ← (command .devSuspend deviceName dmReadonlyFlag .emptyData []).mapError (·.messages)
  pure ()

/-- The device is removed as soon as nobody has it open. -/
def removeDevice (deviceName : String) : Prog DmCall Error Unit := do
  let _dev ← (command .devRemove deviceName dmDeferredRemove .emptyData []).mapError (·.messages)
  pure ()

end DMControl

namespace VerityDevice

open DMControl

/-- What becomes of a device that could not be created. -/
def createFailed (deviceName : String) (e : DmFailure) : Prog DmCall Error DMDevice := do
  if e.errno = some .busy then
    let devList ← Prog.try_ DmCall.listDevices
    if devList.contains deviceName then Prog.fail [s!"Device {deviceName} already exists"]
    else Prog.fail [s!"Device {deviceName} is busy, but does not exist in the device list"]
  else
    let cause := e.messages.headD ""
    Prog.fail [s!"Failed to create device: {cause}"]

/-- The device with its table in effect. -/
def setup (deviceName : String) (targets : List DMTargetInfo) : Prog DmCall Error DMDevice := do
  match ← (createDevice deviceName).attempt with
  -- There is no device to clean up here.
  | .error e => createFailed deviceName e
  | .ok device =>
      -- The device is created. It is removed on any failure that follows.
      Prog.onError (do
        (loadTable deviceName targets).context "Failed to load table"
        (resumeDevice deviceName).context "Failed to resume device"
        pure device) (removeDevice deviceName)

def new (name devPath : String) (verityInfo : PackageFsVerityInfo) :
    Prog DmCall Error DMDevice := do
  open_
  let sectorSize ← Prog.ask (DmCall.sectorSize devPath)
  let target ← Prog.ofExcept (makeTarget sectorSize devPath verityInfo)
  setup name [target]

/-- The path of the device with the number. -/
def devNode (minor : Nat) : String := s!"/dev/dm-{minor}"

def devnode (device : DMDevice) : String := devNode device.devNo.minor.toNat

end VerityDevice

section Number

open DeviceNum

/-- A mask that begins at the bit `w` leaves what is above it. -/
theorem and_shiftLeft (a mask w : Nat) : a &&& mask <<< w = (a >>> w &&& mask) <<< w := by
  apply Nat.eq_of_testBit_eq
  intro i
  rw [Nat.testBit_and, Nat.testBit_shiftLeft, Nat.testBit_shiftLeft, Nat.testBit_and,
    Nat.testBit_shiftRight]
  by_cases hi : w ≤ i
  · rw [Nat.add_sub_cancel' hi, decide_eq_true hi, Bool.true_and, Bool.true_and]
  · rw [decide_eq_false hi, Bool.false_and, Bool.false_and, Bool.and_false]

theorem and_mask (a w n : Nat) : a &&& (2 ^ n - 1) <<< w = a / 2 ^ w % 2 ^ n * 2 ^ w := by
  rw [and_shiftLeft, Nat.and_two_pow_sub_one_eq_mod, Nat.shiftLeft_eq, Nat.shiftRight_eq_div_pow]

theorem toNat_major (k : UInt64) : (fromKdevT k).major.toNat = k.toNat / 2 ^ 8 % 2 ^ 12 := by
  have hmask : k.toNat &&& 1048320 = k.toNat / 2 ^ 8 % 2 ^ 12 * 2 ^ 8 := and_mask k.toNat 8 12
  have hmajor : (fromKdevT k).major.toNat = (k.toNat &&& 1048320) >>> 8 % 2 ^ 32 := by
    simp [fromKdevT]
  rw [hmajor, hmask, Nat.shiftRight_eq_div_pow]
  omega

theorem toNat_minor (k : UInt64) :
    (fromKdevT k).minor.toNat = k.toNat % 2 ^ 8 + k.toNat / 2 ^ 20 % 2 ^ 12 * 2 ^ 8 := by
  have hlow : k.toNat % 2 ^ 32 &&& 255 = k.toNat % 2 ^ 32 % 2 ^ 8 :=
    Nat.and_two_pow_sub_one_eq_mod _ 8
  have hhigh : k.toNat >>> 12 % 2 ^ 32 &&& 1048320 =
      k.toNat >>> 12 % 2 ^ 32 / 2 ^ 8 % 2 ^ 12 * 2 ^ 8 := and_mask _ 8 12
  have hminor : (fromKdevT k).minor.toNat =
      (k.toNat % 2 ^ 32 &&& 255) ||| (k.toNat >>> 12 % 2 ^ 32 &&& 1048320) := by
    simp [fromKdevT]
  have hlt : k.toNat % 2 ^ 32 % 2 ^ 8 < 2 ^ 8 := Nat.mod_lt _ (by decide)
  rw [hminor, hlow, hhigh, Nat.or_comm, Nat.mul_comm, ← Nat.two_pow_add_eq_or_of_lt hlt,
    Nat.shiftRight_eq_div_pow]
  omega

theorem toNat_asKdevT (num : DeviceNum) :
    (asKdevT num).toNat = num.minor.toNat % 2 ^ 8 ||| num.major.toNat * 2 ^ 8 |||
      num.minor.toNat / 2 ^ 8 * 2 ^ 20 := by
  have hmajor := num.major.toNat_lt
  have hminor := num.minor.toNat_lt
  have hlow : num.minor.toNat &&& 255 = num.minor.toNat % 2 ^ 8 :=
    Nat.and_two_pow_sub_one_eq_mod _ 8
  have hhigh : num.minor.toNat &&& 18446744073709551360 =
      num.minor.toNat / 2 ^ 8 % 2 ^ 56 * 2 ^ 8 := and_mask _ 8 56
  have hkdev : (asKdevT num).toNat = (num.minor.toNat &&& 255) |||
      num.major.toNat <<< 8 % 2 ^ 64 |||
      (num.minor.toNat &&& 18446744073709551360) <<< 12 % 2 ^ 64 := by
    simp [asKdevT]
  have hshift : num.major.toNat <<< 8 % 2 ^ 64 = num.major.toNat * 2 ^ 8 := by
    rw [Nat.shiftLeft_eq]
    omega
  have hshift' : (num.minor.toNat / 2 ^ 8 % 2 ^ 56 * 2 ^ 8) <<< 12 % 2 ^ 64 =
      num.minor.toNat / 2 ^ 8 * 2 ^ 20 := by
    rw [Nat.shiftLeft_eq]
    omega
  rw [hkdev, hlow, hhigh, hshift, hshift']

/-- A number is taken apart as it was put together exactly if its parts fit. -/
theorem fromKdevT_asKdevT_iff (num : DeviceNum) :
    fromKdevT (asKdevT num) = num ↔ num.major.toNat < 2 ^ 12 ∧ num.minor.toNat < 2 ^ 20 := by
  constructor
  · intro h
    rw [← h, toNat_major, toNat_minor]
    omega
  · rintro ⟨hmajor, hminor⟩
    have hlow : num.minor.toNat % 2 ^ 8 < 2 ^ 8 := Nat.mod_lt _ (by decide)
    have hkdev : (asKdevT num).toNat =
        2 ^ 20 * (num.minor.toNat / 2 ^ 8) +
          (2 ^ 8 * num.major.toNat + num.minor.toNat % 2 ^ 8) := by
      -- The three parts have bits of their own.
      have hmiddle : 2 ^ 8 * num.major.toNat + num.minor.toNat % 2 ^ 8 < 2 ^ 20 := by omega
      rw [toNat_asKdevT, Nat.two_pow_add_eq_or_of_lt hmiddle, Nat.two_pow_add_eq_or_of_lt hlow,
        Nat.mul_comm num.major.toNat, Nat.mul_comm (num.minor.toNat / 2 ^ 8),
        Nat.or_comm (num.minor.toNat % 2 ^ 8), Nat.or_comm (2 ^ 20 * _)]
    have hmajor' : (fromKdevT (asKdevT num)).major = num.major := by
      rw [← UInt32.toNat_inj, toNat_major, hkdev]
      omega
    have hminor' : (fromKdevT (asKdevT num)).minor = num.minor := by
      rw [← UInt32.toNat_inj, toNat_minor, hkdev]
      omega
    exact DeviceNum.ext hmajor' hminor'

/-- Two devices have two paths. -/
theorem devNode_injective : Function.Injective VerityDevice.devNode := by
  intro m m' h
  have hlist := congrArg String.toList h
  have happend (n : Nat) :
      (VerityDevice.devNode n).toList = "/dev/dm-".toList ++ n.repr.toList := by
    rw [← String.toList_append]
    rfl
  rw [happend, happend, List.append_cancel_left_eq, Nat.toList_repr, Nat.toList_repr] at hlist
  exact Network.toDigits_injective hlist

end Number

section Target

/-- The paths of the devices a target is on, in the order of its parameters. -/
def targetDevices (target : DMTargetInfo) : List Bytes :=
  ((splitTable target.params).drop 1).take 2

/-- The table begins with a number and a blank, as the one of a signed package does. -/
def Numbered (info : PackageFsVerityInfo) : Prop :=
  ∃ (version : Nat) (rest : String), info.tableParams = version.repr ++ " " ++ rest

/-- What is signed of an image that has been formatted begins with a number. -/
theorem numbered_of_fromVerityImage {decode : Bytes → Except Error VeritySuperBlock}
    {imagePath rootHash : String} {hashFile : Bytes} {dataSize hashSize hashOffset : UInt64}
    {info : PackageFsVerityInfo}
    (h : fromVerityImage decode imagePath (.ok hashFile) dataSize hashSize hashOffset rootHash =
      .ok info) : Numbered info := by
  rcases fromVerityImage_eq_ok h with ⟨sb, algorithm, salt, -, -, -, -, -, rfl⟩
  refine ⟨sb.version.toNat, " ".intercalate [toString sb.dataBlockSize, toString sb.hashBlockSize,
    toString sb.dataBlocks, toString (hashStartBlock dataSize sb.dataBlockSize), algorithm,
    rootHash, salt], ?_⟩
  dsimp only
  rw [buildTableParams]
  simp only [String.intercalate_cons_cons, String.intercalate_singleton, String.append_assoc]
  rfl

/-- The target of a signed table is on the loop device it was made for, and on no other. -/
theorem targetDevices_makeTarget {info : PackageFsVerityInfo} (hinfo : Numbered info)
    {size : UInt32} {dev : Nat} {target : DMTargetInfo}
    (h : makeTarget (.ok size) (loopPath dev) info = .ok target) :
    targetDevices target = [utf8Bytes (loopPath dev), utf8Bytes (loopPath dev)] := by
  rcases hinfo with ⟨version, rest, hparams⟩
  have hresolve : info.resolveTable (loopPath dev) =
      .ok (version.repr ++ " " ++ loopPath dev ++ " " ++ loopPath dev ++ " " ++ rest) := by
    rw [PackageFsVerityInfo.resolveTable, hparams, splitOnce_append (repr_ne_blank version)]
    rfl
  have htarget : target.params =
      version.repr ++ " " ++ loopPath dev ++ " " ++ loopPath dev ++ " " ++ rest := by
    rw [makeTarget, hresolve] at h
    cases h
    rfl
  have hblank : utf8Bytes " " = [32] := by decide
  have hword {s : String} (hs : s ≠ "" ∧ ∀ c ∈ s.toList, IsWordChar c) (after : Bytes) :
      splitArgs isKernelSpace 92 (utf8Bytes s ++ 32 :: after) =
        utf8Bytes s :: splitArgs isKernelSpace 92 after :=
    (splitArgs_plain (plain_of_word hs.1 hs.2)).2 rfl (by decide) after
  -- The number and the two paths are the first three arguments, whatever comes after them.
  have hsplit : splitTable target.params =
      utf8Bytes version.repr :: utf8Bytes (loopPath dev) :: utf8Bytes (loopPath dev) ::
        splitTable rest := by
    rw [splitTable, htarget]
    simp only [utf8Bytes_append, hblank, List.append_assoc, List.cons_append, List.nil_append]
    rw [hword (word_repr version), hword (word_loopPath dev), hword (word_loopPath dev)]
    rfl
  rw [targetDevices, hsplit]
  rfl

end Target

section Header

/-- The name in the header of a command. -/
def nameField (name : String) : Bytes :=
  utf8 name ++ List.replicate (128 - (utf8 name).length) 0

/-- The header of a command about the device of a name. -/
theorem genIoHdr_named {name : String} {flags : UInt32} {dmData : DMData} {ioHdr : DmIoctl}
    (h : genIoHdr (some name) none flags dmData = .ok ioHdr) :
    ioHdr.flags = flags ∧ ioHdr.name = nameField name ∧ (utf8 name).length < 128 := by
  rw [genIoHdr, except_bind_eq_ok] at h
  rcases h with ⟨size, -, h⟩
  rw [except_bind_eq_ok] at h
  rcases h with ⟨hdr, hhdr, h⟩
  rw [DmIoctl.setName, except_bind_eq_ok] at hhdr
  rcases hhdr with ⟨field, hfield, hhdr⟩
  have hvalue : field.val = nameField name ∧ (utf8 name).length < 128 := by
    rw [DmIoctl.copyField] at hfield
    split at hfield
    · cases hfield
      exact ⟨rfl, by assumption⟩
    · cases hfield
  cases hhdr
  cases h
  exact ⟨rfl, hvalue⟩

/-- A name that fits has a header. -/
theorem exists_genIoHdr_named {name : String} (h : (utf8 name).length < 128) (flags : UInt32)
    {dmData : DMData} (hdata : dmData.data.data.length < 2 ^ 32) :
    ∃ ioHdr, genIoHdr (some name) none flags dmData = .ok ioHdr := by
  have hset (hdr : DmIoctl) : ∃ hdr', hdr.setName name = .ok hdr' := by
    rw [DmIoctl.setName, DmIoctl.copyField, dif_pos h]
    exact ⟨_, rfl⟩
  rcases hset (((DmIoctl.new.setFlags flags).setTargetCount dmData.targetCount).setDataSize
    (UInt32.ofNat dmData.data.data.length)) with ⟨hdr, hhdr⟩
  refine ⟨hdr, ?_⟩
  rw [genIoHdr, DMData.dataSize, if_pos hdata]
  simp only [bind, Except.bind, hhdr]

end Header

end Dm

end Ssam
