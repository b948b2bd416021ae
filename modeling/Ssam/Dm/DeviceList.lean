import Ssam.Dm.Ioctl

/-!
# The Devices of the Device Mapper

The kernel answers with a list of its devices: a record for each, with a device number,
the distance to the next record, and a name that ends with a zero. The distance of the
last record is zero. Where there are no devices a record with the number zero stands for
none.

The loop that reads the answer goes from record to record until the distance is zero. It
never looks at the device number, so the record that stands for no device is read as a
device without a name.

## Main definitions

* `getListDevices`: The loop. It ends on every buffer.
* `ListedDevice`, `encodeList`: The devices, and the answer of the kernel.
* `asDataSlice`, `listDevices`: What the command reads of the buffer it gets back.

## Theorems

* `getListDevices_encodeList`: What is read from the records of some devices.
* `get_list_devices_iff`: When the names are read as they were written.
* `listDevices_reply`: The same for the whole command.
-/

namespace Ssam

namespace Dm

open Lib Package

/-- The string with these bytes, if they are the encoding of one. -/
def fromUtf8 (bytes : Bytes) : Option String := String.fromUTF8? ⟨bytes.toArray⟩

/-- The record at the beginning of the buffer: the distance to the next one, and the name.
    Nothing if the name has no end within the buffer, or is no string, which panics. -/
def readDevice (buf : Bytes) : Option (Nat × String) :=
  if buf.length < 12 then none
  else do
    let name ← cString (buf.drop 12)
    let name ← fromUtf8 name
    some (leValue ((buf.drop 8).take 4), name)

/-- The names from the beginning of the buffer on. Nothing if a distance leads out of the
    buffer, which panics. -/
def getListDevices (buf : Bytes) : Option (List String) :=
  if buf = [] then some []
  else
    match readDevice buf with
    | none => none
    | some (next, name) =>
        if next = 0 then some [name]
        else if next ≤ buf.length then
          (getListDevices (buf.drop next)).map fun names => name :: names
        else none
termination_by buf.length
decreasing_by
  have := List.length_pos_iff.mpr (show buf ≠ [] by assumption)
  rw [List.length_drop]
  omega

/-- A device the kernel lists. Behind its name there may be more, up to the next record. -/
structure ListedDevice where
  dev : UInt64
  name : Bytes
  padding : Bytes
  zero_notMem : 0 ∉ name
  /-- The distance to the next record fits in 32 bits. -/
  size_lt : 12 + name.length + 1 + padding.length < 2 ^ 32

def ListedDevice.size (d : ListedDevice) : Nat := 12 + d.name.length + 1 + d.padding.length

/-- The record of a device, with the distance to the next one. -/
def ListedDevice.record (d : ListedDevice) (next : Nat) : Bytes :=
  leBytes 8 d.dev.toNat ++ leBytes 4 next ++ d.name ++ 0 :: d.padding

/-- The record that stands for no device. -/
def noDevice : Bytes := leBytes 8 0 ++ leBytes 4 0 ++ List.replicate 4 0

/-- The answer of the kernel. -/
def encodeList : List ListedDevice → Bytes
  | [] => noDevice
  | [d] => d.record 0
  | d :: d' :: ds => d.record d.size ++ encodeList (d' :: ds)

/-- The data in the buffer of a command, where its header says that they are. -/
def asDataSlice (inner : Bytes) : Except Error Bytes :=
  let start := leValue ((inner.drop 16).take 4)
  let stop := leValue ((inner.drop 12).take 4)
  if start ≤ stop ∧ stop ≤ inner.length then .ok ((inner.drop start).take (stop - start))
  else .error
    [s!"dm_ioctl data range [{start}..{stop}) out of bounds (buffer len: {inner.length})"]

def dmReadonlyFlag : UInt32 := 1

/-- The devices, by the answers of the calls. Nothing if the fuel runs out; a panic is a
    result without names. -/
def listDevices (answers : Nat → Answers) (fuel : Nat) :
    Option (Except Error (Option (List String))) :=
  match genIoHdr none none dmReadonlyFlag .emptyData with
  | .error e => some (.error e)
  | .ok ioHdr =>
      (sendCmd answers fuel ioHdr .emptyData).map fun run => do
        let reply ← run.2
        let data ← asDataSlice reply.buffer
        .ok (getListDevices data)

section Text

theorem fromUtf8_eq_some {bytes : Bytes} {s : String} :
    fromUtf8 bytes = some s ↔ utf8 s = bytes := by
  unfold fromUtf8 String.fromUTF8?
  constructor
  · intro h
    split at h
    · rw [← Option.some.inj h]
      rfl
    · cases h
  · rintro rfl
    have hbytes : ByteArray.mk (utf8 s).toArray = s.toByteArray := by
      rw [utf8, Array.toArray_toList]
    simp only [hbytes, dif_pos s.isValidUTF8]
    rfl

end Text

section Record

variable (d : ListedDevice) {next : Nat} {rest : Bytes}

theorem ListedDevice.length_record : (d.record next).length = d.size := by
  simp only [ListedDevice.record, ListedDevice.size, List.length_append, length_leBytes,
    List.length_cons]
  omega

/-- A record is read whatever follows it. -/
theorem readDevice_record (hnext : next < 2 ^ 32) (rest : Bytes) :
    readDevice (d.record next ++ rest) = (fromUtf8 d.name).map fun name => (next, name) := by
  have hlong : ¬ (d.record next ++ rest).length < 12 := by
    rw [List.length_append, d.length_record, ListedDevice.size]
    omega
  have hsplit : d.record next ++ rest =
      leBytes 8 d.dev.toNat ++ (leBytes 4 next ++ (d.name ++ 0 :: (d.padding ++ rest))) := by
    simp only [ListedDevice.record, List.append_assoc, List.cons_append]
  have hdistance : leValue (((d.record next ++ rest).drop 8).take 4) = next := by
    rw [hsplit, take_drop_append _ (length_leBytes 8 _) (length_leBytes 4 _), leValue_leBytes]
    exact Nat.mod_eq_of_lt hnext
  have hname : cString ((d.record next ++ rest).drop 12) = some d.name := by
    have hlen : (leBytes 8 d.dev.toNat ++ leBytes 4 next).length = 12 := by
      simp only [List.length_append, length_leBytes]
    rw [hsplit, ← List.append_assoc, drop_append _ hlen, cString_append d.zero_notMem]
  rw [readDevice, if_neg hlong, hname, hdistance]
  cases hutf8 : fromUtf8 d.name with
  | none => simp only [Option.bind_eq_bind, Option.bind_some, hutf8, Option.bind_none,
      Option.map_none]
  | some name => simp only [Option.bind_eq_bind, Option.bind_some, hutf8, Option.map_some]

end Record

section List

variable {devices : List ListedDevice} {buf : Bytes} {name : Option String} {next : Nat}

/-- The loop ends at a record without a distance. -/
theorem getListDevices_last (hne : buf ≠ [])
    (hread : readDevice buf = name.map fun name => (0, name)) :
    getListDevices buf = name.map fun name => [name] := by
  rw [getListDevices, if_neg hne, hread]
  cases name with
  | none => simp only [Option.map_none]
  | some name => simp only [Option.map_some, if_true]

/-- The loop goes on behind a record with a distance. -/
theorem getListDevices_next (hpos : 0 < next) (hle : next ≤ buf.length)
    (hread : readDevice buf = name.map fun name => (next, name)) :
    getListDevices buf =
      name.bind fun name => (getListDevices (buf.drop next)).map fun names => name :: names := by
  have hne : buf ≠ [] := List.ne_nil_of_length_pos (Nat.lt_of_lt_of_le hpos hle)
  rw [getListDevices, if_neg hne, hread]
  cases name with
  | none => simp only [Option.map_none, Option.bind_none]
  | some name =>
      simp only [Option.map_some, Option.bind_some, if_neg (Nat.ne_of_gt hpos), if_pos hle]

/-- The records are read one after another, and each gives its name. -/
theorem getListDevices_encodeList (h : devices ≠ []) :
    getListDevices (encodeList devices) = devices.mapM fun d => fromUtf8 d.name := by
  induction devices with
  | nil => exact absurd rfl h
  | cons d ds ih =>
      have hpos : 0 < d.size := by
        rw [ListedDevice.size]
        omega
      cases ds with
      | nil =>
          have hne : d.record 0 ≠ [] := List.ne_nil_of_length_pos (d.length_record ▸ hpos)
          have hread : readDevice (d.record 0) = (fromUtf8 d.name).map fun name => (0, name) := by
            rw [← List.append_nil (d.record 0)]
            exact readDevice_record d (by decide) []
          rw [encodeList, getListDevices_last hne hread, List.mapM_cons, List.mapM_nil]
          cases fromUtf8 d.name with
          | none => rfl
          | some name => rfl
      | cons d' ds =>
          -- The distance is the length of the record, so what lies there are the others.
          have hle : d.size ≤ (encodeList (d :: d' :: ds)).length := by
            rw [encodeList, List.length_append, d.length_record]
            exact Nat.le_add_right _ _
          have hrest : (encodeList (d :: d' :: ds)).drop d.size = encodeList (d' :: ds) := by
            rw [encodeList]
            exact drop_append _ d.length_record
          have hread : readDevice (encodeList (d :: d' :: ds)) =
              (fromUtf8 d.name).map fun name => (d.size, name) := by
            rw [encodeList]
            exact readDevice_record d d.size_lt _
          rw [getListDevices_next hpos hle hread, hrest, List.mapM_cons, ih (List.cons_ne_nil _ _)]
          cases fromUtf8 d.name with
          | none => rfl
          | some name =>
              simp only [Option.bind_some, Option.bind_eq_bind, Option.map_eq_bind]
              rfl

/-- The record that stands for no device is read as one without a name. -/
theorem getListDevices_noDevice : getListDevices noDevice = some [""] := by
  have hread : readDevice noDevice = (some "").map fun name => (0, name) := by
    have hempty : fromUtf8 [] = some "" := fromUtf8_eq_some.mpr rfl
    rw [← hempty]
    exact readDevice_record ⟨0, [], [0, 0, 0], List.not_mem_nil, by decide⟩ (by decide) []
  exact getListDevices_last (by decide) hread

/-- The bytes are the encoding of a string. -/
def IsText (bytes : Bytes) : Prop := ∃ s, utf8 s = bytes

/-- The names are read as they were written. -/
def ReadsBack (devices : List ListedDevice) : Prop :=
  ∃ names, getListDevices (encodeList devices) = some names ∧
    names.map utf8 = devices.map ListedDevice.name

theorem mapM_fromUtf8_eq_some {names : List String} :
    (devices.mapM fun d => fromUtf8 d.name) = some names ↔
      names.map utf8 = devices.map ListedDevice.name := by
  induction devices generalizing names with
  | nil =>
      rw [List.mapM_nil, List.map_nil, List.map_eq_nil_iff]
      exact ⟨fun h => (Option.some.inj h).symm, fun h => congrArg some h.symm⟩
  | cons d ds ih =>
      rw [List.mapM_cons]
      constructor
      · intro h
        rcases Option.bind_eq_some_iff.mp h with ⟨name, hname, h⟩
        rcases Option.bind_eq_some_iff.mp h with ⟨rest, hrest, h⟩
        cases h
        rw [List.map_cons, List.map_cons, fromUtf8_eq_some.mp hname, ih.mp hrest]
      · intro h
        cases names with
        | nil => cases h
        | cons name rest =>
            rw [List.map_cons, List.map_cons, List.cons.injEq] at h
            rw [fromUtf8_eq_some.mpr h.1, ih.mpr h.2]
            rfl

theorem exists_map_utf8 (h : ∀ d ∈ devices, IsText d.name) :
    ∃ names : List String, names.map utf8 = devices.map ListedDevice.name := by
  induction devices with
  | nil => exact ⟨[], rfl⟩
  | cons d ds ih =>
      rw [List.forall_mem_cons] at h
      rcases h.1 with ⟨name, hname⟩
      rcases ih h.2 with ⟨names, hnames⟩
      exact ⟨name :: names, by rw [List.map_cons, List.map_cons, hname, hnames]⟩

/-- The names are read back exactly where there is a device at all, and every name is the
    encoding of a string. -/
theorem get_list_devices_iff (devices : List ListedDevice) :
    ReadsBack devices ↔ devices ≠ [] ∧ ∀ d ∈ devices, IsText d.name := by
  by_cases hnil : devices = []
  · subst hnil
    refine iff_of_false ?_ fun h => h.1 rfl
    rintro ⟨names, hread, hnames⟩
    rw [encodeList, getListDevices_noDevice] at hread
    cases hread
    cases hnames
  · rw [ReadsBack, getListDevices_encodeList hnil]
    simp only [mapM_fromUtf8_eq_some, and_self]
    constructor
    · rintro ⟨names, hnames⟩
      refine ⟨hnil, fun d hd => ?_⟩
      have hmem : d.name ∈ names.map utf8 := hnames ▸ List.mem_map_of_mem hd
      rcases List.mem_map.mp hmem with ⟨s, -, hs⟩
      exact ⟨s, hs⟩
    · rintro ⟨-, htext⟩
      exact exists_map_utf8 htext

/-- Where there are no devices, one without a name is found. -/
theorem no_device_listed : ¬ ∀ devices : List ListedDevice,
    (∀ d ∈ devices, IsText d.name) → ReadsBack devices := by
  intro h
  rcases h [] (List.forall_mem_nil _) with ⟨names, hread, hnames⟩
  rw [encodeList, getListDevices_noDevice] at hread
  cases hread
  cases hnames

end List

section Command

/-- What the header of a command says of its data. -/
theorem asDataSlice_append {hdr : DmIoctl} {data : Bytes}
    (hstart : hdr.dataStart.toNat = sizeOfDmIoctl)
    (hsize : hdr.dataSize.toNat = sizeOfDmIoctl + data.length) :
    asDataSlice (hdr.bytes ++ data) = .ok data := by
  have hlen : hdr.bytes.length = sizeOfDmIoctl := by
    simp only [DmIoctl.bytes, List.length_append, length_leBytes, hdr.length_name, hdr.length_uuid,
      List.length_replicate, sizeOfDmIoctl]
  have hvalue : ∀ n : UInt32, leValue (leBytes 4 n.toNat) = n.toNat := fun n => by
    rw [leValue_leBytes]
    exact Nat.mod_eq_of_lt n.toNat_lt
  -- The size and the start of the data lie at 12 and 16, behind the version.
  have hfields : ∃ rest, hdr.bytes ++ data = (leBytes 4 4 ++ (leBytes 4 0 ++ leBytes 4 0)) ++
      (leBytes 4 hdr.dataSize.toNat ++ (leBytes 4 hdr.dataStart.toNat ++ rest)) := by
    simp only [DmIoctl.bytes, List.append_assoc]
    exact ⟨_, rfl⟩
  rcases hfields with ⟨rest, hfields⟩
  have hlen12 : (leBytes 4 4 ++ (leBytes 4 0 ++ leBytes 4 0)).length = 12 := by
    simp only [List.length_append, length_leBytes]
  have hlen16 : (leBytes 4 4 ++ (leBytes 4 0 ++ leBytes 4 0) ++
      leBytes 4 hdr.dataSize.toNat).length = 16 := by
    simp only [List.length_append, length_leBytes]
  have hstop : leValue (((hdr.bytes ++ data).drop 12).take 4) = sizeOfDmIoctl + data.length := by
    rw [hfields, take_drop_append _ hlen12 (length_leBytes 4 _), hvalue, hsize]
  have hbegin : leValue (((hdr.bytes ++ data).drop 16).take 4) = sizeOfDmIoctl := by
    rw [hfields, ← List.append_assoc _ (leBytes 4 hdr.dataSize.toNat),
      take_drop_append _ hlen16 (length_leBytes 4 _), hvalue, hstart]
  have hfits : sizeOfDmIoctl ≤ sizeOfDmIoctl + data.length ∧
      sizeOfDmIoctl + data.length ≤ (hdr.bytes ++ data).length := by
    rw [List.length_append, hlen]
    exact ⟨Nat.le_add_right _ _, Nat.le_refl _⟩
  simp only [asDataSlice, hstop, hbegin, if_pos hfits]
  rw [drop_append _ hlen, Nat.add_sub_cancel_left, List.take_length]

/-- A command about no device in particular has a header. -/
theorem exists_genIoHdr {dmData : DMData} (flag : UInt32)
    (h : dmData.data.data.length < 2 ^ 32) :
    ∃ ioHdr, genIoHdr none none flag dmData = .ok ioHdr := by
  rw [genIoHdr, DMData.dataSize, if_pos h]
  exact ⟨_, rfl⟩

theorem length_emptyData : DMData.emptyData.data.data.length < 2 ^ 32 := by
  have hsizes : DMData.emptyData.data.data.length = defBufSize := congrArg Prod.fst emptyData_sizes
  rw [hsizes]
  decide

/-- An answer that fits in the first buffer is the last. -/
theorem sendCmd_first {answers : Nat → Answers} {reply : Reply}
    (hfits : reply.flags &&& dmBufferFullFlag = 0) (hanswer : (answers 0).ioctl = .ok reply)
    (fuel : Nat) (ioHdr : DmIoctl) (dmData : DMData) :
    sendCmd answers (fuel + 1) ioHdr dmData =
      some ([⟨ioHdr, dmData, DmIoctlPayload.new ioHdr dmData⟩], .ok reply) := by
  rw [sendCmd, sendLoop, hanswer]
  simp only [if_pos hfits]

/-- Where the answer fits in the first buffer, the command gives what the loop reads. -/
theorem listDevices_reply {answers : Nat → Answers} {hdr : DmIoctl} {devices : List ListedDevice}
    {flags : UInt32} (hfits : flags &&& dmBufferFullFlag = 0)
    (hanswer : (answers 0).ioctl = .ok ⟨flags, hdr.bytes ++ encodeList devices⟩)
    (hstart : hdr.dataStart.toNat = sizeOfDmIoctl)
    (hsize : hdr.dataSize.toNat = sizeOfDmIoctl + (encodeList devices).length) (fuel : Nat) :
    listDevices answers (fuel + 1) = some (.ok (getListDevices (encodeList devices))) := by
  rcases exists_genIoHdr dmReadonlyFlag length_emptyData with ⟨ioHdr, hhdr⟩
  have hrun := sendCmd_first hfits hanswer fuel ioHdr DMData.emptyData
  have hread := asDataSlice_append hstart hsize
  unfold listDevices
  rw [hhdr]
  dsimp only
  rw [hrun, Option.map_some]
  dsimp only [bind, Except.bind]
  rw [hread]

end Command

end Dm

end Ssam
