import Mathlib.Tactic.IntervalCases
import Ssam.Dm.Target

/-!
# A Command to the Device Mapper

A command is a header and data behind it, in a buffer that the kernel writes its answer
into as well. If the answer does not fit the kernel says so, and the command is sent
again with more data. The data is made longer by its own capacity, by a factor that
doubles each time.

The size in the header has 32 bits. The lengths grow so fast that at most a few rounds
are left to an answer that never fits, and then the length has no place in the header
and the command fails. What has to be seen is that no length before that comes so near
to the limit that the header does not fit in front of it.

## Main definitions

* `DmIoctl`: The header.
* `DMData.resizeMul`: More data.
* `DmIoctlPayload.new`: The buffer of a round.
* `sendCmd`: The loop.
* `Sound`: The sizes of a round fit together.

## Theorems

* `resizeMul_sizes`: The length and the capacity after a round.
* `sendCmd_ends`: The loop ends where the lengths leave the 32 bits.
* `send_cmd_sound`: The commands the daemon sends.
-/

namespace Ssam

namespace Dm

open Lib Package

/-- The size data has at least. -/
def defBufSize : Nat := 16 * 1024

def sizeOfDmIoctl : Nat := 312

def dmBufferFullFlag : UInt32 := 256

/-- The fields of the header a command sets. The others are zero. -/
structure DmIoctl where
  dataSize : UInt32
  dataStart : UInt32
  targetCount : UInt32
  flags : UInt32
  name : Bytes
  uuid : Bytes
  length_name : name.length = 128
  length_uuid : uuid.length = 129

namespace DmIoctl

/-- The header as it lies in memory, with the version of the interface first. -/
def bytes (hdr : DmIoctl) : Bytes :=
  leBytes 4 4 ++ leBytes 4 0 ++ leBytes 4 0 ++ leBytes 4 hdr.dataSize.toNat ++
    leBytes 4 hdr.dataStart.toNat ++ leBytes 4 hdr.targetCount.toNat ++ leBytes 4 0 ++
    leBytes 4 hdr.flags.toNat ++ leBytes 4 0 ++ leBytes 4 0 ++ leBytes 8 0 ++ hdr.name ++
    hdr.uuid ++ List.replicate 7 0

def new : DmIoctl :=
  ⟨0, UInt32.ofNat sizeOfDmIoctl, 0, 0, List.replicate 128 0, List.replicate 129 0,
    List.length_replicate, List.length_replicate⟩

def setFlags (hdr : DmIoctl) (flags : UInt32) : DmIoctl := { hdr with flags := flags }

def setTargetCount (hdr : DmIoctl) (count : UInt32) : DmIoctl := { hdr with targetCount := count }

/-- The size of the data with the header, and no less than the smallest one. The sum is
    cut to 32 bits. -/
def setDataSize (hdr : DmIoctl) (size : UInt32) : DmIoctl :=
  { hdr with dataSize := UInt32.ofNat (max defBufSize (sizeOfDmIoctl + size.toNat)) }

/-- A string that is copied into a field of `n` bytes. There has to be room for a zero
    behind it, or the copying panics. -/
def copyField (n : Nat) (s : String) : Except Error { field : Bytes // field.length = n } :=
  if h : (utf8 s).length < n then
    .ok ⟨utf8 s ++ List.replicate (n - (utf8 s).length) 0, by
      rw [List.length_append, List.length_replicate]
      omega⟩
  else .error ["copy_from_slice: source slice length does not match destination slice length"]

def setName (hdr : DmIoctl) (name : String) : Except Error DmIoctl := do
  let field ← copyField 128 name
  .ok { hdr with name := field.val, length_name := field.property }

def setUuid (hdr : DmIoctl) (uuid : String) : Except Error DmIoctl := do
  let field ← copyField 129 uuid
  .ok { hdr with uuid := field.val, length_uuid := field.property }

end DmIoctl

/-- A product of two sizes, or the largest size there is. -/
def saturatingMul (a b : Nat) : Nat := min (a * b) (2 ^ 64 - 1)

namespace DMData

def emptyData : DMData where
  data := (Vec.withCapacity defBufSize).resize defBufSize 0
  targetCount := 0

def dataSize (data : DMData) : Except Error UInt32 :=
  if data.data.data.length < 2 ^ 32 then .ok (UInt32.ofNat data.data.data.length)
  else .error ["dm data size overflows u32", "out of range integral type conversion attempted"]

/-- The data made as long as a multiple of its capacity. That there is room for it is for
    the allocator to say. -/
def resizeMul (tryReserve : Except Error Unit) (data : DMData) (multiplier : Nat) :
    Except Error DMData :=
  if multiplier > 1 then do
    let newCap := saturatingMul data.data.capacity multiplier
    let additional := newCap - data.data.capacity
    let reserved ←
      if additional > 0 then do
        context "Failed to reserve additional space for DMData" tryReserve
        .ok (data.data.reserveExact additional)
      else .ok data.data
    .ok { data with data := reserved.resize newCap 0 }
  -- Nothing is resized otherwise, which is only logged.
  else .ok data

end DMData

def genIoHdr (deviceName deviceUuid : Option String) (flag : UInt32) (dmData : DMData) :
    Except Error DmIoctl := do
  let size ← dmData.dataSize
  let hdr := ((DmIoctl.new.setFlags flag).setTargetCount dmData.targetCount).setDataSize size
  let hdr ← match deviceName with
    | some name => hdr.setName name
    | none => .ok hdr
  match deviceUuid with
  | some uuid => hdr.setUuid uuid
  | none => .ok hdr

/-- The buffer of a command: the header, the data, and zeros up to the capacity. -/
def DmIoctlPayload.new (ioHdr : DmIoctl) (data : DMData) : Vec UInt8 :=
  let buf := ((Vec.withCapacity ioHdr.dataSize.toNat).extend ioHdr.bytes).extend data.data.data
  buf.resize buf.capacity 0

/-- What the kernel answers: its flags, and the buffer it leaves. -/
structure Reply where
  flags : UInt32
  buffer : Bytes

/-- What the calls of a round are answered. -/
structure Answers where
  ioctl : Except Error Reply
  tryReserve : Except Error Unit

/-- What is handed to the kernel in a round. -/
structure CmdRound where
  ioHdr : DmIoctl
  dmData : DMData
  payload : Vec UInt8

/-- The rounds of a command from the `i`-th on, and what it ends with. Nothing if the fuel
    runs out before the loop ends. -/
def sendLoop (answers : Nat → Answers) :
    (fuel i mulNum : Nat) → DmIoctl → DMData → Option (List CmdRound × Except Error Reply)
  | 0, _, _, _, _ => none
  | fuel + 1, i, mulNum, ioHdr, dmData =>
      let round : CmdRound := ⟨ioHdr, dmData, DmIoctlPayload.new ioHdr dmData⟩
      match (answers i).ioctl with
      | .error e => some ([round], .error e)
      | .ok result =>
          if result.flags &&& dmBufferFullFlag = 0 then some ([round], .ok result)
          else
            -- The factor doubles, and it is one of the capacity the data has by now.
            let mulNum := saturatingMul mulNum 2
            let resized := do
              let dmData ← context "Failed to resize buffer"
                (dmData.resizeMul (answers i).tryReserve mulNum)
              let size ← dmData.dataSize
              .ok (dmData, ioHdr.setDataSize size)
            match resized with
            | .error e => some ([round], .error e)
            | .ok (dmData, ioHdr) =>
                (sendLoop answers fuel (i + 1) mulNum ioHdr dmData).map fun rest =>
                  (round :: rest.1, rest.2)

def sendCmd (answers : Nat → Answers) (fuel : Nat) (ioHdr : DmIoctl) (dmData : DMData) :
    Option (List CmdRound × Except Error Reply) :=
  sendLoop answers fuel 0 1 ioHdr dmData

/-- The size in the header is not cut, the header and the data fit in it, and it fits in
    the buffer. -/
structure Sound (round : CmdRound) : Prop where
  dataSize_eq : round.ioHdr.dataSize.toNat =
    max defBufSize (sizeOfDmIoctl + round.dmData.data.data.length)
  data_le : sizeOfDmIoctl + round.dmData.data.data.length ≤ round.ioHdr.dataSize.toNat
  dataSize_le : round.ioHdr.dataSize.toNat ≤ round.payload.data.length

/-- The length of the data and its capacity. -/
def DMData.sizes (data : DMData) : Nat × Nat := (data.data.data.length, data.data.capacity)

/-- The two after the data is made longer by the factor `m`. Only where the capacity is used
    up is the room that is asked for what is needed. -/
def grow (m : Nat) (s : Nat × Nat) : Nat × Nat :=
  (s.2 * m, if s.1 = s.2 then s.2 * m else 2 * (s.1 + (s.2 * m - s.2)))

/-- The two after the first `k` rounds, whose factors are the powers of two. -/
def sizesAfter (s : Nat × Nat) : Nat → Nat × Nat
  | 0 => s
  | k + 1 => grow (2 ^ (k + 1)) (sizesAfter s k)

/-- The header fits in front of data with these sizes, and the sizes of the round after the
    `k`-th can be told without saturation. -/
structure RoundFits (s : Nat × Nat) (k : Nat) : Prop where
  pos : 0 < s.1
  fits : sizeOfDmIoctl + s.1 < 2 ^ 32
  capacity : s.2 * 2 ^ (k + 1) < 2 ^ 64

/-- Up to the round `K` the header fits in front of the data, and there the data is too long
    for it. -/
structure EndsAt (s : Nat × Nat) (K : Nat) : Prop where
  before : ∀ k < K, RoundFits (sizesAfter s k) k
  ends : 2 ^ 32 ≤ (sizesAfter s K).1

section Round

theorem dataSize_eq_ok {data : DMData} {size : UInt32} (h : data.dataSize = .ok size) :
    data.data.data.length < 2 ^ 32 ∧ size.toNat = data.data.data.length := by
  unfold DMData.dataSize at h
  split at h
  · rename_i hlt
    cases h
    exact ⟨hlt, by rw [UInt32.toNat_ofNat', Nat.mod_eq_of_lt hlt]⟩
  · cases h

/-- The sizes fit together where the header fits in front of the data. -/
theorem sound_of_lt {ioHdr : DmIoctl} {dmData : DMData}
    (hlt : sizeOfDmIoctl + dmData.data.data.length < 2 ^ 32)
    (hsize : ioHdr.dataSize =
      UInt32.ofNat (max defBufSize (sizeOfDmIoctl + dmData.data.data.length))) :
    Sound ⟨ioHdr, dmData, DmIoctlPayload.new ioHdr dmData⟩ := by
  have hmax : max defBufSize (sizeOfDmIoctl + dmData.data.data.length) < 2 ^ 32 :=
    max_lt (by decide) hlt
  have heq : ioHdr.dataSize.toNat = max defBufSize (sizeOfDmIoctl + dmData.data.data.length) := by
    rw [hsize, UInt32.toNat_ofNat', Nat.mod_eq_of_lt hmax]
  refine ⟨heq, heq ▸ le_max_right _ _, ?_⟩
  -- The buffer is as long as its capacity, and that is at least what was asked for.
  have hroom := (Vec.capacity_le_extend (Vec.withCapacity ioHdr.dataSize.toNat) ioHdr.bytes).trans
    (Vec.capacity_le_extend _ dmData.data.data)
  exact hroom.trans_eq (Vec.length_resize_of_le (Vec.length_le _) 0).symm

theorem resizeMul_sizes {tryReserve : Except Error Unit} {data data' : DMData} {m : Nat}
    (hm : 1 < m) (hpos : 0 < data.data.data.length) (hfits : data.data.capacity * m < 2 ^ 64)
    (h : data.resizeMul tryReserve m = .ok data') : data'.sizes = grow m data.sizes := by
  have hcap : data.data.data.length ≤ data.data.capacity := data.data.length_le
  have hmul : data.data.capacity * 2 ≤ data.data.capacity * m := Nat.mul_le_mul_left _ hm
  have hsat : saturatingMul data.data.capacity m = data.data.capacity * m := by
    rw [saturatingMul]
    omega
  have hadditional : data.data.capacity * m - data.data.capacity > 0 := by omega
  rw [DMData.resizeMul, if_pos hm, hsat] at h
  simp only [if_pos hadditional] at h
  rw [except_bind_eq_ok] at h
  rcases h with ⟨_, -, h⟩
  cases h
  have hlt : data.data.data.length < data.data.capacity * m := by omega
  have hroom : (data.data.reserveExact (data.data.capacity * m - data.data.capacity)).capacity =
      data.data.data.length + (data.data.capacity * m - data.data.capacity) :=
    Vec.capacity_reserveExact_of_lt (by omega)
  have hkept : (data.data.reserveExact (data.data.capacity * m - data.data.capacity)).data =
      data.data.data := rfl
  generalize data.data.reserveExact (data.data.capacity * m - data.data.capacity) = v at hroom hkept
  rw [← hkept] at hlt hpos hcap hroom
  refine Prod.ext (Vec.length_resize_of_le (Nat.le_of_lt hlt) 0) ?_
  have hgrow : (grow m data.sizes).2 = if v.data.length = data.data.capacity then
      data.data.capacity * m
      else 2 * (v.data.length + (data.data.capacity * m - data.data.capacity)) := by
    rw [hkept]
    rfl
  rw [hgrow]
  refine (Vec.capacity_resize_of_lt hlt 0).trans ?_
  rw [hroom]
  -- The room that was asked for starts at the length, and the new length at the capacity.
  by_cases hfull : v.data.length = data.data.capacity
  · rw [if_pos hfull, if_pos (by omega)]
    omega
  · rw [if_neg hfull, if_neg (by omega)]
    omega

end Round

section Loop

variable {answers : Nat → Answers} {s : Nat × Nat} {K : Nat}

/-- The factor of the next round. -/
theorem saturatingMul_pow (h : EndsAt s K) {data : DMData} {k : Nat} (hk : k < K)
    (hdata : data.sizes = sizesAfter s k) : saturatingMul (2 ^ k) 2 = 2 ^ (k + 1) := by
  have hpos := (h.before k hk).pos
  have hcapacity := (h.before k hk).capacity
  rw [← hdata] at hpos hcapacity
  have hle : 1 ≤ data.sizes.2 := Nat.le_trans hpos data.data.length_le
  have hlt : 2 ^ (k + 1) < 2 ^ 64 :=
    Nat.lt_of_le_of_lt (Nat.le_mul_of_pos_left _ hle) hcapacity
  rw [saturatingMul, ← Nat.pow_succ]
  omega

/-- A round before `K` is the last, or it leads to another round before `K`. -/
theorem sendLoop_step (answers : Nat → Answers) (h : EndsAt s K) {k : Nat} (hk : k < K)
    (ioHdr : DmIoctl) {dmData : DMData} (hdata : dmData.sizes = sizesAfter s k) :
    (∃ result, ∀ fuel, sendLoop answers (fuel + 1) k (2 ^ k) ioHdr dmData =
      some ([⟨ioHdr, dmData, DmIoctlPayload.new ioHdr dmData⟩], result)) ∨
    ∃ ioHdr' dmData', k + 1 < K ∧ dmData'.sizes = sizesAfter s (k + 1) ∧
      ioHdr'.dataSize =
        UInt32.ofNat (max defBufSize (sizeOfDmIoctl + dmData'.data.data.length)) ∧
      ∀ fuel, sendLoop answers (fuel + 1) k (2 ^ k) ioHdr dmData =
        (sendLoop answers fuel (k + 1) (2 ^ (k + 1)) ioHdr' dmData').map fun rest =>
          (⟨ioHdr, dmData, DmIoctlPayload.new ioHdr dmData⟩ :: rest.1, rest.2) := by
  have hmul := saturatingMul_pow h hk hdata
  cases hioctl : (answers k).ioctl with
  | error e => exact Or.inl ⟨.error e, fun fuel => by rw [sendLoop, hioctl]⟩
  | ok reply =>
      by_cases hfull : reply.flags &&& dmBufferFullFlag = 0
      · exact Or.inl ⟨.ok reply, fun fuel => by simp only [sendLoop, hioctl, if_pos hfull]⟩
      cases hresize : context "Failed to resize buffer"
          (dmData.resizeMul (answers k).tryReserve (2 ^ (k + 1))) with
      | error e =>
          refine Or.inl ⟨.error e, fun fuel => ?_⟩
          simp only [sendLoop, hioctl, if_neg hfull, hmul, hresize]
          rfl
      | ok dmData' =>
          cases hlen : dmData'.dataSize with
          | error e =>
              refine Or.inl ⟨.error e, fun fuel => ?_⟩
              simp only [sendLoop, hioctl, if_neg hfull, hmul, hresize]
              simp only [bind, Except.bind, hlen]
          | ok size =>
              have hpos := (h.before k hk).pos
              have hcapacity := (h.before k hk).capacity
              rw [← hdata] at hpos hcapacity
              have hsizes : dmData'.sizes = sizesAfter s (k + 1) := by
                rw [resizeMul_sizes (Nat.one_lt_two_pow (Nat.succ_ne_zero k)) hpos hcapacity
                  (context_eq_ok.mp hresize), hdata, sizesAfter]
              rcases dataSize_eq_ok hlen with ⟨hlt, hsize⟩
              -- The length has its place in the header, so this is not yet the round `K`.
              have hnext : k + 1 < K := by
                refine Nat.lt_of_le_of_ne hk fun heq => ?_
                have hends := h.ends
                rw [← heq, ← hsizes] at hends
                exact Nat.not_lt_of_le hends hlt
              refine Or.inr ⟨ioHdr.setDataSize size, dmData', hnext, hsizes, ?_, fun fuel => ?_⟩
              · rw [DmIoctl.setDataSize, hsize]
              · simp only [sendLoop, hioctl, if_neg hfull, hmul, hresize]
                simp only [bind, Except.bind, hlen]

/-- From a round before `K` the loop ends before `K`, whatever it is answered. -/
theorem sendLoop_ends (answers : Nat → Answers) (h : EndsAt s K) (d : Nat) {k : Nat}
    (hk : k + (d + 1) = K) {ioHdr : DmIoctl} {dmData : DMData}
    (hdata : dmData.sizes = sizesAfter s k)
    (hsize : ioHdr.dataSize =
      UInt32.ofNat (max defBufSize (sizeOfDmIoctl + dmData.data.data.length))) :
    ∃ rounds result,
      (∀ fuel > d, sendLoop answers fuel k (2 ^ k) ioHdr dmData = some (rounds, result)) ∧
      rounds.length ≤ d + 1 ∧ ∀ round ∈ rounds, Sound round := by
  -- The induction is on how many rounds may follow.
  induction d using Nat.strong_induction_on generalizing k ioHdr dmData with
  | _ d ih =>
      have hfits := (h.before k (by omega)).fits
      rw [← hdata] at hfits
      have hsound := sound_of_lt hfits hsize
      rcases sendLoop_step answers h (by omega) ioHdr hdata with
        ⟨result, hlast⟩ | ⟨ioHdr', dmData', hlt, hdata', hsize', hnext⟩
      · refine ⟨[_], result, fun fuel hfuel => ?_, Nat.le_add_left 1 d,
          List.forall_mem_singleton.mpr hsound⟩
        obtain ⟨fuel, rfl⟩ : ∃ n, fuel = n + 1 := ⟨fuel - 1, by omega⟩
        exact hlast fuel
      · rcases ih (d - 1) (by omega) (by omega) hdata' hsize' with
          ⟨rounds, result, hrun, hlen, hrounds⟩
        refine ⟨_ :: rounds, result, fun fuel hfuel => ?_, ?_,
          List.forall_mem_cons.mpr ⟨hsound, hrounds⟩⟩
        · obtain ⟨fuel, rfl⟩ : ∃ n, fuel = n + 1 := ⟨fuel - 1, by omega⟩
          rw [hnext, hrun fuel (by omega)]
          rfl
        · rw [List.length_cons]
          omega

end Loop

section Sizes

/-- Where there is room to spare there is more of it afterwards. -/
theorem grow_slack {l c : Nat} (m : Nat) (h : l < c) :
    grow m (l, c) = (c * m, 2 * (l + (c * m - c))) := by
  rw [grow, if_neg (Nat.ne_of_lt h)]

/-- The lengths and the capacities of a vector with room to spare. -/
theorem sizesAfter_slack {l c : Nat} (hl : 0 < l) (hc : l < c) :
    sizesAfter (l, c) 1 = (2 * c, 2 * l + 2 * c) ∧
    sizesAfter (l, c) 2 = (8 * l + 8 * c, 12 * l + 16 * c) ∧
    sizesAfter (l, c) 3 = (96 * l + 128 * c, 184 * l + 240 * c) ∧
    sizesAfter (l, c) 4 = (2944 * l + 3840 * c, 5712 * l + 7456 * c) ∧
    sizesAfter (l, c) 5 = (182784 * l + 238592 * c, 360032 * l + 469952 * c) ∧
    sizesAfter (l, c) 6 = (23042048 * l + 30076928 * c, 45729600 * l + 59691136 * c) := by
  have h1 : sizesAfter (l, c) 1 = (2 * c, 2 * l + 2 * c) := by
    rw [sizesAfter, sizesAfter, grow_slack _ hc]
    exact Prod.ext (by omega) (by omega)
  have h2 : sizesAfter (l, c) 2 = (8 * l + 8 * c, 12 * l + 16 * c) := by
    rw [sizesAfter, h1, grow_slack _ (by omega)]
    exact Prod.ext (by omega) (by omega)
  have h3 : sizesAfter (l, c) 3 = (96 * l + 128 * c, 184 * l + 240 * c) := by
    rw [sizesAfter, h2, grow_slack _ (by omega)]
    exact Prod.ext (by omega) (by omega)
  have h4 : sizesAfter (l, c) 4 = (2944 * l + 3840 * c, 5712 * l + 7456 * c) := by
    rw [sizesAfter, h3, grow_slack _ (by omega)]
    exact Prod.ext (by omega) (by omega)
  have h5 : sizesAfter (l, c) 5 = (182784 * l + 238592 * c, 360032 * l + 469952 * c) := by
    rw [sizesAfter, h4, grow_slack _ (by omega)]
    exact Prod.ext (by omega) (by omega)
  have h6 : sizesAfter (l, c) 6 = (23042048 * l + 30076928 * c, 45729600 * l + 59691136 * c) := by
    rw [sizesAfter, h5, grow_slack _ (by omega)]
    exact Prod.ext (by omega) (by omega)
  exact ⟨h1, h2, h3, h4, h5, h6⟩

theorem roundFits_iff {l c k : Nat} :
    RoundFits (l, c) k ↔ 0 < l ∧ l < 2 ^ 32 - 312 ∧ c * 2 ^ (k + 1) < 2 ^ 64 := by
  constructor
  · rintro ⟨hpos, hfits, hcapacity⟩
    rw [sizeOfDmIoctl] at hfits
    exact ⟨hpos, by omega, hcapacity⟩
  · rintro ⟨hpos, hfits, hcapacity⟩
    refine ⟨hpos, ?_, hcapacity⟩
    rw [sizeOfDmIoctl]
    omega

/-- Data without anything in it, and a record that is full. -/
theorem endsAt_full : EndsAt (defBufSize, defBufSize) 6 ∧ EndsAt (80, 80) 7 := by
  refine ⟨⟨fun k hk => ?_, by decide⟩, ⟨fun k hk => ?_, by decide⟩⟩
  · interval_cases k <;> exact roundFits_iff.mpr (by decide)
  · interval_cases k <;> exact roundFits_iff.mpr (by decide)

/-- Parameters too short to fill the room that comes with the fixed part. -/
theorem endsAt_short {l : Nat} (hl : 41 ≤ l) (hl' : l < 80) : EndsAt (l, 80) 7 := by
  rcases sizesAfter_slack (by omega : 0 < l) hl' with ⟨h1, h2, h3, h4, h5, h6⟩
  refine ⟨fun k hk => ?_, ?_⟩
  · interval_cases k
    · exact roundFits_iff.mpr (by omega)
    · exact h1 ▸ roundFits_iff.mpr (by omega)
    · exact h2 ▸ roundFits_iff.mpr (by omega)
    · exact h3 ▸ roundFits_iff.mpr (by omega)
    · exact h4 ▸ roundFits_iff.mpr (by omega)
    · exact h5 ▸ roundFits_iff.mpr (by omega)
    · exact h6 ▸ roundFits_iff.mpr (by omega)
  · rw [sizesAfter, h6, grow_slack _ (by omega)]
    omega

/-- Parameters that fill it. The lengths of the fifth and the sixth round may come near the
    limit, but in steps that are too large to meet the few sizes that are too near. -/
theorem endsAt_long {p : Nat} (hp : 40 ≤ p) (hp' : p ≤ maxVerifyPayloadSize) :
    ∃ K ≤ 6, EndsAt (41 + p, 2 * (40 + p)) K := by
  rw [maxVerifyPayloadSize] at hp'
  rcases sizesAfter_slack (by omega : 0 < 41 + p) (by omega : 41 + p < 2 * (40 + p)) with
    ⟨h1, h2, h3, h4, h5, h6⟩
  -- No parameters are long enough to end the first four rounds too early.
  have hearly : ∀ k < 4, RoundFits (sizesAfter (41 + p, 2 * (40 + p)) k) k := by
    intro k hk
    interval_cases k
    · exact roundFits_iff.mpr (by omega)
    · exact h1 ▸ roundFits_iff.mpr (by omega)
    · exact h2 ▸ roundFits_iff.mpr (by omega)
    · exact h3 ▸ roundFits_iff.mpr (by omega)
  rcases Nat.lt_or_ge (2944 * (41 + p) + 3840 * (2 * (40 + p))) (2 ^ 32) with hfour | hfour
  swap
  · exact ⟨4, by decide, hearly, by rw [h4]; exact hfour⟩
  have hfifth : RoundFits (sizesAfter (41 + p, 2 * (40 + p)) 4) 4 :=
    h4 ▸ roundFits_iff.mpr (by omega)
  rcases Nat.lt_or_ge (182784 * (41 + p) + 238592 * (2 * (40 + p))) (2 ^ 32) with hfive | hfive
  swap
  · refine ⟨5, by decide, fun k hk => ?_, by rw [h5]; exact hfive⟩
    rcases Nat.lt_succ_iff_lt_or_eq.mp hk with hk | rfl
    · exact hearly k hk
    · exact hfifth
  -- Twice the limit is passed at the sixth round at the latest.
  · refine ⟨6, by decide, fun k hk => ?_, by rw [h6]; omega⟩
    rcases Nat.lt_succ_iff_lt_or_eq.mp hk with hk | rfl
    · rcases Nat.lt_succ_iff_lt_or_eq.mp hk with hk | rfl
      · exact hearly k hk
      · exact hfifth
    · exact h5 ▸ roundFits_iff.mpr (by omega)

/-- The sizes of a single record. The room that comes with its fixed part is doubled for
    parameters that fit in twice of it. -/
theorem fromTargetInfo_sizes {target : DMTargetInfo} {data : DMData}
    (h : DMData.fromTargetInfo [target] = .ok data) :
    data.sizes = (41 + (utf8 target.params).length,
      if (utf8 target.params).length < 40 then 80 else 2 * (40 + (utf8 target.params).length)) := by
  refine Prod.ext ?_ ?_
  · refine (congrArg List.length (fromTargetInfo_data h).2).trans ?_
    rw [List.flatMap_singleton, length_record, sizeOfDmTargetSpec]
    omega
  rw [DMData.fromTargetInfo, except_bind_eq_ok] at h
  rcases h with ⟨vec, hvec, h⟩
  have hone : [target].length < 2 ^ 32 := by
    rw [List.length_singleton]
    decide
  rw [if_pos hone] at h
  cases h
  rw [List.foldlM_cons, except_bind_eq_ok] at hvec
  rcases hvec with ⟨_, hpush, hvec⟩
  cases hvec
  rw [pushTarget, except_bind_eq_ok] at hpush
  rcases hpush with ⟨spec, -, hpush⟩
  cases hpush
  have hspec : spec.bytes.length = 40 := by
    simp only [DmTargetSpec.bytes, List.length_append, length_leBytes, spec.length_targetType]
  -- The record is appended in three parts: the fixed one, the parameters, the zero.
  have hfixed : (Vec.new.extend spec.bytes).capacity = 40 := by
    rw [Vec.capacity_extend_of_lt (by rw [hspec]; decide), hspec]
    rfl
  have hfixedLen : (Vec.new.extend spec.bytes).data.length = 40 := hspec
  generalize Vec.new.extend spec.bytes = fixed at hfixed hfixedLen
  have hparams : (fixed.extend (utf8 target.params)).capacity =
      if (utf8 target.params).length = 0 then 40
      else max 80 (40 + (utf8 target.params).length) := by
    split
    · exact (Vec.capacity_extend_of_le (by omega)).trans hfixed
    · rw [Vec.capacity_extend_of_lt (by omega), hfixed, hfixedLen]
  have hparamsLen : (fixed.extend (utf8 target.params)).data.length =
      40 + (utf8 target.params).length := by
    rw [Vec.data_extend, List.length_append, hfixedLen]
  generalize fixed.extend (utf8 target.params) = vec at hparams hparamsLen
  generalize (utf8 target.params).length = p at hparams hparamsLen ⊢
  -- The zero behind the parameters is what the room may be doubled for.
  have hzero : (vec.push 0).capacity = if p < 40 then 80 else 2 * (40 + p) := by
    have hlen : vec.data.length + [(0 : UInt8)].length = 41 + p := by
      rw [hparamsLen, List.length_singleton]
      omega
    rcases Nat.lt_or_ge vec.capacity (41 + p) with hlt | hge
    · rw [Vec.push, Vec.capacity_extend_of_lt (by rw [hlen]; exact hlt), hlen]
      split at hparams <;> split <;> omega
    · rw [Vec.push, Vec.capacity_extend_of_le (by rw [hlen]; exact hge)]
      split at hparams <;> split <;> omega
  exact hzero

end Sizes

section Command

theorem genIoHdr_dataSize {deviceName deviceUuid : Option String} {flag : UInt32}
    {dmData : DMData} {ioHdr : DmIoctl}
    (h : genIoHdr deviceName deviceUuid flag dmData = .ok ioHdr) :
    dmData.data.data.length < 2 ^ 32 ∧ ioHdr.dataSize =
      UInt32.ofNat (max defBufSize (sizeOfDmIoctl + dmData.data.data.length)) := by
  rw [genIoHdr, except_bind_eq_ok] at h
  rcases h with ⟨size, hsize, h⟩
  refine ⟨(dataSize_eq_ok hsize).1, ?_⟩
  rw [← (dataSize_eq_ok hsize).2]
  -- The names are copied into fields of their own.
  have hname {hdr hdr' : DmIoctl} {name : String} (h : hdr.setName name = .ok hdr') :
      hdr'.dataSize = hdr.dataSize := by
    rw [DmIoctl.setName, except_bind_eq_ok] at h
    rcases h with ⟨_, -, h⟩
    cases h
    rfl
  have huuid {hdr hdr' : DmIoctl} {uuid : String} (h : hdr.setUuid uuid = .ok hdr') :
      hdr'.dataSize = hdr.dataSize := by
    rw [DmIoctl.setUuid, except_bind_eq_ok] at h
    rcases h with ⟨_, -, h⟩
    cases h
    rfl
  cases deviceName with
  | none =>
      cases deviceUuid with
      | none =>
          cases h
          rfl
      | some uuid => exact huuid h
  | some name =>
      rw [except_bind_eq_ok] at h
      rcases h with ⟨hdr, hhdr, h⟩
      have hset := hname hhdr
      cases deviceUuid with
      | none =>
          cases h
          exact hset
      | some uuid => exact (huuid h).trans hset

/-- A vector that is made with room for its elements is full. -/
theorem sizes_withCapacity (n : Nat) :
    ((Vec.withCapacity n : Vec UInt8).resize n 0).data.length = n ∧
      ((Vec.withCapacity n : Vec UInt8).resize n 0).capacity = n := by
  refine ⟨Vec.length_resize_of_le (Nat.zero_le n) 0, ?_⟩
  rcases Nat.eq_zero_or_pos n with rfl | hpos
  · rfl
  · rw [Vec.capacity_resize_of_lt hpos]
    exact if_pos (Nat.le_refl n)

theorem emptyData_sizes : DMData.emptyData.sizes = (defBufSize, defBufSize) := by
  rw [DMData.sizes, DMData.emptyData, (sizes_withCapacity defBufSize).1,
    (sizes_withCapacity defBufSize).2]

/-- A command on empty data or on the table of a single target, which is all the daemon
    sends, ends within seven rounds, whatever the kernel answers, and in each of them the
    sizes fit together. -/
theorem sendCmd_sound (answers : Nat → Answers) {deviceName deviceUuid : Option String}
    {flag : UInt32} {dmData : DMData} {ioHdr : DmIoctl}
    (hdata : dmData = DMData.emptyData ∨
      ∃ target, (utf8 target.params).length ≤ maxVerifyPayloadSize ∧
        DMData.fromTargetInfo [target] = .ok dmData)
    (hhdr : genIoHdr deviceName deviceUuid flag dmData = .ok ioHdr) :
    ∃ rounds result,
      (∀ fuel ≥ 7, sendCmd answers fuel ioHdr dmData = some (rounds, result)) ∧
      rounds.length ≤ 7 ∧ ∀ round ∈ rounds, Sound round := by
  have hends : ∃ K ≤ 7, EndsAt dmData.sizes K := by
    rcases hdata with rfl | ⟨target, hparams, htarget⟩
    · rw [emptyData_sizes]
      exact ⟨6, by decide, endsAt_full.1⟩
    · rw [fromTargetInfo_sizes htarget]
      generalize (utf8 target.params).length = p at hparams
      rcases Nat.lt_trichotomy p 39 with hshort | rfl | hlong
      · rw [if_pos (by omega)]
        exact ⟨7, Nat.le_refl 7, endsAt_short (by omega) (by omega)⟩
      · exact ⟨7, Nat.le_refl 7, endsAt_full.2⟩
      · rw [if_neg (by omega)]
        rcases endsAt_long hlong hparams with ⟨K, hK, h⟩
        exact ⟨K, by omega, h⟩
  rcases hends with ⟨K, hK, hends⟩
  -- There is a first round, as the length of the data is no more than what has a place.
  rcases genIoHdr_dataSize hhdr with ⟨hlt, hsize⟩
  have hpos : 0 < K := by
    refine Nat.pos_of_ne_zero fun hzero => ?_
    rw [hzero] at hends
    exact Nat.not_lt_of_le hends.ends hlt
  rcases sendLoop_ends answers hends (K - 1) (k := 0) (by omega) rfl hsize with
    ⟨rounds, result, hrun, hlen, hsound⟩
  exact ⟨rounds, result, fun fuel hfuel => hrun fuel (by omega), by omega, hsound⟩

/-- A table of one target, and a kernel that never has enough room. -/
theorem sendCmd_sound_full :
    ∃ dmData ioHdr, DMData.fromTargetInfo [⟨0, 8, "verity", "1 /dev/loop0"⟩] = .ok dmData ∧
      genIoHdr none none 1 dmData = .ok ioHdr ∧
      ∃ rounds result,
        (∀ fuel ≥ 7, sendCmd (fun _ => ⟨.ok ⟨256, []⟩, .ok ()⟩) fuel ioHdr dmData =
          some (rounds, result)) ∧
        rounds.length ≤ 7 ∧ ∀ round ∈ rounds, Sound round := by
  rcases exists_fromTargetInfo [⟨0, 8, "verity", "1 /dev/loop0"⟩]
    (List.forall_mem_singleton.mpr (by decide)) (by decide) with ⟨dmData, hdata⟩
  have hlen : dmData.data.data.length = 53 := congrArg Prod.fst (fromTargetInfo_sizes hdata)
  have hlt : dmData.data.data.length < 2 ^ 32 := by
    rw [hlen]
    decide
  have hhdr : ∃ ioHdr, genIoHdr none none 1 dmData = .ok ioHdr := by
    rw [genIoHdr, DMData.dataSize, if_pos hlt]
    exact ⟨_, rfl⟩
  rcases hhdr with ⟨ioHdr, hhdr⟩
  exact ⟨dmData, ioHdr, hdata, hhdr,
    sendCmd_sound _ (Or.inr ⟨_, by decide, hdata⟩) hhdr⟩

end Command

end Dm

end Ssam
