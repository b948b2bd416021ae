import Mathlib.Data.List.TakeWhile
import Ssam.Lib.Vec
import Ssam.Package.RoundTrip
import Ssam.Package.VeritySetup

/-!
# The Targets of a Table

The targets of a table as they are handed to the device mapper: a list of records, each
with the distance to the next. A record is 40 bytes of numbers and a type, and the
parameters behind them, as a string that ends with a zero.

The kernel goes from record to record by the distances. They are right, so it finds every
target, but nothing is put between a string and the record after it. The records have
numbers of 64 bits in them and ought to lie at multiples of eight.

## Main definitions

* `DmTargetSpec`: The fixed part of a record.
* `DMData.fromTargetInfo`: The records of a table.
* `walk`: The targets the kernel finds, and where.

## Theorems

* `fromTargetInfo_data`: The buffer is the records one after another.
* `walk_fromTargetInfo`: What the kernel finds in the buffer.
* `targets_aligned_iff`: When that is the table, each target at a multiple of eight.
-/

namespace Ssam

namespace Dm

open Lib Package

/-- The bytes of a string. -/
def utf8 (s : String) : Bytes := s.toByteArray.data.toList

/-- The size of the fixed part of a record. -/
def sizeOfDmTargetSpec : Nat := 40

/-- The fixed part of a record. -/
structure DmTargetSpec where
  sectorStart : UInt64
  length : UInt64
  status : UInt32
  next : UInt32
  targetType : Bytes
  /-- The type has a field of a fixed size. -/
  length_targetType : targetType.length = 16

/-- The record as it lies in memory. -/
def DmTargetSpec.bytes (spec : DmTargetSpec) : Bytes :=
  leBytes 8 spec.sectorStart.toNat ++ leBytes 8 spec.length.toNat ++ leBytes 4 spec.status.toNat ++
    leBytes 4 spec.next.toNat ++ spec.targetType

/-- A type in its field: at most 15 bytes of it, and zeros. -/
def typeField (targetType : Bytes) : Bytes :=
  targetType.take 15 ++ List.replicate (16 - (targetType.take 15).length) 0

theorem length_typeField (targetType : Bytes) : (typeField targetType).length = 16 := by
  have h : (targetType.take 15).length ≤ 15 := List.length_take_le 15 targetType
  rw [typeField, List.length_append, List.length_replicate]
  omega

def targetSpec (target : DMTargetInfo) : Except Error DmTargetSpec :=
  let next := sizeOfDmTargetSpec + (utf8 target.params).length + 1
  if next < 2 ^ 32 then
    .ok ⟨target.sectorStart, target.sectorSize, 0, UInt32.ofNat next,
      typeField (utf8 target.targetType), length_typeField _⟩
  else .error ["dm_target_spec next offset overflows u32",
    "out of range integral type conversion attempted"]

/-- The record of a target, its parameters and the zero behind them. -/
def pushTarget (data : Vec UInt8) (target : DMTargetInfo) : Except Error (Vec UInt8) := do
  let spec ← targetSpec target
  .ok (((data.extend spec.bytes).extend (utf8 target.params)).push 0)

/-- What follows the header of a command. -/
structure DMData where
  data : Vec UInt8
  targetCount : UInt32

def DMData.fromTargetInfo (targets : List DMTargetInfo) : Except Error DMData := do
  let data ← targets.foldlM pushTarget Vec.new
  if targets.length < 2 ^ 32 then .ok ⟨data, UInt32.ofNat targets.length⟩
  else .error ["target count overflows u32", "out of range integral type conversion attempted"]

/-- A target as the kernel knows it. -/
structure WireTarget where
  sectorStart : UInt64
  length : UInt64
  targetType : Bytes
  params : Bytes
  deriving DecidableEq

/-- The string at the beginning of the bytes, if it ends within them. -/
def cString (bytes : Bytes) : Option Bytes :=
  if 0 ∈ bytes then some (bytes.takeWhile (· ≠ 0)) else none

/-- The target whose record begins the bytes, and the distance to the next record. -/
def readTarget (bytes : Bytes) : Option (WireTarget × Nat) :=
  if bytes.length < sizeOfDmTargetSpec then none
  else (cString (bytes.drop sizeOfDmTargetSpec)).map fun params =>
    (⟨(leValue (bytes.take 8)).toUInt64, (leValue ((bytes.drop 8).take 8)).toUInt64,
      ((bytes.drop 24).take 16).takeWhile (· ≠ 0), params⟩, leValue ((bytes.drop 20).take 4))

/-- The targets found from the offset on, by the distances, with their offsets. -/
def walk (buf : Bytes) : (count offset : Nat) → Option (List (Nat × WireTarget))
  | 0, _ => some []
  | count + 1, offset => do
      let (target, next) ← readTarget (buf.drop offset)
      let rest ← walk buf count (offset + next)
      some ((offset, target) :: rest)

/-- The target as the kernel should know it. -/
def wireTarget (target : DMTargetInfo) : WireTarget :=
  ⟨target.sectorStart, target.sectorSize, utf8 target.targetType, utf8 target.params⟩

/-- The record of a target as it lies in the buffer, whatever stands before it. -/
def record (target : DMTargetInfo) : Bytes :=
  leBytes 8 target.sectorStart.toNat ++ leBytes 8 target.sectorSize.toNat ++ leBytes 4 0 ++
    leBytes 4 (sizeOfDmTargetSpec + (utf8 target.params).length + 1) ++
    typeField (utf8 target.targetType) ++ utf8 target.params ++ [0]

/-- The distance of a target fits in 32 bits. -/
def Fits (target : DMTargetInfo) : Prop :=
  sizeOfDmTargetSpec + (utf8 target.params).length + 1 < 2 ^ 32

instance : DecidablePred Fits := fun target =>
  inferInstanceAs (Decidable (sizeOfDmTargetSpec + (utf8 target.params).length + 1 < 2 ^ 32))

section Build

theorem length_record (target : DMTargetInfo) :
    (record target).length = sizeOfDmTargetSpec + (utf8 target.params).length + 1 := by
  simp only [record, List.length_append, length_leBytes, length_typeField, List.length_singleton,
    sizeOfDmTargetSpec]

/-- A target that fits is put at the end of what is there. -/
theorem pushTarget_eq_ok {data data' : Vec UInt8} {target : DMTargetInfo}
    (h : pushTarget data target = .ok data') :
    Fits target ∧ data'.data = data.data ++ record target := by
  rw [pushTarget, except_bind_eq_ok] at h
  rcases h with ⟨spec, hspec, h⟩
  unfold targetSpec at hspec
  dsimp only at hspec
  split at hspec
  · rename_i hfits
    cases hspec
    cases h
    -- The distance is stored in 32 bits, and it fits.
    have hnext : (UInt32.ofNat (sizeOfDmTargetSpec + (utf8 target.params).length + 1)).toNat =
        sizeOfDmTargetSpec + (utf8 target.params).length + 1 := by
      rw [UInt32.toNat_ofNat', Nat.mod_eq_of_lt hfits]
    refine ⟨hfits, ?_⟩
    simp only [Vec.data_push, Vec.data_extend, DmTargetSpec.bytes, hnext, record,
      List.append_assoc]
    rfl
  · cases hspec

theorem foldlM_pushTarget {targets : List DMTargetInfo} {data data' : Vec UInt8}
    (h : targets.foldlM pushTarget data = .ok data') :
    (∀ target ∈ targets, Fits target) ∧ data'.data = data.data ++ targets.flatMap record := by
  induction targets generalizing data with
  | nil =>
      cases h
      exact ⟨by simp only [List.not_mem_nil, false_implies, implies_true],
        (List.append_nil _).symm⟩
  | cons target targets ih =>
      rw [List.foldlM_cons, except_bind_eq_ok] at h
      rcases h with ⟨mid, hmid, h⟩
      rcases pushTarget_eq_ok hmid with ⟨hfits, hdata⟩
      rcases ih h with ⟨hrest, hdata'⟩
      refine ⟨List.forall_mem_cons.mpr ⟨hfits, hrest⟩, ?_⟩
      rw [hdata', hdata, List.flatMap_cons, List.append_assoc]

/-- The buffer is the records one after another. -/
theorem fromTargetInfo_data {targets : List DMTargetInfo} {data : DMData}
    (h : DMData.fromTargetInfo targets = .ok data) :
    (∀ target ∈ targets, Fits target) ∧ data.data.data = targets.flatMap record := by
  rw [DMData.fromTargetInfo, except_bind_eq_ok] at h
  rcases h with ⟨vec, hvec, h⟩
  split at h
  · cases h
    exact foldlM_pushTarget hvec
  · cases h

/-- A table is refused only over a distance or a number of targets that is too large. -/
theorem exists_fromTargetInfo (targets : List DMTargetInfo)
    (hfits : ∀ target ∈ targets, Fits target) (hcount : targets.length < 2 ^ 32) :
    ∃ data, DMData.fromTargetInfo targets = .ok data := by
  have hfold : ∀ data : Vec UInt8, ∃ data', targets.foldlM pushTarget data = .ok data' := by
    clear hcount
    induction targets with
    | nil => exact fun data => ⟨data, rfl⟩
    | cons target targets ih =>
        intro data
        rw [List.forall_mem_cons] at hfits
        have hspec : ∃ spec, targetSpec target = .ok spec := ⟨_, if_pos hfits.1⟩
        rcases hspec with ⟨spec, hspec⟩
        rw [List.foldlM_cons, pushTarget, hspec]
        exact ih hfits.2 _
  rcases hfold Vec.new with ⟨data, hdata⟩
  rw [DMData.fromTargetInfo, hdata]
  exact ⟨_, if_pos hcount⟩

end Build

section Walk

theorem cString_append {s : Bytes} (h : 0 ∉ s) (rest : Bytes) :
    cString (s ++ 0 :: rest) = some s := by
  have hmem : (0 : UInt8) ∈ s ++ 0 :: rest := List.mem_append_right s List.mem_cons_self
  have hall : ∀ b ∈ s, decide (b ≠ 0) = true := fun b hb => decide_eq_true fun h0 => h (h0 ▸ hb)
  rw [cString, if_pos hmem, List.takeWhile_append_of_pos hall]
  exact congrArg some (List.append_nil s)

/-- The type is read back as far as its first zero. -/
theorem takeWhile_typeField {targetType : Bytes} (h : targetType.length ≤ 15) :
    (typeField targetType).takeWhile (· ≠ 0) = targetType.takeWhile (· ≠ 0) := by
  have hlen : 16 - targetType.length = (15 - targetType.length) + 1 := by omega
  rw [typeField, List.take_of_length_le h, hlen, List.replicate_succ, List.takeWhile_append]
  split
  · rename_i hall
    have hself := (List.takeWhile_prefix fun b : UInt8 => decide (b ≠ 0)).eq_of_length hall
    exact (List.append_nil _).trans hself.symm
  · rfl

theorem drop_append {pre : Bytes} (post : Bytes) {i : Nat} (hi : pre.length = i) :
    (pre ++ post).drop i = post := List.drop_left' hi

/-- A field, with what stands before and behind it. -/
theorem take_drop_append {pre field : Bytes} (post : Bytes) {i n : Nat} (hi : pre.length = i)
    (hn : field.length = n) : ((pre ++ (field ++ post)).drop i).take n = field := by
  rw [drop_append _ hi, List.take_left' hn]

/-- The fields of a record that is followed by `rest`. -/
theorem record_fields (target : DMTargetInfo) (rest : Bytes) :
    (record target ++ rest).take 8 = leBytes 8 target.sectorStart.toNat ∧
    ((record target ++ rest).drop 8).take 8 = leBytes 8 target.sectorSize.toNat ∧
    ((record target ++ rest).drop 20).take 4 =
      leBytes 4 (sizeOfDmTargetSpec + (utf8 target.params).length + 1) ∧
    ((record target ++ rest).drop 24).take 16 = typeField (utf8 target.targetType) ∧
    (record target ++ rest).drop sizeOfDmTargetSpec = utf8 target.params ++ 0 :: rest := by
  -- The fields lie at 0, 8, 20, 24 and 40, as far as the lengths before them add up.
  have hlen8 : (leBytes 8 target.sectorStart.toNat).length = 8 := length_leBytes 8 _
  have hlen20 : (leBytes 8 target.sectorStart.toNat ++ (leBytes 8 target.sectorSize.toNat ++
      leBytes 4 0)).length = 20 := by
    simp only [List.length_append, length_leBytes]
  have hlen24 : (leBytes 8 target.sectorStart.toNat ++ (leBytes 8 target.sectorSize.toNat ++
      (leBytes 4 0 ++ leBytes 4 (sizeOfDmTargetSpec + (utf8 target.params).length + 1)))).length =
        24 := by
    simp only [List.length_append, length_leBytes]
  have hlen40 : (leBytes 8 target.sectorStart.toNat ++ (leBytes 8 target.sectorSize.toNat ++
      (leBytes 4 0 ++ (leBytes 4 (sizeOfDmTargetSpec + (utf8 target.params).length + 1) ++
        typeField (utf8 target.targetType))))).length = sizeOfDmTargetSpec := by
    simp only [List.length_append, length_leBytes, length_typeField]
    rfl
  refine ⟨?_, ?_, ?_, ?_, ?_⟩
  · simp only [record, List.append_assoc]
    exact List.take_left' hlen8
  · simp only [record, List.append_assoc]
    exact take_drop_append _ hlen8 (length_leBytes 8 _)
  · have h := take_drop_append (typeField (utf8 target.targetType) ++
      (utf8 target.params ++ ([0] ++ rest))) hlen20 (length_leBytes 4
        (sizeOfDmTargetSpec + (utf8 target.params).length + 1))
    simp only [record, List.append_assoc] at h ⊢
    exact h
  · have h := take_drop_append (utf8 target.params ++ ([0] ++ rest)) hlen24
      (length_typeField (utf8 target.targetType))
    simp only [record, List.append_assoc] at h ⊢
    exact h
  · have h := drop_append (utf8 target.params ++ ([0] ++ rest)) hlen40
    simp only [record, List.append_assoc] at h ⊢
    exact h

/-- A record is read as its target, and the distance is its length. -/
theorem readTarget_record {target : DMTargetInfo} (hfits : Fits target)
    (htype : (utf8 target.targetType).length ≤ 15) (hparams : 0 ∉ utf8 target.params)
    (rest : Bytes) :
    readTarget (record target ++ rest) =
      some ({ wireTarget target with
        targetType := (utf8 target.targetType).takeWhile (· ≠ 0) }, (record target).length) := by
  rcases record_fields target rest with ⟨hstart, hsize, hnext, htypeField, htail⟩
  have hlong : ¬ (record target ++ rest).length < sizeOfDmTargetSpec := by
    rw [List.length_append, length_record]
    omega
  rw [readTarget, if_neg hlong, htail, cString_append hparams, hstart, hsize, hnext, htypeField,
    leValue_uint64, leValue_uint64, leValue_leBytes, takeWhile_typeField htype, length_record]
  have hmod : (sizeOfDmTargetSpec + (utf8 target.params).length + 1) % 256 ^ 4 =
      sizeOfDmTargetSpec + (utf8 target.params).length + 1 := Nat.mod_eq_of_lt hfits
  rw [hmod]
  rfl

/-- The records with their offsets, the first of them at `offset`, and their targets. -/
def found : (offset : Nat) → List DMTargetInfo → List (Nat × WireTarget)
  | _, [] => []
  | offset, target :: targets =>
      (offset, { wireTarget target with
        targetType := (utf8 target.targetType).takeWhile (· ≠ 0) }) ::
      found (offset + (record target).length) targets

/-- The records behind `pre` are found, one after another. -/
theorem walk_records {targets : List DMTargetInfo} (hfits : ∀ target ∈ targets, Fits target)
    (htypes : ∀ target ∈ targets, (utf8 target.targetType).length ≤ 15)
    (hparams : ∀ target ∈ targets, 0 ∉ utf8 target.params) (pre : Bytes) :
    walk (pre ++ targets.flatMap record) targets.length pre.length =
      some (found pre.length targets) := by
  induction targets generalizing pre with
  | nil => rfl
  | cons target targets ih =>
      rw [List.forall_mem_cons] at hfits htypes hparams
      have hread := readTarget_record hfits.1 htypes.1 hparams.1 (targets.flatMap record)
      -- The rest of the table is found behind this record.
      have hrest := ih hfits.2 htypes.2 hparams.2 (pre ++ record target)
      rw [List.append_assoc, List.length_append] at hrest
      rw [List.flatMap_cons, List.length_cons, walk, drop_append _ rfl, hread]
      simp only [Option.bind_eq_bind, Option.bind_some, hrest, found]

/-- What the kernel finds in the buffer of a table. -/
theorem walk_fromTargetInfo {targets : List DMTargetInfo} {data : DMData}
    (h : DMData.fromTargetInfo targets = .ok data)
    (htypes : ∀ target ∈ targets, (utf8 target.targetType).length ≤ 15)
    (hparams : ∀ target ∈ targets, 0 ∉ utf8 target.params) :
    walk data.data.data targets.length 0 = some (found 0 targets) := by
  rcases fromTargetInfo_data h with ⟨hfits, hdata⟩
  rw [hdata]
  exact walk_records hfits htypes hparams []

end Walk

section Aligned

theorem found_wire_iff (offset : Nat) (targets : List DMTargetInfo) :
    (found offset targets).map Prod.snd = targets.map wireTarget ↔
      ∀ target ∈ targets, 0 ∉ utf8 target.targetType := by
  induction targets generalizing offset with
  | nil => simp only [found, List.map_nil, List.not_mem_nil, false_implies, implies_true]
  | cons target targets ih =>
      rw [found, List.map_cons, List.map_cons, List.cons.injEq, ih, List.forall_mem_cons]
      refine and_congr_left fun _ => ?_
      -- Only the type may differ, and it does if it is cut off at a zero.
      have hsame : (utf8 target.targetType).takeWhile (· ≠ 0) = utf8 target.targetType ↔
          0 ∉ utf8 target.targetType := by
        rw [List.takeWhile_eq_self_iff]
        simp only [decide_eq_true_eq]
        exact ⟨fun h hmem => h 0 hmem rfl, fun h b hb h0 => h (h0 ▸ hb)⟩
      rw [← hsame]
      exact ⟨fun h => congrArg WireTarget.targetType h, fun h => by rw [h]; rfl⟩

/-- The first record lies at a multiple of eight. The others do if the records before
    them have lengths that are. -/
theorem found_aligned_iff {offset : Nat} (hoffset : 8 ∣ offset) (targets : List DMTargetInfo) :
    (∀ p ∈ found offset targets, 8 ∣ p.1) ↔
      ∀ target ∈ targets.dropLast, 8 ∣ (utf8 target.params).length + 1 := by
  induction targets generalizing offset with
  | nil => simp only [found, List.dropLast_nil, List.not_mem_nil, false_implies, implies_true]
  | cons target targets ih =>
      cases targets with
      | nil =>
          have hlast : [target].dropLast = [] := rfl
          simp only [found, hlast, List.forall_mem_cons, List.not_mem_nil, false_implies,
            implies_true, and_true, iff_true]
          exact hoffset
      | cons next targets =>
          rw [found, List.forall_mem_cons, List.dropLast_cons_cons, List.forall_mem_cons]
          have hrecord : 8 ∣ offset + (record target).length ↔
              8 ∣ (utf8 target.params).length + 1 := by
            rw [length_record, sizeOfDmTargetSpec]
            omega
          constructor
          · rintro ⟨-, h⟩
            -- The next record lies where this one ends.
            have hnext : 8 ∣ offset + (record target).length := h _ List.mem_cons_self
            exact ⟨hrecord.mp hnext, (ih hnext).mp h⟩
          · rintro ⟨hlen, h⟩
            exact ⟨hoffset, (ih (hrecord.mpr hlen)).mpr h⟩

/-- The kernel knows different targets apart. -/
theorem wireTarget_injective : Function.Injective wireTarget := by
  rintro ⟨start, size, targetType, params⟩ ⟨start', size', targetType', params'⟩ h
  simp only [wireTarget, WireTarget.mk.injEq] at h
  rcases h with ⟨hstart, hsize, htype, hparams⟩
  have hutf8 {s t : String} (h : utf8 s = utf8 t) : s = t :=
    String.toByteArray_inj.mp (ByteArray.ext (Array.toList_inj.mp h))
  rw [hstart, hsize, hutf8 htype, hutf8 hparams]

/-- The kernel finds the table in the buffer, with every target at a multiple of eight. -/
def Recovers (data : DMData) (targets : List DMTargetInfo) : Prop :=
  ∃ found, walk data.data.data targets.length 0 = some found ∧
    found.map Prod.snd = targets.map wireTarget ∧ ∀ p ∈ found, 8 ∣ p.1

/-- The targets are always found, as far as their types have no zeros in them. They all
    lie at multiples of eight if and only if every parameter string but the last fills
    up its record. -/
theorem targets_aligned_iff {targets : List DMTargetInfo} {data : DMData}
    (h : DMData.fromTargetInfo targets = .ok data)
    (htypes : ∀ target ∈ targets, (utf8 target.targetType).length ≤ 15)
    (hparams : ∀ target ∈ targets, 0 ∉ utf8 target.params) :
    Recovers data targets ↔ (∀ target ∈ targets, 0 ∉ utf8 target.targetType) ∧
      ∀ target ∈ targets.dropLast, 8 ∣ (utf8 target.params).length + 1 := by
  rw [← found_wire_iff 0, ← found_aligned_iff (Nat.dvd_zero 8)]
  have hwalk := walk_fromTargetInfo h htypes hparams
  constructor
  · rintro ⟨list, hlist, hwire, haligned⟩
    rw [hwalk, Option.some.injEq] at hlist
    rw [hlist]
    exact ⟨hwire, haligned⟩
  · exact fun hboth => ⟨_, hwalk, hboth⟩

/-- The two linear targets of a table. -/
def linearTargets (params params' : String) : List DMTargetInfo :=
  [⟨0, 512, "linear", params⟩, ⟨512, 512, "linear", params'⟩]

theorem forall_linearTargets {p : DMTargetInfo → Prop} {params params' : String} :
    (∀ target ∈ linearTargets params params', p target) ↔
      p ⟨0, 512, "linear", params⟩ ∧ p ⟨512, 512, "linear", params'⟩ := by
  rw [linearTargets, List.forall_mem_cons, List.forall_mem_singleton]

/-- Parameters of seven bytes, with the zero behind them, leave no gap. -/
theorem targets_aligned_linear :
    ∃ data, DMData.fromTargetInfo (linearTargets "/dev/sd" "/dev/sda2 0") = .ok data ∧
      Recovers data (linearTargets "/dev/sd" "/dev/sda2 0") := by
  rcases exists_fromTargetInfo (linearTargets "/dev/sd" "/dev/sda2 0")
    (forall_linearTargets.mpr ⟨by decide, by decide⟩) (by decide) with ⟨data, hdata⟩
  refine ⟨data, hdata, (targets_aligned_iff hdata (forall_linearTargets.mpr ⟨by decide, by decide⟩)
    (forall_linearTargets.mpr ⟨by decide, by decide⟩)).mpr
      ⟨forall_linearTargets.mpr ⟨by decide, by decide⟩, ?_⟩⟩
  exact List.forall_mem_singleton.mpr (by decide)

/-- The second of two linear targets lies at offset 52. -/
theorem linear_targets_not_aligned :
    ∃ data, DMData.fromTargetInfo (linearTargets "/dev/sda1 0" "/dev/sda2 0") = .ok data ∧
      (∀ target ∈ linearTargets "/dev/sda1 0" "/dev/sda2 0",
        (utf8 target.targetType).length ≤ 15) ∧
      (∀ target ∈ linearTargets "/dev/sda1 0" "/dev/sda2 0", 0 ∉ utf8 target.params) ∧
      ¬ Recovers data (linearTargets "/dev/sda1 0" "/dev/sda2 0") := by
  have htypes : ∀ target ∈ linearTargets "/dev/sda1 0" "/dev/sda2 0",
      (utf8 target.targetType).length ≤ 15 := forall_linearTargets.mpr ⟨by decide, by decide⟩
  have hparams : ∀ target ∈ linearTargets "/dev/sda1 0" "/dev/sda2 0", 0 ∉ utf8 target.params :=
    forall_linearTargets.mpr ⟨by decide, by decide⟩
  rcases exists_fromTargetInfo (linearTargets "/dev/sda1 0" "/dev/sda2 0")
    (forall_linearTargets.mpr ⟨by decide, by decide⟩) (by decide) with ⟨data, hdata⟩
  refine ⟨data, hdata, htypes, hparams, ?_⟩
  rintro ⟨list, hlist, -, haligned⟩
  rw [walk_fromTargetInfo hdata htypes hparams, Option.some.injEq] at hlist
  have hsecond := haligned (52, ⟨512, 512, utf8 "linear", utf8 "/dev/sda2 0"⟩) (by
    rw [← hlist]
    exact List.mem_cons_of_mem _ List.mem_cons_self)
  exact absurd hsecond (by decide)

end Aligned

end Dm

end Ssam
