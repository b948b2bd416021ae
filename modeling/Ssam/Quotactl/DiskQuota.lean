import Ssam.Lib.Words

/-!
# A Quota Record of XFS

The quota of a user, a group or a project as the kernel keeps it, and as the library
shows it. The kernel's record has the layout of C: a timer is a word of 32 bits with one
of 8 bits somewhere else in the record, flags are plain numbers, and there is padding.

The low word of a timer is signed in the record, but it is only the lower half of a
number, so its sign must not be carried into the upper half.

## Main definitions

* `FsDiskQuotaRecord`: The record of the kernel, `fs_disk_quota`.
* `FsDiskQuota`: What the library shows.
* `combineTimer`, `splitTimer`: A timer and its two words.

## Theorems

* `toInt_combineTimer`: The number that two words stand for.
* `splitTimer_combineTimer`, `combineTimer_splitTimer_iff`: The words of a timer.
* `fs_disk_quota_round_trip`: What both conversions leave of a record and of a quota.
-/

namespace Ssam

namespace Quotactl

open Lib

/-- The type of a quota. All bits are kept, also those without a name. -/
structure DqFlags where
  bits : UInt8
  deriving DecidableEq

def DqFlags.fromBitsRetain (bits : UInt8) : DqFlags := ⟨bits⟩

/-- The fields of a record that are meant. All bits are kept here too. -/
structure DqFieldMask where
  bits : UInt16
  deriving DecidableEq

def DqFieldMask.fromBitsRetain (bits : UInt16) : DqFieldMask := ⟨bits⟩

/-- The record of the kernel, `fs_disk_quota`. -/
structure FsDiskQuotaRecord where
  dVersion : Int8
  dFlags : UInt8
  dFieldmask : UInt16
  dId : UInt32
  dBlkHardlimit : UInt64
  dBlkSoftlimit : UInt64
  dInoHardlimit : UInt64
  dInoSoftlimit : UInt64
  dBcount : UInt64
  dIcount : UInt64
  dItimer : Int32
  dBtimer : Int32
  dIwarns : UInt16
  dBwarns : UInt16
  dItimerHi : Int8
  dBtimerHi : Int8
  dRtbtimerHi : Int8
  dPadding2 : Int8
  dRtbHardlimit : UInt64
  dRtbSoftlimit : UInt64
  dRtbcount : UInt64
  dRtbtimer : Int32
  dRtbwarns : UInt16
  dPadding3 : Int16
  dPadding4 : Vector UInt8 8
  deriving DecidableEq

/-- What the library shows of a quota. -/
structure FsDiskQuota where
  version : Int8
  flags : DqFlags
  fieldmask : DqFieldMask
  id : UInt32
  blkHardlimit : UInt64
  blkSoftlimit : UInt64
  inoHardlimit : UInt64
  inoSoftlimit : UInt64
  bcount : UInt64
  icount : UInt64
  itimer : Int64
  btimer : Int64
  iwarns : UInt16
  bwarns : UInt16
  rtbHardlimit : UInt64
  rtbSoftlimit : UInt64
  rtbcount : UInt64
  rtbtimer : Int64
  rtbwarns : UInt16
  deriving DecidableEq

/-- The timer of two words. The low one is taken without its sign. -/
def combineTimer (low : Int32) (high : Int8) : Int64 :=
  high.toInt64 <<< 32 ||| low.toUInt32.toUInt64.toInt64

/-- The two words of a timer. -/
def splitTimer (timer : Int64) : Int32 × Int8 := (timer.toInt32, (timer >>> 32).toInt8)

/-- The quota a record is read as. -/
def FsDiskQuota.ofRecord (dq : FsDiskQuotaRecord) : FsDiskQuota where
  version := dq.dVersion
  flags := .fromBitsRetain dq.dFlags
  fieldmask := .fromBitsRetain dq.dFieldmask
  id := dq.dId
  blkHardlimit := dq.dBlkHardlimit
  blkSoftlimit := dq.dBlkSoftlimit
  inoHardlimit := dq.dInoHardlimit
  inoSoftlimit := dq.dInoSoftlimit
  bcount := dq.dBcount
  icount := dq.dIcount
  itimer := combineTimer dq.dItimer dq.dItimerHi
  btimer := combineTimer dq.dBtimer dq.dBtimerHi
  iwarns := dq.dIwarns
  bwarns := dq.dBwarns
  rtbHardlimit := dq.dRtbHardlimit
  rtbSoftlimit := dq.dRtbSoftlimit
  rtbcount := dq.dRtbcount
  rtbtimer := combineTimer dq.dRtbtimer dq.dRtbtimerHi
  rtbwarns := dq.dRtbwarns

/-- The record that is handed to the kernel for a quota. -/
def FsDiskQuotaRecord.ofQuota (info : FsDiskQuota) : FsDiskQuotaRecord :=
  let (itimerLow, itimerHi) := splitTimer info.itimer
  let (btimerLow, btimerHi) := splitTimer info.btimer
  let (rtbtimerLow, rtbtimerHi) := splitTimer info.rtbtimer
  { dVersion := info.version
    dFlags := info.flags.bits
    dFieldmask := info.fieldmask.bits
    dId := info.id
    dBlkHardlimit := info.blkHardlimit
    dBlkSoftlimit := info.blkSoftlimit
    dInoHardlimit := info.inoHardlimit
    dInoSoftlimit := info.inoSoftlimit
    dBcount := info.bcount
    dIcount := info.icount
    dItimer := itimerLow
    dBtimer := btimerLow
    dIwarns := info.iwarns
    dBwarns := info.bwarns
    dItimerHi := itimerHi
    dBtimerHi := btimerHi
    dRtbtimerHi := rtbtimerHi
    dPadding2 := 0
    dRtbHardlimit := info.rtbHardlimit
    dRtbSoftlimit := info.rtbSoftlimit
    dRtbcount := info.rtbcount
    dRtbtimer := rtbtimerLow
    dRtbwarns := info.rtbwarns
    dPadding3 := 0
    dPadding4 := Vector.replicate 8 0 }

/-- The bytes of a record that mean nothing are zero. -/
structure FsDiskQuotaRecord.ZeroPadding (dq : FsDiskQuotaRecord) : Prop where
  padding2 : dq.dPadding2 = 0
  padding3 : dq.dPadding3 = 0
  padding4 : dq.dPadding4 = Vector.replicate 8 0

/-- The timer is a signed number of 40 bits. -/
def FitsTimer (timer : Int64) : Prop := -2 ^ 39 ≤ timer.toInt ∧ timer.toInt < 2 ^ 39

/-- The record has room for the timers of a quota. -/
structure FsDiskQuota.TimersFit (info : FsDiskQuota) : Prop where
  itimer : FitsTimer info.itimer
  btimer : FitsTimer info.btimer
  rtbtimer : FitsTimer info.rtbtimer

section Timer

theorem toBitVec_combineTimer (low : Int32) (high : Int8) :
    (combineTimer low high).toBitVec = Words.join 64 high.toBitVec low.toBitVec := rfl

theorem toBitVec_splitTimer_fst (timer : Int64) :
    (splitTimer timer).1.toBitVec = Words.low 32 timer.toBitVec :=
  BitVec.signExtend_eq_setWidth_of_le _ (by decide)

theorem toBitVec_splitTimer_snd (timer : Int64) :
    (splitTimer timer).2.toBitVec = Words.high 8 32 timer.toBitVec :=
  BitVec.signExtend_eq_setWidth_of_le _ (by decide)

/-- Two words stand for the high one, as many times as there are low ones, and the low
    one as an unsigned number. -/
theorem toInt_combineTimer (low : Int32) (high : Int8) :
    (combineTimer low high).toInt = 2 ^ 32 * high.toInt + low.toUInt32.toNat := by
  change (combineTimer low high).toBitVec.toInt = _
  rw [toBitVec_combineTimer, Words.join_eq_signExtend (by decide),
    BitVec.toInt_signExtend_of_le (by decide), BitVec.toInt_append]
  rfl

theorem splitTimer_combineTimer (low : Int32) (high : Int8) :
    splitTimer (combineTimer low high) = (low, high) := by
  apply Prod.ext
  · apply Int32.toBitVec_inj.mp
    rw [toBitVec_splitTimer_fst, toBitVec_combineTimer, Words.low_join (by decide) (by decide)]
  · apply Int8.toBitVec_inj.mp
    rw [toBitVec_splitTimer_snd, toBitVec_combineTimer, Words.high_join (by decide) (by decide)]

/-- The words of a timer stand for it where it has at most 40 bits. -/
theorem combineTimer_splitTimer_iff (timer : Int64) :
    combineTimer (splitTimer timer).1 (splitTimer timer).2 = timer ↔ FitsTimer timer := by
  rw [← Int64.toBitVec_inj, toBitVec_combineTimer, toBitVec_splitTimer_fst,
    toBitVec_splitTimer_snd, Words.join_high_low_iff (by decide) (by decide)]
  exact Iff.rfl

end Timer

section Conversions

/-- A record that is read and written again keeps all but its padding. -/
theorem ofQuota_ofRecord_iff (dq : FsDiskQuotaRecord) :
    FsDiskQuotaRecord.ofQuota (.ofRecord dq) = dq ↔ dq.ZeroPadding := by
  have hwritten : FsDiskQuotaRecord.ofQuota (.ofRecord dq) =
      { dq with dPadding2 := 0, dPadding3 := 0, dPadding4 := Vector.replicate 8 0 } := by
    simp only [FsDiskQuotaRecord.ofQuota, FsDiskQuota.ofRecord, splitTimer_combineTimer,
      DqFlags.fromBitsRetain, DqFieldMask.fromBitsRetain]
  rw [hwritten]
  constructor
  · intro h
    exact ⟨(congrArg FsDiskQuotaRecord.dPadding2 h).symm,
      (congrArg FsDiskQuotaRecord.dPadding3 h).symm, (congrArg FsDiskQuotaRecord.dPadding4 h).symm⟩
  · rintro ⟨h2, h3, h4⟩
    rw [← h2, ← h3, ← h4]

/-- A quota that is written and read again keeps all but its timers, and these where the
    record has room for them. -/
theorem ofRecord_ofQuota_iff (info : FsDiskQuota) :
    FsDiskQuota.ofRecord (.ofQuota info) = info ↔ info.TimersFit := by
  have hread : FsDiskQuota.ofRecord (.ofQuota info) = { info with
      itimer := combineTimer (splitTimer info.itimer).1 (splitTimer info.itimer).2
      btimer := combineTimer (splitTimer info.btimer).1 (splitTimer info.btimer).2
      rtbtimer := combineTimer (splitTimer info.rtbtimer).1 (splitTimer info.rtbtimer).2 } := rfl
  rw [hread]
  constructor
  · intro h
    exact ⟨(combineTimer_splitTimer_iff _).mp (congrArg FsDiskQuota.itimer h),
      (combineTimer_splitTimer_iff _).mp (congrArg FsDiskQuota.btimer h),
      (combineTimer_splitTimer_iff _).mp (congrArg FsDiskQuota.rtbtimer h)⟩
  · rintro ⟨hi, hb, hr⟩
    rw [(combineTimer_splitTimer_iff _).mpr hi, (combineTimer_splitTimer_iff _).mpr hb,
      (combineTimer_splitTimer_iff _).mpr hr]

/-- A record keeps its contents exactly where its padding is zero, and a quota exactly where
    its timers are signed numbers of 40 bits. -/
theorem fs_disk_quota_round_trip :
    (∀ dq : FsDiskQuotaRecord, FsDiskQuotaRecord.ofQuota (.ofRecord dq) = dq ↔ dq.ZeroPadding) ∧
      ∀ info : FsDiskQuota, FsDiskQuota.ofRecord (.ofQuota info) = info ↔ info.TimersFit :=
  ⟨ofQuota_ofRecord_iff, ofRecord_ofQuota_iff⟩

/-- A negative timer whose low word looks positive, and one beyond 32 bits whose low word
    looks negative. -/
example : combineTimer 5 (-1) = -4294967291 ∧ splitTimer 3000000000 = (-1294967296, 0) := by
  decide

end Conversions

end Quotactl

end Ssam
