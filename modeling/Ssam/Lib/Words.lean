import Mathlib.Data.BitVec

/-!
# A Signed Number in Two Words

A signed number that is kept as an unsigned low word and a signed high word, each a
bit vector of its own. The two are put together in a wider number, and taken out of it
again.

The high word carries the sign, so a number is put together from its two parts exactly
where it is one that the two words have room for together.

## Main definitions

* `join`: The number with a given high and low word.
* `low`, `high`: The two words of a number.

## Theorems

* `low_join`, `high_join`: What is put together is taken out again.
* `join_high_low_iff`: When a number is that of its two words.
-/

namespace Lib

namespace Words

variable {n v w : Nat}

/-- The number with the high word `hi` over the low word `lo`. -/
def join (n : Nat) (hi : BitVec v) (lo : BitVec w) : BitVec n :=
  hi.signExtend n <<< w ||| lo.setWidth n

/-- The low word of a number. -/
def low (w : Nat) (x : BitVec n) : BitVec w := x.setWidth w

/-- The word above the low one. -/
def high (v w : Nat) (x : BitVec n) : BitVec v := (x.sshiftRight w).setWidth v

/-- The words do not overlap, so the number is the two of them side by side. -/
theorem join_eq_signExtend (hv : 0 < v) (hi : BitVec v) (lo : BitVec w) :
    join n hi lo = (hi ++ lo).signExtend n := by
  ext i hin
  rw [BitVec.getElem_signExtend, join, BitVec.getElem_or, BitVec.getElem_shiftLeft,
    BitVec.getElem_setWidth]
  by_cases hw : i < w
  · -- A bit of the low word: nothing is shifted there.
    have hlt : i < v + w := by omega
    rw [dif_pos hlt, BitVec.getElem_append, dif_pos hw]
    simp [hw]
  · have hlo : lo.getLsbD i = false := BitVec.getLsbD_of_ge lo i (by omega)
    rw [hlo, Bool.or_false, BitVec.getElem_signExtend]
    by_cases hlt : i < v + w
    · rw [dif_pos hlt, BitVec.getElem_append, dif_neg hw]
      simp [hw, show i - w < v by omega]
    · -- Above both words there are copies of the sign, and the sign is that of the high word.
      rw [dif_neg hlt, BitVec.msb_append]
      simp [hw, show ¬ i - w < v by omega, show v ≠ 0 by omega]

theorem low_join (h : v + w ≤ n) (hv : 0 < v) (hi : BitVec v) (lo : BitVec w) :
    low w (join n hi lo) = lo := by
  rw [low, join_eq_signExtend hv]
  ext i hi
  rw [BitVec.getElem_setWidth, BitVec.getLsbD_signExtend, BitVec.getLsbD_append]
  simp [hi, show i < v + w by omega, show i < n by omega]

theorem high_join (h : v + w ≤ n) (hv : 0 < v) (hi : BitVec v) (lo : BitVec w) :
    high v w (join n hi lo) = hi := by
  rw [high, join_eq_signExtend hv]
  ext i hi
  rw [BitVec.getElem_setWidth, BitVec.getLsbD_sshiftRight, BitVec.getLsbD_signExtend,
    BitVec.getLsbD_append]
  simp [hi, show w + i < v + w by omega, show w + i < n by omega, show ¬ n ≤ i by omega,
    show w + i - w = i by omega]

/-- The two words side by side are the lowest bits. -/
theorem high_append_low (h : v + w ≤ n) (x : BitVec n) :
    high v w x ++ low w x = x.setWidth (v + w) := by
  ext i hi
  rw [BitVec.getElem_append, BitVec.getElem_setWidth]
  by_cases hw : i < w
  · rw [dif_pos hw, low, BitVec.getElem_setWidth]
  · rw [dif_neg hw, high, BitVec.getElem_setWidth, BitVec.getLsbD_sshiftRight]
    simp [show ¬ n ≤ i - w by omega, show w + (i - w) = i by omega, show i < n by omega]

/-- The lowest bits of a number are the number where they have room for it. -/
theorem signExtend_setWidth_iff {k : Nat} (hk : 0 < k) (hkn : k ≤ n) (x : BitVec n) :
    (x.setWidth k).signExtend n = x ↔ -2 ^ (k - 1) ≤ x.toInt ∧ x.toInt < 2 ^ (k - 1) := by
  have htoInt : ((x.setWidth k).signExtend n).toInt = x.toInt.bmod (2 ^ k) := by
    rw [BitVec.toInt_signExtend_of_le hkn, ← BitVec.signExtend_eq_setWidth_of_le x hkn,
      BitVec.toInt_signExtend, Nat.min_eq_left hkn]
  constructor
  · intro h
    rw [← h, BitVec.toInt_signExtend_of_le hkn]
    exact ⟨BitVec.le_toInt _, BitVec.toInt_lt⟩
  · rintro ⟨hle, hlt⟩
    have hpow : ((2 ^ k : Nat) : Int) = 2 * 2 ^ (k - 1) := by
      rw [Int.natCast_pow, ← Int.pow_succ', Nat.sub_add_cancel hk]
      rfl
    apply BitVec.eq_of_toInt_eq
    rw [htoInt, Int.bmod_eq_of_le]
    · rw [hpow]
      omega
    · rw [hpow]
      omega

/-- A number is that of its two words where they have room for it. -/
theorem join_high_low_iff (h : v + w ≤ n) (hv : 0 < v) (x : BitVec n) :
    join n (high v w x) (low w x) = x ↔
      -2 ^ (v + w - 1) ≤ x.toInt ∧ x.toInt < 2 ^ (v + w - 1) := by
  rw [join_eq_signExtend hv, high_append_low h, signExtend_setWidth_iff (by omega) h]

end Words

end Lib
