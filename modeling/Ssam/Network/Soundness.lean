import Ssam.Network.Subnets

/-!
# Allocator Soundness

What the two allocators promise over any run of their operations. The map side of
it, that no key is held twice and that every held key is in its place, is kept by
each operation and carried by the allocators themselves. What is left is which key
an allocation picks and when it finds none, and that the address arithmetic is
exact.

The scan passes the keys of a grid from the bottom up. It finds the lowest free one
(`held_of_lt_scan`), and it gives up only past the last key in range: each step
moves up, so the key space ends before the scan's fuel does (`held_of_scan_none`).

The range test adds to a key and may saturate, which lets a key pass that runs over
the end of a pool ending at 255.255.255.255. On the grid no key runs over, so the
addition is exact there (`last_of_aligned`).

## Main definitions

* `LowestFree`: The key is in range and free, and no lower one is.
* `SubnetAllocator.IsSubnet`: The slot of a key is a subnet of the pool.
* `SubnetAllocator.Sound`, `BridgeIpAllocator.Sound`: What each promises.
* `SubnetOp`, `HostOp`: The operations of each.

## Theorems

* `held_of_lt_scan`, `held_of_scan_none`: What the scan has passed.
* `SlotAllocator.allocate_eq_none`: When an allocation fails.
* `SubnetAllocator.isSlot_iff`: The range test accepts the subnets of the pool.
* `allocators_sound`: Every run of both allocators is sound.
-/

namespace Ssam

namespace Network

open Lib

/-- The key is in range and not held, and every lower key in range is held. -/
structure LowestFree (inRange held : UInt32 → Prop) (key : UInt32) : Prop where
  ranged : inRange key
  free : ¬ held key
  lowest : ∀ k, inRange k → k < key → held k

/-- `a - b`, or `none` below zero. -/
def checkedSub (a b : UInt32) : Option UInt32 :=
  if b.toNat ≤ a.toNat then some (a - b) else none

/-- `1 << bits`, or `none` if the shift is not below the width. -/
def checkedShl (bits : Nat) : Option UInt32 :=
  if bits < 32 then some (UInt32.ofNat (2 ^ bits)) else none

/-- The ends of a net are in it. -/
theorem Ipv4Net.contains_ends (n : Ipv4Net) : n.Contains n.network ∧ n.Contains n.broadcast := by
  have hle : n.network ≤ n.broadcast := by
    rw [UInt32.le_iff_toNat_le, broadcast_toNat]
    exact Nat.le_add_right _ _
  exact ⟨⟨UInt32.le_refl _, hle⟩, hle, UInt32.le_refl _⟩

theorem checkedAdd_of_lt {a b : UInt32} (h : a.toNat + b.toNat < 2 ^ 32) :
    checkedAdd a b = some (a + b) := if_pos h

namespace SlotAllocator

/-- Every key of the grid below the one found is held. -/
theorem held_of_lt_scan {held inRange : UInt32 → Bool} {step : UInt32} {fuel : Nat}
    {start slot key : UInt32} {n : Nat} (h : scan held inRange step fuel start = some slot)
    (hkey : key.toNat = start.toNat + n * step.toNat) (hlt : key < slot) : held key = true := by
  induction fuel generalizing start n with
  | zero => exact absurd h (by simp only [scan, reduceCtorEq, not_false_eq_true])
  | succ fuel ih =>
      unfold scan at h
      by_cases hin : inRange start = true
      · rw [if_pos hin] at h
        by_cases hheld : held start = true
        · rw [if_pos hheld, Option.bind_eq_some_iff] at h
          rcases h with ⟨next, hnext, h⟩
          cases n with
          | zero =>
              rw [Nat.zero_mul, Nat.add_zero, UInt32.toNat_inj] at hkey
              rw [hkey]
              exact hheld
          | succ n =>
              refine ih (n := n) h ?_
              rw [hkey, checkedAdd_eq_some hnext, Nat.add_mul]
              omega
        · -- The scan stops where it starts, and no key of the grid is lower.
          rw [if_neg hheld, Option.some.injEq] at h
          rw [← h, UInt32.lt_iff_toNat_lt, hkey] at hlt
          omega
      · rw [if_neg hin] at h
        exact absurd h (by simp only [reduceCtorEq, not_false_eq_true])

/-- If the scan finds nothing, every key of the grid in range is held. -/
theorem held_of_scan_none {held inRange : UInt32 → Bool} {step : UInt32} {fuel : Nat}
    {start key : UInt32} {n : Nat} (hstep : 0 < step.toNat)
    (hdown : ∀ k k', k ≤ k' → inRange k' = true → inRange k = true)
    (hfuel : 2 ^ 32 ≤ start.toNat + fuel) (h : scan held inRange step fuel start = none)
    (hkey : key.toNat = start.toNat + n * step.toNat) (hin : inRange key = true) :
    held key = true := by
  induction fuel generalizing start n with
  | zero =>
      have hlt := start.toNat_lt
      omega
  | succ fuel ih =>
      have hle : start ≤ key := by
        rw [UInt32.le_iff_toNat_le, hkey]
        exact Nat.le_add_right _ _
      unfold scan at h
      rw [if_pos (hdown start key hle hin)] at h
      by_cases hheld : held start = true
      · rw [if_pos hheld] at h
        cases n with
        | zero =>
            rw [Nat.zero_mul, Nat.add_zero, UInt32.toNat_inj] at hkey
            rw [hkey]
            exact hheld
        | succ n =>
            -- There is a higher key, so the next one is no overflow.
            rw [Nat.add_mul, Nat.one_mul] at hkey
            have hlt := key.toNat_lt
            have hnext : checkedAdd start step = some (start + step) :=
              checkedAdd_of_lt (by omega)
            rw [hnext, Option.bind_some] at h
            have hadd := checkedAdd_eq_some hnext
            exact ih (n := n) (by omega) h (by omega)
      · rw [if_neg hheld] at h
        exact absurd h (Option.some_ne_none start)

variable {s s' : SlotAllocator} {id : String} {start step key : UInt32} {inRange : UInt32 → Bool}

/-- An id that holds a key is given it again, and nothing changes. -/
theorem allocate_of_get (h : s.get id = some key) :
    s.allocate id start step inRange = some (key, s) := by
  simp only [allocate, h]

theorem allocate_of_none (h : s.get id = none) :
    (s.allocate id start step inRange).map Prod.fst =
      scan s.isHeld inRange step (2 ^ 32) start := by
  unfold allocate
  simp only [h]
  split
  · rename_i hscan
    exact hscan.symm
  · rename_i candidate hscan
    exact hscan.symm

/-- A key on the grid below a fresh one is held. -/
theorem held_of_lt_allocate (h : s.allocate id start step inRange = some (key, s'))
    (hnone : s.get id = none) {k : UInt32} {n : Nat}
    (hk : k.toNat = start.toNat + n * step.toNat) (hlt : k < key) :
    ∃ other, s.get other = some k := by
  have hscan := congrArg (Option.map Prod.fst) h
  rw [allocate_of_none hnone, Option.map_some] at hscan
  exact (s.isHeld_iff k).mp (held_of_lt_scan hscan hk hlt)

/-- An allocation fails exactly if the id holds no key, and every key of the grid in
    range is held. -/
theorem allocate_eq_none (hstep : 0 < step.toNat)
    (hdown : ∀ k k', k ≤ k' → inRange k' = true → inRange k = true) :
    s.allocate id start step inRange = none ↔
      s.get id = none ∧ ∀ k n, k.toNat = start.toNat + n * step.toNat → inRange k = true →
        ∃ other, s.get other = some k := by
  cases hget : s.get id with
  | some held =>
      rw [allocate_of_get hget]
      exact iff_of_false (Option.some_ne_none _) fun h => absurd h.1 (Option.some_ne_none _)
  | none =>
      rw [and_iff_right rfl]
      constructor
      · intro h k n hk hin
        have hscan := congrArg (Option.map Prod.fst) h
        rw [allocate_of_none hget, Option.map_none] at hscan
        -- The scan has fuel for the whole key space, so it stops for want of range only.
        have hfuel : 2 ^ 32 ≤ start.toNat + 2 ^ 32 := Nat.le_add_left _ _
        exact (s.isHeld_iff k).mp (held_of_scan_none hstep hdown hfuel hscan hk hin)
      · intro hall
        -- A key that came of the scan would be free and in range, and all of these are held.
        by_contra hsome
        rcases Option.ne_none_iff_exists'.mp hsome with ⟨⟨key, s'⟩, halloc⟩
        rcases (allocate_spec halloc).2 with hold | ⟨-, hfree, hin, n, hn⟩
        · exact absurd (hget.symm.trans hold) (Option.some_ne_none key).symm
        · rcases hall key n hn hin with ⟨other, hother⟩
          exact hfree other hother

end SlotAllocator

namespace BridgeIpAllocator

/-- The address is a host of the subnet, and neither its network nor its broadcast
    address. -/
def IsHost (b : BridgeIpAllocator) (ip : Ipv4Addr) : Prop :=
  b.subnet.Contains ip ∧ ip ≠ b.subnet.network ∧ ip ≠ b.subnet.broadcast

/-- Some id holds the address. -/
def Held (b : BridgeIpAllocator) (ip : Ipv4Addr) : Prop := ∃ netid, b.ipFor netid = some ip

/-- What the addresses of a subnet promise. -/
structure Sound (b : BridgeIpAllocator) : Prop where
  distinct : ∀ id other ip, b.ipFor id = some ip → b.ipFor other = some ip → id = other
  host : ∀ id ip, b.ipFor id = some ip → b.IsHost ip
  allocated : ∀ id ip b', b.allocate id = .ok (ip, b') →
    (∀ a, b'.ipFor a = if a = id then some ip else b.ipFor a) ∧
      (b.ipFor id = some ip ∨ b.ipFor id = none ∧ LowestFree b.IsHost b.Held ip)
  exhausted : ∀ id, (∃ e, b.allocate id = .error e) ↔
    b.ipFor id = none ∧ ∀ ip, b.IsHost ip → b.Held ip
  exact_ : checkedAdd b.subnet.network 1 = some b.firstHost

/-- The first host is the one after the network address. -/
theorem firstHost_exact {b : BridgeIpAllocator} (hlen : b.subnet.prefixLen ≤ 30) :
    checkedAdd b.subnet.network 1 = some b.firstHost := by
  have hend := Ipv4Net.slot_end_le b.subnet b.subnet.addr
  -- A subnet with hosts has four addresses at least.
  have hsize : 2 ^ 2 ≤ b.subnet.size := Nat.pow_le_pow_right (by omega) (by omega)
  have hone : (1 : UInt32).toNat = 1 := by decide
  rw [← Ipv4Net.network_toNat] at hend
  exact checkedAdd_of_lt (by omega)

/-- The range test accepts the hosts. -/
theorem isHost_iff {b : BridgeIpAllocator} (hlen : b.subnet.prefixLen ≤ 30) {ip : Ipv4Addr} :
    b.IsHost ip ↔ b.firstHost ≤ ip ∧ ip < b.subnet.broadcast := by
  -- The first host is the network address and one, so nothing lies between the two.
  have hfirst := checkedAdd_eq_some (firstHost_exact hlen)
  have hone : (1 : UInt32).toNat = 1 := by decide
  rw [IsHost, Ipv4Net.Contains, ne_eq, ne_eq, ← UInt32.toNat_inj, ← UInt32.toNat_inj]
  simp only [UInt32.le_iff_toNat_le, UInt32.lt_iff_toNat_lt]
  omega

theorem allocate_lowest {b b' : BridgeIpAllocator} (hlen : b.subnet.prefixLen ≤ 30)
    {netid : String} {ip : Ipv4Addr} (h : b.allocate netid = .ok (ip, b')) :
    b.ipFor netid = some ip ∨ b.ipFor netid = none ∧ LowestFree b.IsHost b.Held ip := by
  unfold allocate at h
  split at h
  · exact absurd h (by simp only [reduceCtorEq, not_false_eq_true])
  · rename_i key slots halloc
    simp only [Except.ok.injEq, Prod.mk.injEq] at h
    rw [← h.1]
    rcases (SlotAllocator.allocate_spec halloc).2 with hold | ⟨hnone, hfree, hlt, n, hn⟩
    · exact Or.inl hold
    · -- A lower host would have been met by the scan, so it is held.
      have hge : b.firstHost ≤ key := by
        rw [UInt32.le_iff_toNat_le, hn]
        exact Nat.le_add_right _ _
      refine Or.inr ⟨hnone, (isHost_iff hlen).mpr ⟨hge, of_decide_eq_true hlt⟩,
        not_exists.mpr hfree, fun k hk hlow => ?_⟩
      have hle := UInt32.le_iff_toNat_le.mp ((isHost_iff hlen).mp hk).1
      have hone : (1 : UInt32).toNat = 1 := by decide
      refine SlotAllocator.held_of_lt_allocate (n := k.toNat - b.firstHost.toNat) halloc hnone
        ?_ hlow
      rw [hone]
      omega

theorem allocate_error_iff {b : BridgeIpAllocator} (hlen : b.subnet.prefixLen ≤ 30)
    (netid : String) : (∃ e, b.allocate netid = .error e) ↔
      b.ipFor netid = none ∧ ∀ ip, b.IsHost ip → b.Held ip := by
  have hone : (1 : UInt32).toNat = 1 := by decide
  -- The range is closed downwards, as the scan needs it.
  have hdown : ∀ k k' : UInt32, k ≤ k' → decide (k' < b.subnet.broadcast) = true →
      decide (k < b.subnet.broadcast) = true := by
    intro k k' hle hlt
    rw [decide_eq_true_iff, UInt32.lt_iff_toNat_lt] at hlt ⊢
    exact Nat.lt_of_le_of_lt (UInt32.le_iff_toNat_le.mp hle) hlt
  have hiff : (∃ e, b.allocate netid = .error e) ↔
      b.slots.allocate netid b.firstHost 1 (· < b.subnet.broadcast) = none := by
    unfold allocate
    split
    · rename_i hnone
      exact iff_of_true ⟨_, rfl⟩ hnone
    · rename_i key slots hsome
      refine iff_of_false (fun ⟨e, he⟩ => ?_) fun hnone => ?_
      · exact absurd he (by simp only [reduceCtorEq, not_false_eq_true])
      · exact absurd (hsome.symm.trans hnone) (Option.some_ne_none _)
  -- The keys of the scan are the hosts, counted from the first.
  rw [hiff, SlotAllocator.allocate_eq_none (by omega) hdown]
  refine and_congr_right fun _ => ⟨fun h ip hip => ?_, fun h k n hk hin => ?_⟩
  · rcases (isHost_iff hlen).mp hip with ⟨hge, hlt⟩
    have hle := UInt32.le_iff_toNat_le.mp hge
    refine h ip (ip.toNat - b.firstHost.toNat) ?_ (decide_eq_true hlt)
    rw [hone]
    omega
  · refine h k ((isHost_iff hlen).mpr ⟨?_, of_decide_eq_true hin⟩)
    rw [UInt32.le_iff_toNat_le, hk]
    exact Nat.le_add_right _ _

theorem sound {b : BridgeIpAllocator} (hlen : b.subnet.prefixLen ≤ 30) : b.Sound where
  distinct _ _ _ hid hother := b.ipFor_inj hid hother
  host _ _ h := (isHost_iff hlen).mpr (b.usable h)
  allocated _ _ _ h := ⟨(allocate_spec h).2.1, allocate_lowest hlen h⟩
  exhausted := allocate_error_iff hlen
  exact_ := firstHost_exact hlen

end BridgeIpAllocator

namespace SubnetAllocator

/-- The slot whose network address is the key is aligned, and lies in the pool. -/
def IsSubnet (a : SubnetAllocator) (key : UInt32) : Prop :=
  (a.slot key).network = key ∧ ∀ ip, (a.slot key).Contains ip → a.pool.Contains ip

/-- Some bridge holds the key. -/
def Held (a : SubnetAllocator) (key : UInt32) : Prop := ∃ br, a.get br = some key

/-- What the subnets of a pool promise. -/
structure Sound (a : SubnetAllocator) : Prop where
  distinct : ∀ br other key, a.get br = some key → a.get other = some key → br = other
  subnet : ∀ br key, a.get br = some key → a.IsSubnet key
  allocated : ∀ br subnet a', a.allocate br = .ok (subnet, a') →
    subnet = a.slot subnet.network ∧
      (∀ id, a'.get id = if id = br then some subnet.network else a.get id) ∧
      (a.get br = some subnet.network ∨
        a.get br = none ∧ LowestFree a.IsSubnet a.Held subnet.network)
  exhausted : ∀ br, (∃ e, a.allocate br = .error e) ↔
    a.get br = none ∧ ∀ key, a.IsSubnet key → a.Held key
  shift : checkedShl (32 - a.subnetPrefix) = some a.step
  last : checkedSub a.step 1 = some (a.step - 1)
  /-- The range test of a claim or of a step of the scan does not saturate. -/
  exact_ : ∀ key, (a.slot key).network = key →
    checkedAdd key (a.step - 1) = some (saturatingAdd key (a.step - 1))

theorem step_pos (a : SubnetAllocator) : 0 < a.step.toNat := by
  rw [step_toNat]
  exact Nat.two_pow_pos _

theorem step_exact (a : SubnetAllocator) : checkedShl (32 - a.subnetPrefix) = some a.step := by
  have hge := le_trans (le_max_right a.pool.prefixLen 1) a.subnetPrefix_ge
  exact if_pos (by omega)

theorem last_toNat (a : SubnetAllocator) : (a.step - 1).toNat = a.step.toNat - 1 := by
  have hpos := a.step_pos
  have hone : (1 : UInt32).toNat = 1 := by decide
  have hle : (1 : UInt32) ≤ a.step := by
    rw [UInt32.le_iff_toNat_le]
    omega
  rw [UInt32.toNat_sub_of_le _ _ hle, hone]

theorem network_slot_iff (a : SubnetAllocator) (key : UInt32) :
    (a.slot key).network = key ↔ key.toNat % 2 ^ (32 - a.subnetPrefix) = 0 := by
  rw [← UInt32.toNat_inj, Ipv4Net.network_toNat]
  constructor
  · intro h
    rw [← h]
    exact Nat.mul_mod_left _ _
  · exact fun h => Nat.div_mul_cancel (Nat.dvd_of_mod_eq_zero h)

/-- No key on the grid runs over the key space. -/
theorem last_of_aligned {a : SubnetAllocator} {key : UInt32} (h : (a.slot key).network = key) :
    checkedAdd key (a.step - 1) = some (key + (a.step - 1)) ∧
      (key + (a.step - 1)) = (a.slot key).broadcast := by
  have hend := Ipv4Net.slot_end_le (a.slot key) key
  have hpos := a.step_pos
  have hsize : (a.slot key).size = a.step.toNat := (step_toNat a).symm
  -- The key is a multiple of the size, and so the start of its own slot.
  have hnet : key.toNat / (a.slot key).size * (a.slot key).size = key.toNat := by
    have hkey := congrArg UInt32.toNat h
    rw [Ipv4Net.network_toNat] at hkey
    exact hkey
  rw [hnet, hsize] at hend
  have hexact : checkedAdd key (a.step - 1) = some (key + (a.step - 1)) := by
    refine checkedAdd_of_lt ?_
    rw [last_toNat]
    omega
  refine ⟨hexact, ?_⟩
  rw [← UInt32.toNat_inj, checkedAdd_eq_some hexact, Ipv4Net.broadcast_toNat, h, last_toNat, hsize]

theorem saturatingAdd_of_aligned {a : SubnetAllocator} {key : UInt32}
    (h : (a.slot key).network = key) :
    saturatingAdd key (a.step - 1) = (a.slot key).broadcast := by
  rw [saturatingAdd, (last_of_aligned h).1, Option.getD_some]
  exact (last_of_aligned h).2

/-- The range test accepts exactly the subnets of the pool. -/
theorem isSlot_iff (a : SubnetAllocator) (key : UInt32) :
    a.IsSubnet key ↔ IsSlot a.pool a.subnetPrefix key := by
  constructor
  · -- The ends of the slot are in the pool, and they are what the range test looks at.
    rintro ⟨haligned, hin⟩
    rcases Ipv4Net.contains_ends (a.slot key) with ⟨hnet, hbroadcast⟩
    rw [haligned] at hnet
    refine ⟨(network_slot_iff a key).mp haligned, (hin key hnet).1, ?_⟩
    have hupper := (hin _ hbroadcast).2
    rw [← saturatingAdd_of_aligned haligned] at hupper
    exact hupper
  · -- What is between the ends is in the pool with them.
    rintro ⟨hmod, hlower, hupper⟩
    have haligned := (network_slot_iff a key).mpr hmod
    have hlast : saturatingAdd key (a.step - 1) ≤ a.pool.broadcast := hupper
    rw [saturatingAdd_of_aligned haligned] at hlast
    refine ⟨haligned, fun ip ⟨hlo, hhi⟩ => ?_⟩
    rw [haligned] at hlo
    exact ⟨UInt32.le_trans hlower hlo, UInt32.le_trans hhi hlast⟩

/-- A subnet of the pool is on the grid that starts where the pool does. -/
theorem exists_grid {a : SubnetAllocator} {key : UInt32} (h : a.IsSubnet key) :
    ∃ n, key.toNat = a.pool.network.toNat + n * a.step.toNat := by
  rcases (isSlot_iff a key).mp h with ⟨hmod, hlower, -⟩
  -- The key and the start of the pool are both multiples of the step.
  have hkey := Nat.dvd_of_mod_eq_zero hmod
  rw [← step_toNat] at hkey
  have hpool := a.pool_aligned
  rw [← step_toNat] at hpool
  have hle := UInt32.le_iff_toNat_le.mp hlower
  rcases Nat.dvd_sub hkey hpool with ⟨n, hn⟩
  refine ⟨n, ?_⟩
  rw [Nat.mul_comm, ← hn]
  omega

/-- A key on that grid is a subnet of the pool if it is in range. -/
theorem isSubnet_of_grid {a : SubnetAllocator} {key : UInt32} {n : Nat}
    (hkey : key.toNat = a.pool.network.toNat + n * a.step.toNat) (hfits : a.fits key = true) :
    a.IsSubnet key := by
  have hpool := a.pool_aligned
  refine (isSlot_iff a key).mpr ⟨?_, ?_, of_decide_eq_true hfits⟩
  · rw [hkey, step_toNat]
    exact Nat.mod_eq_zero_of_dvd (Nat.dvd_add hpool (Dvd.intro_left n rfl))
  · rw [UInt32.le_iff_toNat_le, hkey]
    exact Nat.le_add_right _ _

theorem fits_of_isSubnet {a : SubnetAllocator} {key : UInt32} (h : a.IsSubnet key) :
    a.fits key = true := decide_eq_true ((isSlot_iff a key).mp h).upper

/-- The range test admits every key below one it admits. -/
theorem fits_of_le (a : SubnetAllocator) (key key' : UInt32) (hle : key ≤ key')
    (h : a.fits key' = true) : a.fits key = true := by
  rw [fits, decide_eq_true_iff, UInt32.le_iff_toNat_le, saturatingAdd_toNat] at h ⊢
  rw [UInt32.le_iff_toNat_le] at hle
  omega

theorem allocate_lowest {a a' : SubnetAllocator} {br : String} {subnet : Ipv4Net}
    (h : a.allocate br = .ok (subnet, a')) :
    subnet = a.slot subnet.network ∧ (a.get br = some subnet.network ∨
      a.get br = none ∧ LowestFree a.IsSubnet a.Held subnet.network) := by
  have hget := (allocate_spec h).2.2 br
  rw [if_pos rfl] at hget
  unfold allocate at h
  split at h
  · exact absurd h (by simp only [reduceCtorEq, not_false_eq_true])
  · rename_i key slots halloc
    simp only [Except.ok.injEq, Prod.mk.injEq] at h
    rcases SlotAllocator.allocate_spec halloc with ⟨hslots, hkey⟩
    rw [← h.2] at hget
    have hnet : subnet.network = key := by
      have hbr := hslots br
      rw [if_pos rfl] at hbr
      exact Option.some.inj (hget.symm.trans hbr)
    rw [hnet]
    refine ⟨h.1.symm, ?_⟩
    rcases hkey with hold | ⟨hnone, hfree, hfits, n, hn⟩
    · exact Or.inl hold
    · refine Or.inr ⟨hnone, isSubnet_of_grid hn hfits,
        not_exists.mpr hfree, fun k hk hlow => ?_⟩
      rcases exists_grid hk with ⟨m, hm⟩
      exact SlotAllocator.held_of_lt_allocate halloc hnone hm hlow

theorem allocate_error_iff (a : SubnetAllocator) (br : String) :
    (∃ e, a.allocate br = .error e) ↔
      a.get br = none ∧ ∀ key, a.IsSubnet key → a.Held key := by
  have hiff : (∃ e, a.allocate br = .error e) ↔
      a.slots.allocate br a.pool.network a.step a.fits = none := by
    unfold allocate
    split
    · rename_i hnone
      exact iff_of_true ⟨_, rfl⟩ hnone
    · rename_i key slots hsome
      refine iff_of_false (fun ⟨e, he⟩ => ?_) fun hnone => ?_
      · exact absurd he (by simp only [reduceCtorEq, not_false_eq_true])
      · exact absurd (hsome.symm.trans hnone) (Option.some_ne_none _)
  rw [hiff, SlotAllocator.allocate_eq_none a.step_pos a.fits_of_le]
  refine and_congr_right fun _ => ⟨fun h key hkey => ?_, fun h k n hk hfits => ?_⟩
  · rcases exists_grid hkey with ⟨n, hn⟩
    exact h key n hn (fits_of_isSubnet hkey)
  · exact h k (isSubnet_of_grid hk hfits)

theorem sound (a : SubnetAllocator) : a.Sound where
  distinct _ _ _ hbr hother := a.get_inj hbr hother
  subnet _ _ h := (isSlot_iff a _).mpr (a.isSlot h)
  allocated _ _ _ h :=
    ⟨(allocate_lowest h).1, (allocate_spec h).2.2, (allocate_lowest h).2⟩
  exhausted := allocate_error_iff a
  shift := step_exact a
  last := if_pos a.step_pos
  exact_ key h := by rw [(last_of_aligned h).1, (last_of_aligned h).2, saturatingAdd_of_aligned h]

end SubnetAllocator

/-- An operation on the subnets of a pool. -/
inductive SubnetOp where
  | allocate (br : String)
  | claim (br : String) (subnet : Ipv4Net)
  | release (br : String)
  | reserveContaining (ip : Ipv4Addr)

/-- An operation on the addresses of a subnet. -/
inductive HostOp where
  | allocate (netid : String)
  | claim (netid : String) (ip : Ipv4Addr)
  | release (netid : String)

/-- The subnets an operation leaves. -/
def SubnetAllocator.apply (a : SubnetAllocator) : SubnetOp → SubnetAllocator
  | .allocate br =>
      match a.allocate br with
      | .ok (_, a') => a'
      | .error _ => a
  | .claim br subnet =>
      match a.claim br subnet with
      | .ok a' => a'
      | .error _ => a
  | .release br => a.release br
  | .reserveContaining ip => a.reserveContaining ip

/-- The addresses an operation leaves. -/
def BridgeIpAllocator.apply (b : BridgeIpAllocator) : HostOp → BridgeIpAllocator
  | .allocate netid =>
      match b.allocate netid with
      | .ok (_, b') => b'
      | .error _ => b
  | .claim netid ip =>
      match b.claim netid ip with
      | .ok b' => b'
      | .error _ => b
  | .release netid => b.release netid

/-- No operation changes the pool. -/
theorem SubnetAllocator.apply_grid (a : SubnetAllocator) (op : SubnetOp) :
    (a.apply op).grid = a.grid := by
  cases op with
  | allocate br =>
      cases halloc : a.allocate br with
      | ok r =>
          simp only [apply, halloc]
          exact (allocate_spec halloc).1
      | error e => simp only [apply, halloc]
  | claim br subnet =>
      cases hc : a.claim br subnet with
      | ok a' =>
          simp only [apply, hc]
          exact (claim_spec hc).1
      | error e => simp only [apply, hc]
  | release br => rfl
  | reserveContaining ip =>
      cases hc : a.claim (reservedId (a.slotOf ip)) (a.slotOf ip) with
      | ok a' =>
          simp only [apply, reserveContaining, hc]
          exact (claim_spec hc).1
      | error e => simp only [apply, reserveContaining, hc]

/-- No operation changes the subnet. -/
theorem BridgeIpAllocator.apply_subnet (b : BridgeIpAllocator) (op : HostOp) :
    (b.apply op).subnet = b.subnet := by
  cases op with
  | allocate netid =>
      cases halloc : b.allocate netid with
      | ok r =>
          simp only [apply, halloc]
          exact (allocate_spec halloc).1
      | error e => simp only [apply, halloc]
  | claim netid ip =>
      cases hc : b.claim netid ip with
      | ok b' =>
          simp only [apply, hc]
          exact (claim_spec hc).1
      | error e => simp only [apply, hc]
  | release netid => rfl

/-- The operation is a claim that is refused. -/
def SubnetAllocator.Refuses (a : SubnetAllocator) : SubnetOp → Prop
  | .claim br subnet => ∃ e, a.claim br subnet = .error e
  | _ => False

/-- The operation is a claim that is refused. -/
def BridgeIpAllocator.Refuses (b : BridgeIpAllocator) : HostOp → Prop
  | .claim netid ip => ∃ e, b.claim netid ip = .error e
  | _ => False

theorem SubnetAllocator.apply_of_refuses {a : SubnetAllocator} {op : SubnetOp}
    (h : a.Refuses op) : a.apply op = a := by
  cases op with
  | claim br subnet =>
      rcases h with ⟨e, he⟩
      rw [apply, he]
  | allocate br => exact absurd h not_false
  | release br => exact absurd h not_false
  | reserveContaining ip => exact absurd h not_false

theorem BridgeIpAllocator.apply_of_refuses {b : BridgeIpAllocator} {op : HostOp}
    (h : b.Refuses op) : b.apply op = b := by
  cases op with
  | claim netid ip =>
      rcases h with ⟨e, he⟩
      rw [apply, he]
  | allocate netid => exact absurd h not_false
  | release netid => exact absurd h not_false

/-- A validated configuration has a pool, with the slots it asks for. -/
theorem new_of_validate {config : BridgeConfig} (hv : config.validate = .ok ()) :
    ∃ a, SubnetAllocator.new config.base config.size = .ok a ∧
      a.grid = (config.base, config.size) := by
  have hle := BridgeConfig.size_le_of_validate hv
  rw [BridgeConfig.validate, ensure_bind_eq_ok, ensure_eq_ok] at hv
  have hge := of_decide_eq_true hv.1
  refine ⟨_, dif_pos ⟨hge, by omega⟩, rfl⟩

/-- Under a validated configuration both allocators, the one of the pool and those of
    its subnets, are sound throughout every run of their operations, and no claim that
    is refused changes them. -/
theorem allocators_sound {config : BridgeConfig} (hv : config.validate = .ok ()) :
    (∃ a, SubnetAllocator.new config.base config.size = .ok a ∧
      ∀ ops, Always (fun a op => some (SubnetAllocator.apply a op))
        (fun a => a.Sound ∧ a.grid = (config.base, config.size) ∧
          ∀ op, a.Refuses op → a.apply op = a) a ops) ∧
    ∀ subnet, subnet.prefixLen = config.size →
      ∀ ops, Always (fun b op => some (BridgeIpAllocator.apply b op))
        (fun b => b.Sound ∧ b.subnet = subnet ∧ ∀ op, b.Refuses op → b.apply op = b)
        (BridgeIpAllocator.new subnet) ops := by
  constructor
  · rcases new_of_validate hv with ⟨a, hnew, hgrid⟩
    refine ⟨a, hnew, fun ops => ?_⟩
    -- All there is to preserve is the pool and the size.
    refine always_of_invariant
      (P := fun a : SubnetAllocator => a.grid = (config.base, config.size))
      (fun a op a' ha hstep => ?_)
      (fun a ha => ⟨a.sound, ha, fun op => SubnetAllocator.apply_of_refuses⟩) hgrid ops
    rw [← Option.some.inj hstep, SubnetAllocator.apply_grid]
    exact ha
  · intro subnet hlen ops
    -- The size is at most 30, so a subnet has a first and a last host.
    have hle := BridgeConfig.size_le_of_validate hv
    refine always_of_invariant (P := fun b : BridgeIpAllocator => b.subnet = subnet)
      (fun b op b' hb hstep => ?_)
      (fun b hb => ⟨BridgeIpAllocator.sound (by rw [hb, hlen]; exact hle), hb,
        fun op => BridgeIpAllocator.apply_of_refuses⟩) rfl ops
    rw [← Option.some.inj hstep, BridgeIpAllocator.apply_subnet]
    exact hb

/-- A pool of all addresses, in two halves. -/
def wholePool : BridgeConfig where
  base := ⟨0, 0, by decide⟩
  size := 1

/-- Both halves of all addresses are given out, and there is no third. -/
theorem allocators_sound_whole :
    ∃ a, SubnetAllocator.new wholePool.base wholePool.size = .ok a ∧
      Always (fun a op => some (SubnetAllocator.apply a op)) SubnetAllocator.Sound a
        [.allocate "a", .allocate "b", .allocate "c"] := by
  have hv : wholePool.validate = .ok () := by decide
  rcases (allocators_sound hv).1 with ⟨a, hnew, hall⟩
  exact ⟨a, hnew, always_mono (fun a ha => ha.1) (hall _)⟩

end Network

end Ssam
