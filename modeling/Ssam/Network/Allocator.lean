import Ssam.Lib.Error
import Ssam.Lib.HashMap
import Ssam.Network.Ipv4

/-!
# Slot and Address Allocators

The two in-memory allocators of the bridge network. `SlotAllocator` maps ids to
`u32` keys and hands out the lowest key no id holds. `BridgeIpAllocator` uses it
for the host addresses of one bridge's subnet, `SubnetAllocator` one level up
for the subnets of a pool.

Each allocator carries what its operations keep as a field: no two ids hold one
key, every held address is a usable host of its subnet, every held subnet is a
slot of the pool. An operation that would break one of these cannot be written
down, so what remains to be said about each is what it does to the map:
`allocate_spec`, `claim_get` and `release_get` say it for the slots, and the
two layers above inherit it.

An operation of the source that leaves the allocator alone when it fails
returns the new allocator with its result, so a failure has none to return.

## Main definitions

* `SlotAllocator`: Ids and the keys they hold, no key held twice.
* `SlotAllocator.scan`: The linear scan for the lowest unheld key.
* `BridgeIpAllocator`: The addresses of one subnet, by network id.
* `SubnetAllocator`: The subnets of a pool, by bridge name.

## Theorems

* `scan_eq_some`: The key found is in range, unheld and on the grid.
* `SlotAllocator.allocate_spec`: What allocating does to the map.
* `SlotAllocator.claim_eq_ok`: A claim succeeds when no other id holds the key.
* `SlotAllocator.claim_get`, `SlotAllocator.release_get`: The other two.
* `BridgeIpAllocator.allocate_spec`, `BridgeIpAllocator.claim_spec`: The addresses.
* `SubnetAllocator.allocate_spec`, `SubnetAllocator.claim_spec`: The subnets.
-/

namespace Ssam

namespace Network

open Lib

/-- Lowest-free allocator over `u32` slot keys. -/
structure SlotAllocator where
  /-- Key held by each id; a key absent from the map is free. -/
  attached : HashMap String UInt32
  distinct : ∀ {id other : String} {key : UInt32},
    attached.get id = some key → attached.get other = some key → id = other

namespace SlotAllocator

/-- The allocator in which every key is free. -/
def empty : SlotAllocator where
  attached := ∅
  distinct h := absurd h (by simp only [HashMap.get_empty, reduceCtorEq, not_false_eq_true])

/-- The key held by an id, if any. -/
def get (s : SlotAllocator) (id : String) : Option UInt32 := s.attached.get id

/-- No id holds a key. -/
def isEmpty (s : SlotAllocator) : Bool := s.attached.isEmpty

/-- Some id holds the key. -/
def isHeld (s : SlotAllocator) (slot : UInt32) : Bool :=
  s.attached.anyValue fun held => held == slot

/-- Record `key` under `id`, given that no other id holds it. -/
def hold (s : SlotAllocator) (id : String) (key : UInt32)
    (hfree : ∀ other, s.get other = some key → other = id) : SlotAllocator where
  attached := s.attached.insert id key
  distinct := by
    -- Two ids with one key: either may be the new one.
    intro a b k ha hb
    rw [HashMap.get_insert] at ha hb
    by_cases hai : a = id
    · by_cases hbi : b = id
      · rw [hai, hbi]
      · rw [if_pos hai, Option.some.injEq] at ha
        rw [if_neg hbi] at hb
        rw [hai, hfree b (by rw [ha]; exact hb)]
    · rw [if_neg hai] at ha
      by_cases hbi : b = id
      · rw [if_pos hbi, Option.some.injEq] at hb
        rw [hbi, hfree a (by rw [hb]; exact ha)]
      · rw [if_neg hbi] at hb
        exact s.distinct ha hb

/-- Drop `id`'s attachment so its key is free again. -/
def release (s : SlotAllocator) (id : String) : SlotAllocator where
  attached := s.attached.erase id
  distinct := by
    -- Both ids were there before.
    intro a b k ha hb
    rw [HashMap.get_erase] at ha hb
    by_cases hai : a = id
    · rw [if_pos hai] at ha
      exact absurd ha (by simp only [reduceCtorEq, not_false_eq_true])
    · by_cases hbi : b = id
      · rw [if_pos hbi] at hb
        exact absurd hb (by simp only [reduceCtorEq, not_false_eq_true])
      · rw [if_neg hai] at ha
        rw [if_neg hbi] at hb
        exact s.distinct ha hb

@[simp] theorem get_empty (id : String) : empty.get id = none := rfl

@[simp] theorem hold_get (s : SlotAllocator) (id : String) (key : UInt32)
    (hfree : ∀ other, s.get other = some key → other = id) (a : String) :
    (s.hold id key hfree).get a = if a = id then some key else s.get a :=
  HashMap.get_insert s.attached id a key

@[simp] theorem release_get (s : SlotAllocator) (id a : String) :
    (s.release id).get a = if a = id then none else s.get a :=
  HashMap.get_erase s.attached id a

theorem isEmpty_iff (s : SlotAllocator) : s.isEmpty = true ↔ ∀ id, s.get id = none :=
  HashMap.isEmpty_iff s.attached

theorem isHeld_iff (s : SlotAllocator) (slot : UInt32) :
    s.isHeld slot = true ↔ ∃ id, s.get id = some slot := by
  rw [isHeld, HashMap.anyValue_iff]
  simp only [beq_iff_eq]
  exact ⟨fun ⟨id, _, hget, hk⟩ => ⟨id, hk ▸ hget⟩, fun ⟨id, hget⟩ => ⟨id, slot, hget, rfl⟩⟩

/-- From `slot` on, `step` apart, the first key that is not held, as long as
    the keys are in range. The steps taken are bounded by `fuel`. -/
def scan (held inRange : UInt32 → Bool) (step : UInt32) : Nat → UInt32 → Option UInt32
  | 0, _ => none
  | fuel + 1, slot =>
      if inRange slot then
        if held slot then (checkedAdd slot step).bind (scan held inRange step fuel)
        else some slot
      else none

/-- What the scan finds is in range, not held, and on the grid of the start. -/
theorem scan_eq_some {held inRange : UInt32 → Bool} {step : UInt32} {fuel : Nat}
    {start slot : UInt32} (h : scan held inRange step fuel start = some slot) :
    inRange slot = true ∧ held slot = false ∧
      ∃ n, slot.toNat = start.toNat + n * step.toNat := by
  induction fuel generalizing start with
  | zero => exact absurd h (by simp only [scan, reduceCtorEq, not_false_eq_true])
  | succ fuel ih =>
      unfold scan at h
      by_cases hin : inRange start = true
      · rw [if_pos hin] at h
        by_cases hheld : held start = true
        · -- The slot is taken: the search goes on one step further up.
          rw [if_pos hheld, Option.bind_eq_some_iff] at h
          rcases h with ⟨next, hnext, h⟩
          rcases ih h with ⟨hin', hheld', n, hn⟩
          refine ⟨hin', hheld', n + 1, ?_⟩
          rw [hn, checkedAdd_eq_some hnext, Nat.add_mul]
          omega
        · rw [if_neg hheld, Option.some.injEq] at h
          rw [← h]
          exact ⟨hin, Bool.eq_false_iff.mpr hheld, 0, by omega⟩
      · rw [if_neg hin] at h
        exact absurd h (by simp only [reduceCtorEq, not_false_eq_true])

/-- A slot the scan finds is held by no id at all. -/
theorem free_of_scan {s : SlotAllocator} {inRange : UInt32 → Bool} {step start slot : UInt32}
    {fuel : Nat} (h : scan s.isHeld inRange step fuel start = some slot) (id other : String) :
    s.get other = some slot → other = id := by
  intro hget
  have hheld := (s.isHeld_iff slot).mpr ⟨other, hget⟩
  rw [(scan_eq_some h).2.1] at hheld
  exact absurd hheld Bool.false_ne_true

/-- Lowest free key for `id`, or its existing one. `none` when no in-range key
    is free. Every step moves up, so the fuel outlasts the key space. -/
def allocate (s : SlotAllocator) (id : String) (start step : UInt32) (inRange : UInt32 → Bool) :
    Option (UInt32 × SlotAllocator) :=
  match s.get id with
  | some existing => some (existing, s)
  | none =>
      match h : scan s.isHeld inRange step (2 ^ 32) start with
      | none => none
      | some candidate => some (candidate, s.hold id candidate (free_of_scan h id))

/-- Claim `key` for `id`. Re-claiming `id` to a new key frees the old. Fails
    with the owner if a different id already holds `key`. -/
def claim (s : SlotAllocator) (id : String) (key : UInt32) : Except String SlotAllocator :=
  match h : s.attached.findEntry fun owner owned => owned == key && owner != id with
  | some owner => .error owner
  | none =>
      .ok (s.hold id key fun other hget => by
        have hno := (HashMap.findEntry_eq_none _ _).mp h other key hget
        simpa only [beq_self_eq_true, Bool.true_and, bne_eq_false_iff_eq] using hno)

/-- Allocating returns the key now under the id: the one it had, or a fresh
    one from the grid. Every other id keeps its key. -/
theorem allocate_spec {s s' : SlotAllocator} {id : String} {start step key : UInt32}
    {inRange : UInt32 → Bool} (h : s.allocate id start step inRange = some (key, s')) :
    (∀ a, s'.get a = if a = id then some key else s.get a) ∧
      (s.get id = some key ∨
        s.get id = none ∧ (∀ a, s.get a ≠ some key) ∧ inRange key = true ∧
          ∃ n, key.toNat = start.toNat + n * step.toNat) := by
  unfold allocate at h
  cases hget : s.get id with
  -- An id that has a key is given the same one again.
  | some existing =>
      simp only [hget, Option.some.injEq, Prod.mk.injEq] at h
      rcases h with ⟨rfl, rfl⟩
      refine ⟨fun a => ?_, Or.inl rfl⟩
      by_cases ha : a = id
      · rw [if_pos ha, ha, hget]
      · rw [if_neg ha]
  | none =>
      simp only [hget] at h
      split at h
      · exact absurd h (by simp only [reduceCtorEq, not_false_eq_true])
      · -- The first slot that is free and in range.
        rename_i candidate hscan
        simp only [Option.some.injEq, Prod.mk.injEq] at h
        rcases h with ⟨rfl, rfl⟩
        rcases scan_eq_some hscan with ⟨hin, hheld, hgrid⟩
        refine ⟨fun a => hold_get s id candidate _ a,
          Or.inr ⟨rfl, fun a ha => ?_, hin, hgrid⟩⟩
        have hfree := (s.isHeld_iff candidate).mpr ⟨a, ha⟩
        rw [hheld] at hfree
        exact absurd hfree Bool.false_ne_true

theorem claim_eq_ok (s : SlotAllocator) (id : String) (key : UInt32) :
    (∃ s', s.claim id key = .ok s') ↔ ∀ other, s.get other = some key → other = id := by
  constructor
  · rintro ⟨s', h⟩ other hget
    unfold claim at h
    split at h
    · exact absurd h (by simp only [reduceCtorEq, not_false_eq_true])
    · rename_i hnone
      have hno := (HashMap.findEntry_eq_none _ _).mp hnone other key hget
      simpa only [beq_self_eq_true, Bool.true_and, bne_eq_false_iff_eq] using hno
  · intro hfree
    unfold claim
    split
    · rename_i owner hsome
      rcases HashMap.findEntry_eq_some _ _ hsome with ⟨owned, hget, hp⟩
      simp only [Bool.and_eq_true, beq_iff_eq, bne_iff_ne] at hp
      exact absurd (hfree owner (hp.1 ▸ hget)) hp.2
    · exact ⟨_, rfl⟩

theorem claim_get {s s' : SlotAllocator} {id : String} {key : UInt32}
    (h : s.claim id key = .ok s') (a : String) :
    s'.get a = if a = id then some key else s.get a := by
  unfold claim at h
  split at h
  · exact absurd h (by simp only [reduceCtorEq, not_false_eq_true])
  · rw [Except.ok.injEq] at h
    rw [← h]
    exact hold_get s id key _ a

end SlotAllocator

/-- Which network id (the veth name) holds which host address of a subnet. -/
structure BridgeIpAllocator where
  subnet : Ipv4Net
  slots : SlotAllocator
  usable : ∀ {netid : String} {ip : Ipv4Addr},
    slots.get netid = some ip → subnet.network + 1 ≤ ip ∧ ip < subnet.broadcast

namespace BridgeIpAllocator

/-- The allocator of a subnet with no address attached. -/
def new (subnet : Ipv4Net) : BridgeIpAllocator where
  subnet := subnet
  slots := SlotAllocator.empty
  usable h := absurd h (by simp only [SlotAllocator.get_empty, reduceCtorEq, not_false_eq_true])

/-- The lowest host address of the subnet: its `.1`. -/
def firstHost (b : BridgeIpAllocator) : Ipv4Addr := b.subnet.network + 1

theorem usable_of_allocate {b : BridgeIpAllocator} {netid : String} {key : UInt32}
    {slots : SlotAllocator}
    (h : b.slots.allocate netid b.firstHost 1 (· < b.subnet.broadcast) = some (key, slots))
    {id : String} {ip : Ipv4Addr} (hget : slots.get id = some ip) :
    b.subnet.network + 1 ≤ ip ∧ ip < b.subnet.broadcast := by
  rcases SlotAllocator.allocate_spec h with ⟨hslots, hkey⟩
  rw [hslots id] at hget
  by_cases hid : id = netid
  · rw [if_pos hid, Option.some.injEq] at hget
    rw [← hget]
    rcases hkey with hold | ⟨-, -, hlt, n, hn⟩
    · exact b.usable hold
    · refine ⟨?_, of_decide_eq_true hlt⟩
      rw [UInt32.le_iff_toNat_le, hn]
      exact Nat.le_add_right _ _
  · rw [if_neg hid] at hget
    exact b.usable hget

/-- Allocate (or return the existing) IP for `netid` as the lowest free host
    address of the subnet. The network and broadcast addresses are reserved. -/
def allocate (b : BridgeIpAllocator) (netid : String) :
    Except Error (Ipv4Addr × BridgeIpAllocator) :=
  match h : b.slots.allocate netid b.firstHost 1 (· < b.subnet.broadcast) with
  | none => .error [s!"Subnet {b.subnet.text} has no free host address"]
  | some (key, slots) => .ok (key, { b with slots := slots, usable := usable_of_allocate h })

/-- The address is a host of the subnet: not its network, not its broadcast. -/
def isUsable (b : BridgeIpAllocator) (ip : Ipv4Addr) : Bool :=
  decide (b.firstHost ≤ ip ∧ ip < b.subnet.broadcast)

theorem usable_of_claim {b : BridgeIpAllocator} {netid : String} {ip : Ipv4Addr}
    {slots : SlotAllocator} (hip : b.isUsable ip = true) (h : b.slots.claim netid ip = .ok slots)
    {id : String} {a : Ipv4Addr} (hget : slots.get id = some a) :
    b.subnet.network + 1 ≤ a ∧ a < b.subnet.broadcast := by
  rw [SlotAllocator.claim_get h id] at hget
  by_cases hid : id = netid
  · rw [if_pos hid, Option.some.injEq] at hget
    rw [← hget]
    exact of_decide_eq_true hip
  · rw [if_neg hid] at hget
    exact b.usable hget

/-- Claim `ip` for `netid`, so a fresh allocation never reissues it. Re-claiming
    a new address for the same id frees the old. -/
def claim (b : BridgeIpAllocator) (netid : String) (ip : Ipv4Addr) :
    Except Error BridgeIpAllocator :=
  if hip : b.isUsable ip = true then
    match h : b.slots.claim netid ip with
    | .error owner =>
        .error [s!"address {dotted ip} already claimed by {owner}; " ++
          s!"refusing to reassign to {netid}"]
    | .ok slots => .ok { b with slots := slots, usable := usable_of_claim hip h }
  else
    .error [s!"address {dotted ip} is not a usable host of bridge subnet {b.subnet.text}"]

/-- Remove the attachment for `netid`, returning its address to the free-list. -/
def release (b : BridgeIpAllocator) (netid : String) : BridgeIpAllocator where
  subnet := b.subnet
  slots := b.slots.release netid
  usable := by
    intro id ip hget
    rw [SlotAllocator.release_get] at hget
    by_cases hid : id = netid
    · rw [if_pos hid] at hget
      exact absurd hget (by simp only [reduceCtorEq, not_false_eq_true])
    · rw [if_neg hid] at hget
      exact b.usable hget

/-- The address attached to `netid`, if any. -/
def ipFor (b : BridgeIpAllocator) (netid : String) : Option Ipv4Addr := b.slots.get netid

/-- No address is attached. -/
def isEmpty (b : BridgeIpAllocator) : Bool := b.slots.isEmpty

@[simp] theorem new_subnet (subnet : Ipv4Net) : (new subnet).subnet = subnet := rfl

@[simp] theorem new_ipFor (subnet : Ipv4Net) (netid : String) : (new subnet).ipFor netid = none :=
  rfl

@[simp] theorem release_subnet (b : BridgeIpAllocator) (netid : String) :
    (b.release netid).subnet = b.subnet := rfl

@[simp] theorem release_ipFor (b : BridgeIpAllocator) (netid a : String) :
    (b.release netid).ipFor a = if a = netid then none else b.ipFor a :=
  SlotAllocator.release_get b.slots netid a

theorem isEmpty_iff (b : BridgeIpAllocator) : b.isEmpty = true ↔ ∀ netid, b.ipFor netid = none :=
  b.slots.isEmpty_iff

/-- Two ids of one bridge hold two addresses. -/
theorem ipFor_inj (b : BridgeIpAllocator) {id other : String} {ip : Ipv4Addr}
    (hid : b.ipFor id = some ip) (hother : b.ipFor other = some ip) : id = other :=
  b.slots.distinct hid hother

theorem allocate_spec {b b' : BridgeIpAllocator} {netid : String} {ip : Ipv4Addr}
    (h : b.allocate netid = .ok (ip, b')) :
    b'.subnet = b.subnet ∧ (∀ a, b'.ipFor a = if a = netid then some ip else b.ipFor a) ∧
      (b.ipFor netid = some ip ∨ b.ipFor netid = none ∧ ∀ a, b.ipFor a ≠ some ip) := by
  unfold allocate at h
  split at h
  · exact absurd h (by simp only [reduceCtorEq, not_false_eq_true])
  · rename_i key slots halloc
    simp only [Except.ok.injEq, Prod.mk.injEq] at h
    rcases h with ⟨rfl, rfl⟩
    rcases SlotAllocator.allocate_spec halloc with ⟨hslots, hkey⟩
    exact ⟨rfl, hslots, hkey.imp_right fun hfresh => ⟨hfresh.1, hfresh.2.1⟩⟩

/-- An id that holds an address is given it again. -/
theorem allocate_of_held {b : BridgeIpAllocator} {netid : String} {ip : Ipv4Addr}
    (h : b.ipFor netid = some ip) : ∃ b', b.allocate netid = .ok (ip, b') := by
  have hslots : b.slots.allocate netid b.firstHost 1 (· < b.subnet.broadcast) =
      some (ip, b.slots) := by
    rw [ipFor] at h
    simp only [SlotAllocator.allocate, h]
  unfold allocate
  split
  · rename_i hnone
    rw [hslots] at hnone
    exact absurd hnone (by simp only [reduceCtorEq, not_false_eq_true])
  · rename_i key slots hsome
    rw [hslots, Option.some.injEq, Prod.mk.injEq] at hsome
    exact ⟨_, congrArg (fun k => Except.ok (k, _)) hsome.1.symm⟩

theorem claim_spec {b b' : BridgeIpAllocator} {netid : String} {ip : Ipv4Addr}
    (h : b.claim netid ip = .ok b') :
    b'.subnet = b.subnet ∧ ∀ a, b'.ipFor a = if a = netid then some ip else b.ipFor a := by
  unfold claim at h
  split at h
  · split at h
    · exact absurd h (by simp only [reduceCtorEq, not_false_eq_true])
    · rename_i slots hclaim
      rw [Except.ok.injEq] at h
      rw [← h]
      exact ⟨rfl, SlotAllocator.claim_get hclaim⟩
  · exact absurd h (by simp only [reduceCtorEq, not_false_eq_true])

end BridgeIpAllocator

/-- A key is a slot of the pool: on the grid of slots and within its ends. -/
structure IsSlot (pool : Ipv4Net) (subnetPrefix : Nat) (key : UInt32) : Prop where
  aligned : key.toNat % 2 ^ (32 - subnetPrefix) = 0
  lower : pool.network ≤ key
  upper : saturatingAdd key (UInt32.ofNat (2 ^ (32 - subnetPrefix)) - 1) ≤ pool.broadcast

/-- Carves a `pool` supernet into fixed-size `/subnetPrefix` slots, one per
    bridge. -/
structure SubnetAllocator where
  pool : Ipv4Net
  subnetPrefix : Nat
  /-- Slot network addresses keyed by bridge interface name. -/
  slots : SlotAllocator
  subnetPrefix_ge : max pool.prefixLen 1 ≤ subnetPrefix
  subnetPrefix_le : subnetPrefix ≤ 32
  isSlot : ∀ {br : String} {key : UInt32}, slots.get br = some key → IsSlot pool subnetPrefix key

namespace SubnetAllocator

/-- Slot size in addresses. -/
def step (a : SubnetAllocator) : UInt32 := UInt32.ofNat (2 ^ (32 - a.subnetPrefix))

/-- An allocator over `pool` with every slot free. Fails when the prefix length
    leaves no slot of the pool, or no slot step. -/
def new (pool : Ipv4Net) (subnetPrefix : Nat) : Except Error SubnetAllocator :=
  if h : max pool.prefixLen 1 ≤ subnetPrefix ∧ subnetPrefix ≤ 32 then
    .ok {
      pool := pool
      subnetPrefix := subnetPrefix
      slots := SlotAllocator.empty
      subnetPrefix_ge := h.1
      subnetPrefix_le := h.2
      isSlot := fun hget =>
        absurd hget (by simp only [SlotAllocator.get_empty, reduceCtorEq, not_false_eq_true]) }
  else
    .error [s!"subnet_prefix /{subnetPrefix} out of range [/{max pool.prefixLen 1}, /32] " ++
      s!"for pool {pool.text}"]

/-- The `/subnetPrefix` net whose network address is `addr`. The prefix length
    is one the allocator was built with, so it is never corrupt. -/
def slot (a : SubnetAllocator) (addr : UInt32) : Ipv4Net :=
  ⟨addr, a.subnetPrefix, a.subnetPrefix_le⟩

/-- The slot fits below the end of the pool. -/
def fits (a : SubnetAllocator) (addr : UInt32) : Bool :=
  saturatingAdd addr (a.step - 1) ≤ a.pool.broadcast

theorem step_toNat (a : SubnetAllocator) : a.step.toNat = 2 ^ (32 - a.subnetPrefix) := by
  have hge := le_trans (le_max_right a.pool.prefixLen 1) a.subnetPrefix_ge
  have hlt : 2 ^ (32 - a.subnetPrefix) < 2 ^ 32 := Nat.pow_lt_pow_right (by omega) (by omega)
  rw [step, UInt32.toNat_ofNat', Nat.mod_eq_of_lt hlt]

/-- The pool starts on the grid of its slots. -/
theorem pool_aligned (a : SubnetAllocator) :
    2 ^ (32 - a.subnetPrefix) ∣ a.pool.network.toNat := by
  have hge := le_trans (le_max_left a.pool.prefixLen 1) a.subnetPrefix_ge
  have hpool : a.pool.size ∣ a.pool.network.toNat := Nat.dvd_of_mod_eq_zero a.pool.network_mod
  exact dvd_trans (Nat.pow_dvd_pow 2 (by omega)) hpool

theorem isSlot_of_allocate {a : SubnetAllocator} {br : String} {key : UInt32}
    {slots : SlotAllocator}
    (h : a.slots.allocate br a.pool.network a.step a.fits = some (key, slots))
    {id : String} {k : UInt32} (hget : slots.get id = some k) :
    IsSlot a.pool a.subnetPrefix k := by
  rcases SlotAllocator.allocate_spec h with ⟨hslots, hkey⟩
  rw [hslots id] at hget
  by_cases hid : id = br
  · rw [if_pos hid, Option.some.injEq] at hget
    rw [← hget]
    rcases hkey with hold | ⟨-, -, hfits, n, hn⟩
    · exact a.isSlot hold
    · refine ⟨?_, ?_, of_decide_eq_true hfits⟩
      · rw [hn, step_toNat]
        exact Nat.mod_eq_zero_of_dvd (Nat.dvd_add a.pool_aligned (Dvd.intro_left n rfl))
      · rw [UInt32.le_iff_toNat_le, hn]
        exact Nat.le_add_right _ _
  · rw [if_neg hid] at hget
    exact a.isSlot hget

/-- Lowest free `/subnetPrefix` subnet for `br`, or the one it has. -/
def allocate (a : SubnetAllocator) (br : String) : Except Error (Ipv4Net × SubnetAllocator) :=
  match h : a.slots.allocate br a.pool.network a.step a.fits with
  | none => .error [s!"pool {a.pool.text} exhausted for /{a.subnetPrefix} bridge subnets"]
  | some (addr, slots) =>
      .ok (a.slot addr, { a with slots := slots, isSlot := isSlot_of_allocate h })

theorem isSlot_of_claim {a : SubnetAllocator} {br : String} {subnet : Ipv4Net}
    {slots : SlotAllocator} (hlen : subnet.prefixLen = a.subnetPrefix)
    (hpool : a.pool.network ≤ subnet.network ∧ a.fits subnet.network = true)
    (h : a.slots.claim br subnet.network = .ok slots)
    {id : String} {k : UInt32} (hget : slots.get id = some k) :
    IsSlot a.pool a.subnetPrefix k := by
  rw [SlotAllocator.claim_get h id] at hget
  by_cases hid : id = br
  · rw [if_pos hid, Option.some.injEq] at hget
    rw [← hget]
    refine ⟨?_, hpool.1, of_decide_eq_true hpool.2⟩
    rw [← hlen]
    exact subnet.network_mod
  · rw [if_neg hid] at hget
    exact a.isSlot hget

/-- Claim `subnet` for `br` on boot restore. Re-claiming the same bridge to a
    new subnet frees the old. -/
def claim (a : SubnetAllocator) (br : String) (subnet : Ipv4Net) : Except Error SubnetAllocator :=
  if hlen : subnet.prefixLen = a.subnetPrefix then
    if hpool : a.pool.network ≤ subnet.network ∧ a.fits subnet.network = true then
      match h : a.slots.claim br subnet.network with
      | .error owner =>
          .error [s!"subnet {subnet.text} already claimed by {owner}; " ++
            s!"refusing to reassign to {br}"]
      | .ok slots => .ok { a with slots := slots, isSlot := isSlot_of_claim hlen hpool h }
    else .error [s!"subnet {subnet.text} is outside pool {a.pool.text}"]
  else .error [s!"subnet {subnet.text} prefix != pool slot /{a.subnetPrefix}"]

/-- Release a bridge's subnet to the free-list. -/
def release (a : SubnetAllocator) (br : String) : SubnetAllocator :=
  { a with
    slots := a.slots.release br
    isSlot := by
      intro id key hget
      rw [SlotAllocator.release_get] at hget
      by_cases hid : id = br
      · rw [if_pos hid] at hget
        exact absurd hget (by simp only [reduceCtorEq, not_false_eq_true])
      · rw [if_neg hid] at hget
        exact a.isSlot hget }

/-- The slot of the grid that contains `ip`. -/
def slotOf (a : SubnetAllocator) (ip : Ipv4Addr) : Ipv4Net := (a.slot ip).trunc

/-- The id a reservation of a slot is held under. -/
def reservedId (slot : Ipv4Net) : String := s!"reserved:{dotted slot.network}"

/-- Hold the slot containing `ip` under a synthetic key. Best-effort: a
    foreign-owned or out-of-pool slot is left untouched. -/
def reserveContaining (a : SubnetAllocator) (ip : Ipv4Addr) : SubnetAllocator :=
  match a.claim (reservedId (a.slotOf ip)) (a.slotOf ip) with
  | .ok a' => a'
  | .error _ => a

/-- The pool, and the prefix length of its slots: no operation changes them. -/
def grid (a : SubnetAllocator) : Ipv4Net × Nat := (a.pool, a.subnetPrefix)

/-- The network address held under a bridge's name. -/
def get (a : SubnetAllocator) (br : String) : Option UInt32 := a.slots.get br

@[simp] theorem release_get (a : SubnetAllocator) (br id : String) :
    (a.release br).get id = if id = br then none else a.get id :=
  SlotAllocator.release_get a.slots br id

@[simp] theorem release_grid (a : SubnetAllocator) (br : String) :
    (a.release br).grid = a.grid := rfl

theorem subnetPrefix_of_grid {a a' : SubnetAllocator} (h : a'.grid = a.grid) :
    a'.subnetPrefix = a.subnetPrefix := congrArg Prod.snd h

@[simp] theorem slot_network (a : SubnetAllocator) {br : String} {key : UInt32}
    (h : a.get br = some key) : (a.slot key).network = key := by
  have haligned := (a.isSlot h).aligned
  rw [← UInt32.toNat_inj, Ipv4Net.network_toNat]
  exact Nat.div_mul_cancel (Nat.dvd_of_mod_eq_zero haligned)

/-- Two bridges hold two slots. -/
theorem get_inj (a : SubnetAllocator) {br other : String} {key : UInt32}
    (hbr : a.get br = some key) (hother : a.get other = some key) : br = other :=
  a.slots.distinct hbr hother

theorem allocate_spec {a a' : SubnetAllocator} {br : String} {subnet : Ipv4Net}
    (h : a.allocate br = .ok (subnet, a')) :
    a'.grid = a.grid ∧ subnet.prefixLen = a.subnetPrefix ∧
      ∀ id, a'.get id = if id = br then some subnet.network else a.get id := by
  unfold allocate at h
  split at h
  · exact absurd h (by simp only [reduceCtorEq, not_false_eq_true])
  · rename_i addr slots halloc
    simp only [Except.ok.injEq, Prod.mk.injEq] at h
    rcases h with ⟨rfl, rfl⟩
    have hslots := (SlotAllocator.allocate_spec halloc).1
    have hkey : slots.get br = some addr := by rw [hslots br, if_pos rfl]
    have hnet : (a.slot addr).network = addr :=
      slot_network { a with slots := slots, isSlot := isSlot_of_allocate halloc } hkey
    refine ⟨rfl, rfl, fun id => ?_⟩
    rw [hnet]
    exact hslots id

theorem claim_spec {a a' : SubnetAllocator} {br : String} {subnet : Ipv4Net}
    (h : a.claim br subnet = .ok a') :
    a'.grid = a.grid ∧ subnet.prefixLen = a.subnetPrefix ∧
      (∀ id, a'.get id = if id = br then some subnet.network else a.get id) ∧
      ∀ other, a.get other = some subnet.network → other = br := by
  unfold claim at h
  split at h
  · rename_i hlen
    split at h
    · split at h
      · exact absurd h (by simp only [reduceCtorEq, not_false_eq_true])
      · rename_i slots hclaim
        rw [Except.ok.injEq] at h
        rw [← h]
        exact ⟨rfl, hlen, SlotAllocator.claim_get hclaim,
          (SlotAllocator.claim_eq_ok _ _ _).mp ⟨slots, hclaim⟩⟩
    · exact absurd h (by simp only [reduceCtorEq, not_false_eq_true])
  · exact absurd h (by simp only [reduceCtorEq, not_false_eq_true])

end SubnetAllocator

end Network

end Ssam
