import Ssam.Network.Leaks

/-!
# Failed Attaches

An attach allocates at two levels: a subnet of the pool for a bridge that is not live,
and an address of the bridge's subnet. It can fail before the first, between the two,
at the second, and after both, and what it has allocated by then is undone.

The undoing is shared with the detach. It releases the address under the veth and, with
its last address, the bridge under its name, whether or not the attach is what made
them. So it undoes the attach if the veth had no address before, and if the bridge was
not live or had addresses of its own. A bridge that was not live must not have held a
slot either: it is given one, and it is left none. `SlotIffLive` says this of every
state a run reaches, whatever the restore has claimed, since a reservation holds its
slot under a name no bridge of the daemon has.

## Main definitions

* `BridgeIpAllocator.records`: The subnet of a bridge and who holds which address.
* `SameRecords`: The same bridges, addresses and slots.
* `SlotIffLive`: Reservations apart, the live bridges are the holders of slots.

## Theorems

* `SlotIffLive.next`: No event breaks this.
* `release_allocate`: Releasing a fresh address undoes its allocation.
* `allocateContainerIp_error`: An allocation that fails changes no record.
* `rollbackAttach_allocateContainerIp`: Rolling one back that succeeds changes none.
* `failed_attach_no_op`: Neither does an attach that fails, in any reachable state.
-/

namespace Ssam

namespace Network

open Lib

/-- The subnet of a bridge and who holds which of its addresses. -/
def BridgeIpAllocator.records (b : BridgeIpAllocator) : Ipv4Net × (String → Option Ipv4Addr) :=
  (b.subnet, b.ipFor)

/-- The live bridges, their subnets, the addresses on each and the slots of the pool are
    the same. -/
structure SameRecords (s t : NetworkActor) : Prop where
  grid : t.grid = s.grid
  bridge : ∀ br, (t.bridge br).map BridgeIpAllocator.records =
    (s.bridge br).map BridgeIpAllocator.records
  slot : ∀ id, t.subnets.get id = s.subnets.get id

theorem SameRecords.refl (s : NetworkActor) : SameRecords s s :=
  ⟨rfl, fun _ => rfl, fun _ => rfl⟩

/-- Reservations apart, the live bridges are those that hold a slot. -/
def SlotIffLive (s : NetworkActor) : Prop :=
  ∀ id, isReservedId id = false → (s.bridge id ≠ none ↔ s.subnets.get id ≠ none)

namespace SlotIffLive

variable {s : NetworkActor}

theorem of_new {config : BridgeConfig} (h : NetworkActor.new config = .ok s) : SlotIffLive s :=
  fun id hid => (inStep_new h id).trans (and_iff_left hid)

theorem setBridge (h : SlotIffLive s) {br : String} {state state' : BridgeIpAllocator}
    (hbr : s.bridge br = some state) : SlotIffLive (s.setBridge br state') := by
  intro id hid
  rw [NetworkActor.bridge_setBridge, NetworkActor.subnets_setBridge, ← h id hid]
  by_cases heq : id = br
  · rw [if_pos heq, heq, hbr]
    exact iff_of_true (Option.some_ne_none _) (Option.some_ne_none _)
  · rw [if_neg heq]

theorem destroyBridge (h : SlotIffLive s) (br : String) (managedSlaves : Bool) :
    SlotIffLive (s.destroyBridge br managedSlaves) := by
  intro id hid
  rw [NetworkActor.bridge_destroyBridge, NetworkActor.subnets_destroyBridge]
  by_cases hd : managedSlaves = false ∧ id = br
  · rw [if_pos hd, if_pos hd]
    exact iff_of_false (fun hne => hne rfl) fun hne => hne rfl
  · rw [if_neg hd, if_neg hd]
    exact h id hid

/-- A bridge that joins, and its slot. -/
theorem join (h : SlotIffLive s) {br : String} {subnet : Ipv4Net} {subnets : SubnetAllocator}
    {state : BridgeIpAllocator}
    (hget : ∀ id, subnets.get id = if id = br then some subnet.network else s.subnets.get id) :
    SlotIffLive ({ s with subnets := subnets }.setBridge br state) := by
  intro id hid
  rw [NetworkActor.bridge_setBridge, NetworkActor.subnets_setBridge]
  simp only [hget id]
  by_cases heq : id = br
  · rw [if_pos heq, if_pos heq]
    exact iff_of_true (Option.some_ne_none _) (Option.some_ne_none _)
  · rw [if_neg heq, if_neg heq]
    exact h id hid

theorem kept (pkgHash10 : String → String) : Kept pkgHash10 SlotIffLive where
  setBridge h hbr _ := h.setBridge hbr
  destroyBridge br managedSlaves h := h.destroyBridge br managedSlaves
  ensureBridge h he := ensureBridge_of_join h (fun hget => h.join hget) he

/-- A restored attach claims both or neither, whatever its bridge is called. -/
theorem claimRestoredAttach (h : SlotIffLive s) (att : RestoredAttach) :
    SlotIffLive (s.claimRestoredAttach att) :=
  claimRestoredAttach_of_join h fun hget => h.join hget

theorem reserveIp (h : SlotIffLive s) (ip : Ipv4Addr) (veth : String) (master : Option String) :
    SlotIffLive (s.reserveIp ip veth master) := by
  unfold NetworkActor.reserveIp
  cases hm : master.bind fun br => (s.bridge br).map fun alloc => (br, alloc) with
  | some r =>
      rcases r with ⟨br, alloc⟩
      dsimp only
      split
      · exact h.setBridge (bridge_of_master hm).2
      · exact h
  | none =>
      -- Only the slot of a reservation can change.
      intro id hid
      have hne : id ≠ SubnetAllocator.reservedId (s.subnets.slotOf ip) := by
        rintro rfl
        rw [reserved_reservedId] at hid
        cases hid
      exact (h id hid).trans (iff_of_eq (congrArg (· ≠ none)
        ((reserveContaining_touches s ip veth).slot id hne).symm))

theorem next (pkgHash10 : String → String) (h : SlotIffLive s) (e : Event) :
    SlotIffLive (next pkgHash10 s e) := by
  cases e with
  | claim att => exact h.claimRestoredAttach att
  | reserve ip veth master => exact h.reserveIp ip veth master
  | message m => exact (SlotIffLive.kept pkgHash10).handle h m

/-- So it is in every state that a restore and the messages after it lead to. -/
theorem reachable {pkgHash10 : String → String} {config : BridgeConfig} {t : NetworkActor}
    (hnew : NetworkActor.new config = .ok s) {es : List Event}
    (h : exec (step pkgHash10) s es = some t) : SlotIffLive t := by
  refine exec_invariant (fun u e v hu hv => ?_) (of_new hnew) h
  rw [← Option.some.inj hv]
  exact hu.next pkgHash10 e

end SlotIffLive

/-- Releasing an address undoes its allocation, if it was a fresh one. -/
theorem release_allocate {b b' : BridgeIpAllocator} {netid : String} {ip : Ipv4Addr}
    (h : b.allocate netid = .ok (ip, b')) (hnone : b.ipFor netid = none) :
    (b'.release netid).records = b.records := by
  rcases BridgeIpAllocator.allocate_spec h with ⟨hsub, hfor, -⟩
  refine Prod.ext hsub (funext fun a => ?_)
  dsimp only [BridgeIpAllocator.records]
  rw [BridgeIpAllocator.release_ipFor, hfor]
  by_cases ha : a = netid
  · rw [if_pos ha, ha, hnone]
  · rw [if_neg ha, if_neg ha]

theorem isEmpty_of_records {b b' : BridgeIpAllocator} (h : b'.records = b.records) :
    b'.isEmpty = b.isEmpty := by
  have hfor : b'.ipFor = b.ipFor := congrArg Prod.snd h
  rw [Bool.eq_iff_iff, BridgeIpAllocator.isEmpty_iff, BridgeIpAllocator.isEmpty_iff, hfor]

section Undo

variable {s t : NetworkActor} {br veth : String}

/-- Destroying a bridge that was not live before, and held no slot. -/
theorem destroyBridge_same (hbr : s.bridge br = none) (hslot : s.subnets.get br = none)
    (hgrid : t.grid = s.grid) (hbridges : ∀ a, a ≠ br → t.bridge a = s.bridge a)
    (hslots : ∀ a, a ≠ br → t.subnets.get a = s.subnets.get a) :
    SameRecords s (t.destroyBridge br false) where
  grid := (t.grid_destroyBridge br false).trans hgrid
  bridge a := by
    rw [NetworkActor.bridge_destroyBridge]
    by_cases ha : a = br
    · rw [if_pos ⟨rfl, ha⟩, ha, hbr]
    · rw [if_neg fun hd => ha hd.2, hbridges a ha]
  slot a := by
    rw [NetworkActor.subnets_destroyBridge]
    by_cases ha : a = br
    · rw [if_pos ⟨rfl, ha⟩, ha, hslot]
    · rw [if_neg fun hd => ha hd.2, hslots a ha]

/-- A live bridge given back the records it had. -/
theorem setBridge_same {state state' : BridgeIpAllocator} (hbr : s.bridge br = some state)
    (hgrid : t.grid = s.grid) (hbridges : ∀ a, a ≠ br → t.bridge a = s.bridge a)
    (hslots : ∀ a, t.subnets.get a = s.subnets.get a) (hsame : state'.records = state.records) :
    SameRecords s (t.setBridge br state') where
  grid := (t.grid_setBridge br state').trans hgrid
  bridge a := by
    rw [NetworkActor.bridge_setBridge]
    by_cases ha : a = br
    · rw [if_pos ha, ha, hbr, Option.map_some, Option.map_some, hsame]
    · rw [if_neg ha, hbridges a ha]
  slot := hslots

/-- A bridge that is made live is the only one that changes. -/
theorem ensureBridge_bridge {s' : NetworkActor} {state : BridgeIpAllocator}
    (h : s.ensureBridge br = .ok (state, s')) {a : String} (ha : a ≠ br) :
    s'.bridge a = s.bridge a := by
  refine ensureBridge_of_join (P := fun t => t.bridge a = s.bridge a) rfl (fun _ => ?_) h
  rw [NetworkActor.bridge_setBridge, if_neg ha]
  rfl

/-- A bridge that is live already is left as it is. -/
theorem ensureBridge_of_live {state : BridgeIpAllocator} (hbr : s.bridge br = some state) :
    s.ensureBridge br = .ok (state, s) := by
  simp only [NetworkActor.ensureBridge, hbr]

/-- An allocation that fails changes no record: a subnet taken for it is given back. -/
theorem allocateContainerIp_error (hslot : s.bridge br = none → s.subnets.get br = none)
    {e : Error} (h : s.allocateContainerIp br veth false = (.error e, t)) : SameRecords s t := by
  unfold NetworkActor.allocateContainerIp at h
  cases he : s.ensureBridge br with
  | error e' =>
      simp only [he, Prod.mk.injEq] at h
      rw [← h.2]
      exact SameRecords.refl s
  | ok r =>
      rcases r with ⟨state, s'⟩
      cases halloc : state.allocate veth with
      | ok r => simp only [he, halloc, Prod.mk.injEq, reduceCtorEq, false_and] at h
      | error e' =>
          simp only [he, halloc, Prod.mk.injEq] at h
          rw [← h.2]
          cases hbr : s.bridge br with
          | none =>
              rw [Option.isNone_none, if_pos rfl]
              have htouch := (ensureBridge_spec he).2.2 veth
              exact destroyBridge_same hbr (hslot hbr) htouch.grid
                (fun a ha => ensureBridge_bridge he ha) htouch.slot
          | some st =>
              -- A bridge that was live is kept, with no address more than it had.
              rw [Option.isNone_some, if_neg Bool.false_ne_true]
              rw [ensureBridge_of_live hbr, Except.ok.injEq, Prod.mk.injEq] at he
              rw [← he.2]
              exact SameRecords.refl s

/-- Rolling back an allocation that succeeded, for a veth that had no address, on a bridge
    that was not live or had addresses of its own. -/
theorem rollbackAttach_allocateContainerIp (hslot : s.bridge br = none → s.subnets.get br = none)
    (hveth : s.ipOf br veth = none)
    (hused : ∀ state, s.bridge br = some state → state.isEmpty = false)
    {subnet : Ipv4Net} {ip : Ipv4Addr}
    (h : s.allocateContainerIp br veth false = (.ok (subnet, ip), t)) :
    SameRecords s (t.rollbackAttach br veth false) := by
  unfold NetworkActor.allocateContainerIp at h
  cases he : s.ensureBridge br with
  | error e => simp only [he, Prod.mk.injEq, reduceCtorEq, false_and] at h
  | ok r =>
      rcases r with ⟨state, s'⟩
      cases halloc : state.allocate veth with
      | error e => simp only [he, halloc, Prod.mk.injEq, reduceCtorEq, false_and] at h
      | ok r =>
          rcases r with ⟨ip', state'⟩
          simp only [he, halloc, Prod.mk.injEq] at h
          rcases ensureBridge_spec he with ⟨-, hfor, htouch⟩
          have hback : (state'.release veth).records = state.records :=
            release_allocate halloc ((hfor veth).trans hveth)
          have hgrid : t.grid = s.grid := h.2 ▸ (htouch veth).grid
          have hbridges : ∀ a, a ≠ br → t.bridge a = s.bridge a := fun a ha => by
            rw [← h.2, NetworkActor.bridge_setBridge, if_neg ha]
            exact ensureBridge_bridge he ha
          have hslots : ∀ a, a ≠ br → t.subnets.get a = s.subnets.get a := fun a ha => by
            rw [← h.2, NetworkActor.subnets_setBridge]
            exact (htouch veth).slot a ha
          have hnow : t.bridge br = some state' := by
            rw [← h.2, NetworkActor.bridge_setBridge, if_pos rfl]
          unfold NetworkActor.rollbackAttach
          simp only [hnow, isEmpty_of_records hback]
          cases hbr : s.bridge br with
          | none =>
              -- The bridge was made for the attach, so it has no other address and goes.
              have hempty : state.isEmpty = true :=
                (BridgeIpAllocator.isEmpty_iff state).mpr fun v => by
                  rw [hfor, NetworkActor.ipOf, hbr, Option.bind_none]
              rw [if_pos hempty]
              refine destroyBridge_same hbr (hslot hbr) hgrid (fun a ha => ?_) hslots
              rw [NetworkActor.bridge_setBridge, if_neg ha]
              exact hbridges a ha
          | some st =>
              -- The bridge was there with an address of another veth, which keeps it.
              have hstay := he
              rw [ensureBridge_of_live hbr, Except.ok.injEq, Prod.mk.injEq] at hstay
              have hlive : s.bridge br = some state := hbr.trans (congrArg some hstay.1)
              rw [if_neg (Bool.eq_false_iff.mp (hused state hlive))]
              refine setBridge_same hlive hgrid hbridges (fun a => ?_) hback
              rw [← h.2, NetworkActor.subnets_setBridge, ← hstay.2]

end Undo

section Attach

variable (pkgHash10 : String → String)

/-- An attach whose setup succeeds is answered so. -/
theorem handleAttach_answer_ok {s s' : NetworkActor} {msg : Attach} {env : AttachEnv}
    {r : Ipv4Net × Ipv4Addr} (hallocates : s.allocates pkgHash10 msg env = true)
    (halloc : s.allocateContainerIp (bridgeName pkgHash10 msg.bridgeId)
      (vethHostName pkgHash10 msg.pkg) env.managedSlaves = (.ok r, s'))
    (hsetup : env.setup = .ok) : (s.handleAttach pkgHash10 msg env).answer = .ok () := by
  unfold NetworkActor.allocates at hallocates
  unfold NetworkActor.handleAttach
  cases hname : validateInterfaceName msg.containerInterface with
  | error e => simp only [hname, Except.isOk, Except.toBool, Bool.false_and,
      Bool.false_eq_true] at hallocates
  | ok u =>
      cases hadopt : s.adoptExisting (bridgeName pkgHash10 msg.bridgeId)
          (vethHostName pkgHash10 msg.pkg) env with
      | error e => simp only [hadopt, Bool.and_false, Bool.false_and,
          Bool.false_eq_true] at hallocates
      | ok adopted =>
          cases adopted with
          | true => simp only [hadopt]
          | false =>
              simp only [hadopt, Bool.and_eq_true] at hallocates
              simp only [hadopt, if_pos hallocates.2, halloc, hsetup]

/-- In every state that a restore and the messages after it lead to, an attach that fails
    leaves the live bridges, the addresses on each and the slots of the pool as they were.
    Its veth must hold no address of the bridge, the bridge must be unknown or in use, and
    no other veth be found on one that is to be removed. -/
theorem failed_attach_no_op {config : BridgeConfig} {s t : NetworkActor}
    (hnew : NetworkActor.new config = .ok s) (plan : List RestoreEntry) (msgs : List Message)
    (hrun : exec (step pkgHash10) s (planEvents plan ++ msgs.map Event.message) = some t)
    (msg : Attach) (env : AttachEnv)
    (hveth : t.ipOf (bridgeName pkgHash10 msg.bridgeId) (vethHostName pkgHash10 msg.pkg) = none)
    (hused : ∀ state, t.bridge (bridgeName pkgHash10 msg.bridgeId) = some state →
      ∃ veth, state.ipFor veth ≠ none)
    (hslaves : env.managedSlaves = false) {e : Error}
    (hfailed : (t.handleAttach pkgHash10 msg env).answer = .error e) :
    SameRecords t (t.handleAttach pkgHash10 msg env).actor := by
  have hslot : t.bridge (bridgeName pkgHash10 msg.bridgeId) = none →
      t.subnets.get (bridgeName pkgHash10 msg.bridgeId) = none := fun hbr =>
    not_not.mp (mt (SlotIffLive.reachable hnew hrun _
      (not_reserved_of_managed (managed_bridgeName pkgHash10 msg.bridgeId))).mpr (not_not.mpr hbr))
  have hused' : ∀ state, t.bridge (bridgeName pkgHash10 msg.bridgeId) = some state →
      state.isEmpty = false := by
    intro state hbr
    rcases hused state hbr with ⟨veth, hne⟩
    rw [Bool.eq_false_iff, ne_eq, BridgeIpAllocator.isEmpty_iff]
    exact fun hall => hne (hall veth)
  rcases t.handleAttach_cases pkgHash10 msg env with
    ⟨hsame, -⟩ | ⟨e', hfail, -⟩ | ⟨subnet, ip, t', hallocates, hok, -, ⟨hsetup, -⟩ | ⟨-, hback⟩⟩
  · rw [hsame]
    exact SameRecords.refl t
  · rw [hslaves] at hfail
    exact allocateContainerIp_error hslot hfail
  · -- A setup that succeeds is not a failure.
    rw [handleAttach_answer_ok pkgHash10 hallocates hok hsetup] at hfailed
    cases hfailed
  · rw [hslaves] at hok hback
    rw [hback]
    exact rollbackAttach_allocateContainerIp hslot hveth hused' hok

end Attach

/-- A host without the links, on which setup panics. -/
def panickingHost : AttachEnv := { freshHost with setup := .panicked ["task 7 panicked"] }

/-- A second container joins the bridge of a restored one, and its setup panics. -/
theorem failed_attach_no_op_panic : ∃ s t, NetworkActor.new poolConfig = .ok s ∧
    exec (step sampleHash) s (planEvents oneSubnetPlan) = some t ∧
    (t.handleAttach sampleHash ⟨"b", "a", "eth0"⟩ panickingHost).answer =
      .error ["netavark setup task panicked", "task 7 panicked"] ∧
    SameRecords t (t.handleAttach sampleHash ⟨"b", "a", "eth0"⟩ panickingHost).actor := by
  have hnew : NetworkActor.new poolConfig = .ok _ := rfl
  refine ⟨_, _, hnew, rfl, by decide, ?_⟩
  refine failed_attach_no_op sampleHash hnew oneSubnetPlan [] rfl _ _ (by decide) ?_ rfl
    (e := ["netavark setup task panicked", "task 7 panicked"]) (by decide)
  intro state hbr
  refine ⟨"ssam-ca978112ca", ?_⟩
  rw [← Option.some.inj hbr]
  decide

end Network

end Ssam
