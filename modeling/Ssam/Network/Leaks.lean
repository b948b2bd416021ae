import Ssam.Network.Reissue

/-!
# No Leaked or Missing Subnet

The bridges the actor tracks and the ids that hold a slot of the pool are two maps.
A name in the second only is a subnet that is never given back, one in the first only
is a subnet in use that the pool may hand out again. `InStep` says that the names are
the same, but for those a restore reserves slots under.

The plan of a restore is made from what the host shows. It attaches nothing to a
bridge that is not one of the daemon's own, and none of these is named like a
reservation (`managed_collectRestorePlan`). Of such a plan every entry, and of the
messages every one, keeps the maps in step.

## Main definitions

* `InStep`: The live bridges are the holders of slots that are no reservations.
* `NetnsEntry`, `collectRestorePlan`: A restore plan, from what the host shows.
* `Managed`: The plan attaches to the daemon's own bridges.

## Theorems

* `managed_collectRestorePlan`: A plan that is made does.
* `InStep.kept`: Messages keep the maps in step.
* `inStep_of_collected`: So they are where the plan is made from what the host shows.
* `no_leaked_subnet`: So they are throughout a restore and any messages after it.
-/

namespace Ssam

namespace Network

open Lib

/-- The text starts with the other. -/
def startsWith (text start : String) : Bool := start.toList.isPrefixOf text.toList

/-- The id is one that slots are reserved under. -/
def isReservedId (id : String) : Bool := startsWith id "reserved:"

/-- The interface is a bridge of the daemon. -/
def isManagedBridge (br : String) : Bool := startsWith br "ssb-"

/-- The live bridges are those that hold a slot, reservations apart. -/
def InStep (s : NetworkActor) : Prop :=
  ∀ id, s.bridge id ≠ none ↔ s.subnets.get id ≠ none ∧ isReservedId id = false

/-- What the host shows of a network namespace: its name, the IPv4 addresses in it,
    and the bridge its veth is enslaved to. -/
structure NetnsEntry where
  name : String
  addresses : Except Error (List Ipv4Net)
  enslavingBridge : Except Error (Option String)

/-- The container's own in-pool address. -/
def NetnsEntry.containerIpv4 (entry : NetnsEntry) (pool : Ipv4Net) :
    Except Error (Option Ipv4Net) :=
  entry.addresses.map fun nets => nets.find? fun net => pool.Contains net.addr

/-- The entry of the plan for a namespace, if its veth is one of the daemon's. A bridge
    that cannot be looked up may be, so the address is reserved. -/
def buildRestoreEntry (entry : NetnsEntry) (pool : Ipv4Net) (subnetPrefix : Nat) :
    Except Error (Option RestoreEntry) := do
  match ← entry.containerIpv4 pool with
  | none => .ok none
  | some container =>
      let ip := container.addr
      match entry.enslavingBridge with
      -- A lookup that fails does not prove the veth foreign.
      | .error _ => .ok (some (.reserveIp ip entry.name none))
      | .ok none => .ok none
      | .ok (some master) =>
          if isManagedBridge master then
            -- The address disagrees with the size of the slots, so it is only reserved.
            if container.prefixLen ≠ subnetPrefix then
              .ok (some (.reserveIp ip entry.name (some master)))
            else .ok (some (.attach ⟨master, container.trunc, entry.name, ip⟩))
          else .ok none

/-- The restore plan. A namespace that cannot be read is skipped. -/
def collectRestorePlan (entries : List NetnsEntry) (pool : Ipv4Net) (subnetPrefix : Nat) :
    List RestoreEntry :=
  entries.filterMap fun entry =>
    if startsWith entry.name "ssam-" then
      match buildRestoreEntry entry pool subnetPrefix with
      | .ok built => built
      | .error _ => none
    else none

/-- What the plan attaches is on bridges of the daemon. -/
def Managed (plan : List RestoreEntry) : Prop :=
  ∀ att, RestoreEntry.attach att ∈ plan → isManagedBridge att.br = true

theorem startsWith_append (start rest : String) : startsWith (start ++ rest) start = true := by
  rw [startsWith, String.toList_append, List.isPrefixOf_iff_prefix]
  exact List.prefix_append _ _

/-- A name that starts like a bridge does not start like a reservation. -/
theorem not_reserved_of_managed {id : String} (h : isManagedBridge id = true) :
    isReservedId id = false := by
  rw [← Bool.not_eq_true]
  intro hres
  rw [isManagedBridge, startsWith, List.isPrefixOf_iff_prefix] at h
  rw [isReservedId, startsWith, List.isPrefixOf_iff_prefix] at hres
  rcases h with ⟨rest, hrest⟩
  rcases hres with ⟨rest', hrest'⟩
  have hhead : some 's' = some 'r' := congrArg List.head? (hrest.trans hrest'.symm)
  exact absurd hhead (by decide)

theorem managed_bridgeName (pkgHash10 : String → String) (bridgeId : String) :
    isManagedBridge (bridgeName pkgHash10 bridgeId) = true := startsWith_append _ _

theorem reserved_reservedId (slot : Ipv4Net) :
    isReservedId (SubnetAllocator.reservedId slot) = true := startsWith_append _ _

theorem managed_of_build {entry : NetnsEntry} {pool : Ipv4Net} {subnetPrefix : Nat}
    {att : RestoredAttach}
    (h : buildRestoreEntry entry pool subnetPrefix = .ok (some (.attach att))) :
    isManagedBridge att.br = true := by
  rw [buildRestoreEntry] at h
  rcases except_bind_eq_ok.mp h with ⟨container, -, h⟩
  cases container with
  | none => exact absurd h (by simp only [Except.ok.injEq, reduceCtorEq, not_false_eq_true])
  | some container =>
      dsimp only at h
      split at h
      · exact absurd h (by
          simp only [Except.ok.injEq, Option.some.injEq, reduceCtorEq, not_false_eq_true])
      · exact absurd h (by simp only [Except.ok.injEq, reduceCtorEq, not_false_eq_true])
      · next master hmaster =>
          -- A master that is not the daemon's own is passed over.
          by_cases hmanaged : isManagedBridge master = true
          · rw [if_pos hmanaged] at h
            split at h
            · exact absurd h (by
                simp only [Except.ok.injEq, Option.some.injEq, reduceCtorEq, not_false_eq_true])
            · simp only [Except.ok.injEq, Option.some.injEq, RestoreEntry.attach.injEq] at h
              rw [← h]
              exact hmanaged
          · rw [if_neg hmanaged] at h
            exact absurd h (by simp only [Except.ok.injEq, reduceCtorEq, not_false_eq_true])

/-- A plan made from what the host shows attaches to the daemon's own bridges. -/
theorem managed_collectRestorePlan (entries : List NetnsEntry) (pool : Ipv4Net)
    (subnetPrefix : Nat) : Managed (collectRestorePlan entries pool subnetPrefix) := by
  intro att hatt
  rcases List.mem_filterMap.mp hatt with ⟨entry, -, hentry⟩
  split at hentry
  · split at hentry
    · next built hbuilt =>
        rw [hentry] at hbuilt
        exact managed_of_build hbuilt
    · exact absurd hentry.symm (Option.some_ne_none _)
  · exact absurd hentry.symm (Option.some_ne_none _)

section Join

variable {P : NetworkActor → Prop} {s : NetworkActor} {br : String}

/-- What holds once a bridge and its slot have joined holds when it has been ensured. -/
theorem ensureBridge_of_join (h : P s)
    (hjoin : ∀ {subnet : Ipv4Net} {subnets : SubnetAllocator} {state : BridgeIpAllocator},
      (∀ id, subnets.get id = if id = br then some subnet.network else s.subnets.get id) →
        P ({ s with subnets := subnets }.setBridge br state))
    {s' : NetworkActor} {state : BridgeIpAllocator} (he : s.ensureBridge br = .ok (state, s')) :
    P s' := by
  unfold NetworkActor.ensureBridge at he
  cases hbr : s.bridge br with
  | some st =>
      simp only [hbr, Except.ok.injEq, Prod.mk.injEq] at he
      rw [← he.2]
      exact h
  | none =>
      cases halloc : s.subnets.allocate br with
      | error e =>
          simp only [hbr, halloc, reduceCtorEq] at he
      | ok r =>
          simp only [hbr, halloc, Except.ok.injEq, Prod.mk.injEq] at he
          rw [← he.2]
          exact hjoin (SubnetAllocator.allocate_spec halloc).2.2

/-- A restored attach claims both or neither. -/
theorem claimRestoredAttach_of_join (h : P s) {att : RestoredAttach}
    (hjoin : ∀ {subnet : Ipv4Net} {subnets : SubnetAllocator} {state : BridgeIpAllocator},
      (∀ id, subnets.get id = if id = att.br then some subnet.network else s.subnets.get id) →
        P ({ s with subnets := subnets }.setBridge att.br state)) :
    P (s.claimRestoredAttach att) := by
  unfold NetworkActor.claimRestoredAttach
  cases hc : s.subnets.claim att.br att.subnet with
  | error e => exact h
  | ok subnets =>
      have hget := (SubnetAllocator.claim_spec hc).2.2.1
      dsimp only
      split
      · exact hjoin hget
      · exact hjoin hget

end Join

namespace InStep

variable {s : NetworkActor}

theorem setBridge (h : InStep s) {br : String} {state state' : BridgeIpAllocator}
    (hbr : s.bridge br = some state) : InStep (s.setBridge br state') := by
  intro id
  rw [NetworkActor.bridge_setBridge, NetworkActor.subnets_setBridge, ← h id]
  -- The bridge was live before, so nothing joins or leaves.
  by_cases hid : id = br
  · rw [if_pos hid, hid, hbr]
    exact iff_of_true (Option.some_ne_none _) (Option.some_ne_none _)
  · rw [if_neg hid]

theorem destroyBridge (h : InStep s) (br : String) (managedSlaves : Bool) :
    InStep (s.destroyBridge br managedSlaves) := by
  intro id
  rw [NetworkActor.bridge_destroyBridge, NetworkActor.subnets_destroyBridge]
  by_cases hd : managedSlaves = false ∧ id = br
  · rw [if_pos hd, if_pos hd]
    exact iff_of_false (fun hne => hne rfl) fun hne => hne.1 rfl
  · rw [if_neg hd, if_neg hd]
    exact h id

/-- A bridge of the daemon that joins, and its slot. -/
theorem join (h : InStep s) {br : String} {subnet : Ipv4Net} {subnets : SubnetAllocator}
    {state : BridgeIpAllocator} (hmanaged : isManagedBridge br = true)
    (hget : ∀ id, subnets.get id = if id = br then some subnet.network else s.subnets.get id) :
    InStep ({ s with subnets := subnets }.setBridge br state) := by
  intro id
  rw [NetworkActor.bridge_setBridge, NetworkActor.subnets_setBridge]
  simp only [hget id]
  by_cases hid : id = br
  · rw [if_pos hid, if_pos hid, hid]
    exact iff_of_true (Option.some_ne_none _)
      ⟨Option.some_ne_none _, not_reserved_of_managed hmanaged⟩
  · rw [if_neg hid, if_neg hid]
    exact h id

/-- Every message keeps the maps in step. -/
theorem kept (pkgHash10 : String → String) : Kept pkgHash10 InStep where
  setBridge h hbr _ := h.setBridge hbr
  destroyBridge br managedSlaves h := h.destroyBridge br managedSlaves
  ensureBridge h he :=
    ensureBridge_of_join h (fun hget => h.join (managed_bridgeName pkgHash10 _) hget) he

/-- A restored attach to a bridge of the daemon claims both, or neither. -/
theorem claimRestoredAttach (h : InStep s) {att : RestoredAttach}
    (hmanaged : isManagedBridge att.br = true) : InStep (s.claimRestoredAttach att) :=
  claimRestoredAttach_of_join h fun hget => h.join hmanaged hget

/-- A reserve changes the addresses of a live bridge, or the slot of a reservation. -/
theorem reserveIp (h : InStep s) (ip : Ipv4Addr) (veth : String) (master : Option String) :
    InStep (s.reserveIp ip veth master) := by
  unfold NetworkActor.reserveIp
  cases hm : master.bind fun br => (s.bridge br).map fun alloc => (br, alloc) with
  | some r =>
      rcases r with ⟨br, alloc⟩
      dsimp only
      split
      · exact h.setBridge (bridge_of_master hm).2
      · exact h
  | none =>
      unfold SubnetAllocator.reserveContaining
      cases hc : s.subnets.claim (SubnetAllocator.reservedId (s.subnets.slotOf ip))
          (s.subnets.slotOf ip) with
      | error e => exact h
      | ok subnets =>
          intro id
          have hget := (SubnetAllocator.claim_spec hc).2.2.1 id
          have hid' := h id
          dsimp only [NetworkActor.bridge] at hid' ⊢
          rw [hid', hget]
          by_cases hid : id = SubnetAllocator.reservedId (s.subnets.slotOf ip)
          · -- The slot is taken under the name of a reservation, which no bridge has.
            have hres : ¬ isReservedId id = false := by
              rw [hid, reserved_reservedId]
              exact Bool.noConfusion
            exact iff_of_false (fun hh => hres hh.2) fun hh => hres hh.2
          · rw [if_neg hid]

end InStep

/-- The event attaches to a bridge of the daemon, if it is one of a plan. -/
def ManagedEvent : Event → Prop
  | .claim att => isManagedBridge att.br = true
  | _ => True

theorem inStep_next (pkgHash10 : String → String) {s : NetworkActor} (h : InStep s) {e : Event}
    (he : ManagedEvent e) : InStep (next pkgHash10 s e) := by
  cases e with
  | claim att => exact h.claimRestoredAttach he
  | reserve ip veth master => exact h.reserveIp ip veth master
  | message m => exact (InStep.kept pkgHash10).handle h m

/-- The events of such a plan, and all messages. -/
theorem managedEvent_of_mem {plan : List RestoreEntry} (hplan : Managed plan)
    {msgs : List Message} {e : Event} (he : e ∈ planEvents plan ++ msgs.map Event.message) :
    ManagedEvent e := by
  cases e with
  | message m => trivial
  | reserve ip veth master => trivial
  | claim att =>
      rcases List.mem_append.mp he with hplanned | hmsg
      · -- A claim comes from an attach of the plan.
        rcases List.mem_append.mp hplanned with hclaim | hreserve
        · rcases List.mem_filterMap.mp hclaim with ⟨entry, hentry, heq⟩
          cases entry with
          | attach att' =>
              simp only [Option.some.injEq, Event.claim.injEq] at heq
              rw [heq] at hentry
              exact hplan att hentry
          | reserveIp ip veth master => exact absurd heq.symm (Option.some_ne_none _)
        · rcases List.mem_filterMap.mp hreserve with ⟨entry, hentry, heq⟩
          cases entry with
          | attach att' => exact absurd heq.symm (Option.some_ne_none _)
          | reserveIp ip veth master =>
              exact absurd heq (by
                simp only [Option.some.injEq, reduceCtorEq, not_false_eq_true])
      · rcases List.mem_map.mp hmsg with ⟨m, -, heq⟩
        exact absurd heq (by simp only [reduceCtorEq, not_false_eq_true])

/-- A fresh actor has no bridge and no slot. -/
theorem inStep_new {config : BridgeConfig} {s : NetworkActor}
    (h : NetworkActor.new config = .ok s) : InStep s := by
  rcases NetworkActor.new_eq_ok h with ⟨hbridges, hslots, -, -⟩
  intro id
  rw [NetworkActor.bridge, hbridges, SubnetAllocator.get, hslots]
  exact iff_of_false (fun hne => hne rfl) fun hne => hne.1 rfl

/-- The maps stay in step over the events of such a plan and any messages after them. -/
theorem inStep_of_managed (pkgHash10 : String → String) {s : NetworkActor} (hs : InStep s)
    {plan : List RestoreEntry} (hplan : Managed plan) (msgs : List Message) :
    Always (step pkgHash10) InStep s (planEvents plan ++ msgs.map Event.message) := by
  refine always_of_along (C := fun _ e => ManagedEvent e) (fun u e t hu he ht => ?_)
    hs (along_of_forall (fun e he => managedEvent_of_mem hplan he) s)
  rw [← Option.some.inj ht]
  exact inStep_next pkgHash10 hu he

/-- So they do after a restore from what the host shows. -/
theorem inStep_of_collected (pkgHash10 : String → String) {config : BridgeConfig}
    {s : NetworkActor} (hnew : NetworkActor.new config = .ok s) (entries : List NetnsEntry)
    (msgs : List Message) :
    Always (step pkgHash10) InStep s
      (planEvents (collectRestorePlan entries s.subnets.pool s.subnets.subnetPrefix) ++
        msgs.map Event.message) :=
  inStep_of_managed pkgHash10 (inStep_new hnew) (managed_collectRestorePlan entries _ _) msgs

/-- Throughout a restore from a plan that attaches to the daemon's own bridges, and any
    messages after it, the names of the live bridges are the ids that hold a slot, but
    for those slots are reserved under. -/
theorem no_leaked_subnet (pkgHash10 : String → String) {config : BridgeConfig}
    {s : NetworkActor} (hnew : NetworkActor.new config = .ok s) {plan : List RestoreEntry}
    (hplan : Managed plan) (msgs : List Message) :
    exec (step pkgHash10) s (planEvents plan) = some (s.applyRestorePlan plan) ∧
      Always (step pkgHash10) InStep s (planEvents plan ++ msgs.map Event.message) :=
  ⟨exec_planEvents pkgHash10 plan s, inStep_of_managed pkgHash10 (inStep_new hnew) hplan msgs⟩

/-- Two containers of one bridge, whose restore names two subnets. -/
theorem no_leaked_subnet_two : ∃ s, NetworkActor.new poolConfig = .ok s ∧
    Always (step sampleHash) InStep s
      (planEvents twoSubnetsPlan ++ [.message (.attach ⟨"c", "a", "eth0"⟩ freshHost)]) := by
  have hplan : Managed twoSubnetsPlan := by
    intro att hatt
    rcases List.mem_cons.mp hatt with hfirst | hsecond
    · cases hfirst
      decide
    · cases List.mem_singleton.mp hsecond
      decide
  have hnew : NetworkActor.new poolConfig = .ok _ := rfl
  exact ⟨_, hnew, (no_leaked_subnet sampleHash hnew hplan
    [.attach ⟨"c", "a", "eth0"⟩ freshHost]).2⟩

end Network

end Ssam
