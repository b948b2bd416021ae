import Ssam.Network.Subnets

/-!
# Restored Addresses Are Not Reissued

A restore plan lists the addresses that containers hold while the actor knows
nothing of them yet. What keeps such an address from being handed to another
veth is one of three things, together `Guarded`: it is marked under its veth on
some bridge, its whole slot is held by an id no attach uses, or it is an end of
its slot, which no bridge hands out.

No message takes a guard away but a detach of the veth and the rollback of a
failed attach of it (`Guarded.handle`), and a guarded address is handed to its
own veth or to none (`handedOut_guarded`).

The restore is best-effort, and it is there that an address can be left without
a guard: a claim refused by the pool or by the bridge, a reserve whose slot
already belongs to a live bridge, a second address claimed for one veth, a
second subnet claimed for one bridge. `RestoresSafely` says of one entry, in the
state it is applied to, that none of these happens to it, and `never_reissued`
that this is enough for every address of the plan.

## Main definitions

* `Guarded`: What keeps an address from being handed to another veth.
* `handedOut`: The veth and address a message passes to netavark's setup.
* `RollsBack`: A failed attach that releases the veth's address.
* `RestoresSafely`: The entry guards its address and takes no guard away.

## Theorems

* `Guarded.handle`: A message keeps the guard of an attached veth.
* `handedOut_guarded`: A guarded address goes to its own veth or to none.
* `guarded_next_of_lists`: An entry that restores safely guards its address.
* `never_reissued`: No listed address is handed to another veth.
* `reserved_in_live_slot_reissued`: A reserve in a live bridge's slot is lost.
-/

namespace Ssam

namespace Network

open Lib

/-! ### Slots of the pool -/

theorem slotOf_of_grid {a a' : SubnetAllocator} (h : a'.grid = a.grid) (ip : Ipv4Addr) :
    a'.slotOf ip = a.slotOf ip := by
  have hlen := SubnetAllocator.subnetPrefix_of_grid h
  unfold SubnetAllocator.slotOf SubnetAllocator.slot
  simp only [hlen]

/-- The slot of an address is the subnet of the pool's size that contains it. -/
theorem slotOf_of_contains {a : SubnetAllocator} {n : Ipv4Net} {ip : Ipv4Addr}
    (hlen : n.prefixLen = a.subnetPrefix) (hin : n.Contains ip) :
    (a.slotOf ip).network = n.network ∧ (a.slotOf ip).broadcast = n.broadcast := by
  have hsize : (a.slotOf ip).size = n.size := by
    rw [Ipv4Net.size, Ipv4Net.size, hlen]
    rfl
  have hnet : (a.slotOf ip).network = n.network := by
    rw [SubnetAllocator.slotOf, Ipv4Net.network_trunc, ← UInt32.toNat_inj,
      Ipv4Net.network_toNat, ← (Ipv4Net.contains_iff n ip).mp hin, ← hsize]
    rfl
  refine ⟨hnet, ?_⟩
  rw [← UInt32.toNat_inj, Ipv4Net.broadcast_toNat, Ipv4Net.broadcast_toNat, hnet, hsize]

/-- No bridge is named like a reservation. -/
theorem reservedId_ne_bridgeName (pkgHash10 : String → String) (slot : Ipv4Net)
    (bridgeId : String) : SubnetAllocator.reservedId slot ≠ bridgeName pkgHash10 bridgeId := by
  intro h
  have hchars := congrArg String.toList h
  simp only [SubnetAllocator.reservedId, bridgeName, toString, String.toList_append] at hchars
  have hhead := congrArg (fun l => l[0]?) hchars
  exact absurd hhead (by simp)

section Guards

variable (pkgHash10 : String → String)

/-- What keeps `ip` from being handed to a veth other than `veth`. -/
inductive Guarded (s : NetworkActor) (veth : String) (ip : Ipv4Addr) : Prop where
  /-- It is marked under the veth. -/
  | held (br : String) (h : s.ipOf br veth = some ip)
  /-- Its slot is held by an id that is no bridge an attach can name. -/
  | slot (id : String) (h : s.subnets.get id = some (s.subnets.slotOf ip).network)
      (hid : ∀ bridgeId, id ≠ bridgeName pkgHash10 bridgeId)
  /-- It is the network or the broadcast address of its slot. -/
  | edge (h : ip = (s.subnets.slotOf ip).network ∨ ip = (s.subnets.slotOf ip).broadcast)

/-- The veth and the address a message passes to netavark's setup, if any. -/
def handedOut (s : NetworkActor) : Message → Option (String × Ipv4Addr)
  | .attach msg env =>
      (s.handleAttach pkgHash10 msg env).setupOptions.map fun o =>
        (o.hostInterfaceName, o.staticIp)
  | .detach _ _ => none

/-- The message detaches the veth: it is asked to, and the link is gone. -/
def Detaches (veth : String) : Message → Prop
  | .attach _ _ => False
  | .detach msg env => vethHostName pkgHash10 msg.pkg = veth ∧ env.vethDeleted = true

/-- The message attaches the veth again on the bridge that marks its address,
    and setup fails: the rollback releases the mark. -/
def RollsBack (s : NetworkActor) (veth : String) (ip : Ipv4Addr) : Message → Prop
  | .attach msg env =>
      vethHostName pkgHash10 msg.pkg = veth ∧
        s.ipOf (bridgeName pkgHash10 msg.bridgeId) veth = some ip ∧
        s.allocates pkgHash10 msg env = true ∧ env.setup ≠ .ok
  | .detach _ _ => False

variable {pkgHash10}

/-- A veth that holds an address is given that address again. -/
theorem allocateContainerIp_of_held {s : NetworkActor} {br veth : String} {ip : Ipv4Addr}
    (h : s.ipOf br veth = some ip) (managedSlaves : Bool) :
    ∃ subnet t, s.allocateContainerIp br veth managedSlaves = (.ok (subnet, ip), t) := by
  rcases ipOf_eq_some.mp h with ⟨state, hbr, hfor⟩
  have hensure : s.ensureBridge br = .ok (state, s) := by
    simp only [NetworkActor.ensureBridge, hbr]
  rcases BridgeIpAllocator.allocate_of_held hfor with ⟨state', halloc⟩
  exact ⟨state.subnet, s.setBridge br state', by
    simp only [NetworkActor.allocateContainerIp, hensure, halloc]⟩

/-- A message that neither detaches the veth nor rolls it back keeps its mark. -/
theorem ipOf_handle {s : NetworkActor} {br veth : String} {ip : Ipv4Addr}
    (h : s.ipOf br veth = some ip) {m : Message} (hdet : ¬ Detaches pkgHash10 veth m)
    (hback : ¬ RollsBack pkgHash10 s veth ip m) :
    (s.handle pkgHash10 m).ipOf br veth = some ip := by
  cases m with
  | attach msg env =>
      have htouch := handleAttach_touches pkgHash10 s msg env
      by_cases hnamed :
          br = bridgeName pkgHash10 msg.bridgeId ∧ veth = vethHostName pkgHash10 msg.pkg
      · rcases hnamed with ⟨rfl, rfl⟩
        rcases allocateContainerIp_of_held h env.managedSlaves with ⟨subnet, t, halloc⟩
        rcases s.handleAttach_cases pkgHash10 msg env with
          ⟨hsame, -⟩ | ⟨e, hfail, -⟩ | ⟨subnet', ip', t', hal, hok, -, ⟨-, hdone⟩ | ⟨hbad, -⟩⟩
        · rw [NetworkActor.handle, hsame]
          exact h
        · rw [halloc] at hfail
          exact absurd (congrArg Prod.fst hfail) (by simp only [reduceCtorEq, not_false_eq_true])
        · rw [NetworkActor.handle, hdone]
          rcases allocateContainerIp_ok hok with ⟨hget, hsome | hnone, -⟩
          · rw [hget, ← hsome, h]
          · rw [h] at hnone
            exact absurd hnone (by simp only [reduceCtorEq, not_false_eq_true])
        · exact absurd ⟨rfl, h, hal, hbad⟩ hback
      · exact (htouch.ipOf br veth hnamed).trans h
  | detach msg env =>
      have htouch := handleDetach_touches pkgHash10 s msg env
      by_cases hnamed :
          br = bridgeName pkgHash10 msg.bridgeId ∧ veth = vethHostName pkgHash10 msg.pkg
      · -- The veth is named, so its link was not deleted and nothing is released.
        have hdel : ¬ env.vethDeleted = true := fun hdel => hdet ⟨hnamed.2.symm, hdel⟩
        simp only [NetworkActor.handle, NetworkActor.handleDetach, if_neg hdel]
        exact h
      · exact (htouch.ipOf br veth hnamed).trans h

/-- A slot held by an id no attach uses is out of every message's reach. -/
theorem slot_handle {s : NetworkActor} {id : String}
    (hid : ∀ bridgeId, id ≠ bridgeName pkgHash10 bridgeId) (m : Message) :
    (s.handle pkgHash10 m).subnets.get id = s.subnets.get id := by
  cases m with
  | attach msg env => exact (handleAttach_touches pkgHash10 s msg env).slot id (hid _)
  | detach msg env => exact (handleDetach_touches pkgHash10 s msg env).slot id (hid _)

theorem Guarded.handle {s : NetworkActor} {veth : String} {ip : Ipv4Addr}
    (h : Guarded pkgHash10 s veth ip) {m : Message} (hdet : ¬ Detaches pkgHash10 veth m)
    (hback : ¬ RollsBack pkgHash10 s veth ip m) :
    Guarded pkgHash10 (s.handle pkgHash10 m) veth ip := by
  have hslotOf := slotOf_of_grid (next_grid pkgHash10 s (.message m)) ip
  cases h with
  | held br h => exact .held br (ipOf_handle h hdet hback)
  | slot id h hid =>
      refine .slot id ?_ hid
      rw [slot_handle hid, h]
      exact congrArg (fun n => some n.network) hslotOf.symm
  | edge h =>
      refine .edge ?_
      rw [show (s.handle pkgHash10 m).subnets.slotOf ip = s.subnets.slotOf ip from hslotOf]
      exact h

/-- A guarded address is handed to its own veth or to none. -/
theorem handedOut_guarded {s : NetworkActor} (hagree : SubnetsAgree s)
    (hlen : s.subnets.subnetPrefix ≤ 30) {veth veth' : String} {ip : Ipv4Addr}
    (hg : Guarded pkgHash10 s veth ip) {m : Message}
    (hout : handedOut pkgHash10 s m = some (veth', ip)) : veth' = veth := by
  cases m with
  | detach msg env =>
      exact absurd hout (by simp only [handedOut, reduceCtorEq, not_false_eq_true])
  | attach msg env =>
      rcases Option.map_eq_some_iff.mp hout with ⟨o, ho, heq⟩
      -- The address is one that the allocation of the attach has found.
      have halloc := allocateContainerIp_touches s (bridgeName pkgHash10 msg.bridgeId)
        (vethHostName pkgHash10 msg.pkg) env.managedSlaves
      have hagree' := (SubnetsAgree.kept pkgHash10).allocateContainerIp hagree msg.bridgeId
        (vethHostName pkgHash10 msg.pkg) env.managedSlaves
      rcases s.handleAttach_cases pkgHash10 msg env with
        ⟨-, hnone, -⟩ | ⟨e, -, hnone⟩ | ⟨subnet, ip', t, -, hok, hopts, -⟩
      · rw [hnone] at ho
        exact absurd ho (by simp only [reduceCtorEq, not_false_eq_true])
      · rw [hnone] at ho
        exact absurd ho (by simp only [reduceCtorEq, not_false_eq_true])
      · rw [hopts, Option.some.injEq] at ho
        rw [← ho] at heq
        simp only [buildNetworkOptions, Prod.mk.injEq] at heq
        rcases heq with ⟨rfl, rfl⟩
        rw [hok] at halloc hagree'
        have hlen' : t.subnets.subnetPrefix ≤ 30 := by
          rw [halloc.subnetPrefix]
          exact hlen
        have hget := (allocateContainerIp_ok hok).1
        -- So it lies in the slot the pool has recorded for the bridge.
        rcases ipOf_eq_some.mp hget with ⟨state, hbr, hfor⟩
        rcases hagree' _ state hbr with ⟨hslot, hsize⟩
        have hin := contains_of_ipFor (by rw [hsize]; exact hlen') hfor
        have hends := slotOf_of_contains hsize hin
        rw [slotOf_of_grid halloc.grid] at hends
        cases hg with
        | held br h =>
            by_cases hnamed :
                br = bridgeName pkgHash10 msg.bridgeId ∧ veth = vethHostName pkgHash10 msg.pkg
            · exact hnamed.2.symm
            · -- Two marks with one address are the same mark.
              have hpair := hagree'.distinct hlen' _ _ _ _ _ hget
                ((halloc.ipOf br veth hnamed).trans h)
              exact (Prod.mk.injEq _ _ _ _ ▸ hpair).2
        | slot id h hid =>
            -- The slot would be that of the bridge and of another id at once.
            have hid' := (halloc.slot id (hid _)).trans h
            rw [hends.1] at hid'
            exact absurd (t.subnets.get_inj hid' hslot) (hid _)
        | edge h =>
            -- A marked address is neither end of its slot.
            rcases host_of_ipFor (by rw [hsize]; exact hlen') hfor with ⟨hlo, hhi⟩
            rw [hends.1, hends.2] at h
            rw [UInt32.lt_iff_toNat_lt] at hlo hhi
            rcases h with rfl | rfl
            · exact absurd hlo (Nat.lt_irrefl _)
            · exact absurd hhi (Nat.lt_irrefl _)

/-! ### The restore -/

/-- The pool and the bridge both accept a restored attach. -/
def TakesAddress (s : NetworkActor) (att : RestoredAttach) : Prop :=
  (∃ subnets, s.subnets.claim att.br att.subnet = .ok subnets) ∧
    ∃ state, ((s.bridge att.br).getD (BridgeIpAllocator.new att.subnet)).claim att.veth att.ip =
      .ok state

/-- The pool accepts the claim, and the id holds another slot, which it loses. -/
def MovesSlot (s : NetworkActor) (id : String) (subnet : Ipv4Net) : Prop :=
  (∃ subnets, s.subnets.claim id subnet = .ok subnets) ∧
    ∃ key, s.subnets.get id = some key ∧ key ≠ subnet.network

variable (pkgHash10)

/-- What has to hold of an entry of the plan, in the state it is applied to. Its
    claim moves no id to another slot and no veth to another address, and its
    own address, if it is one of the pool's, is guarded already or accepted. A
    message is no entry of a plan. -/
def RestoresSafely (s : NetworkActor) : Event → Prop
  | .claim att =>
      -- No bridge is moved away from its slot, no veth from its address, and what is not guarded by
      -- another mark gets its own.
      ¬ MovesSlot s att.br att.subnet ∧
        (TakesAddress s att → ∀ old, s.ipOf att.br att.veth = some old → old = att.ip) ∧
        (s.subnets.pool.Contains att.ip →
          Guarded pkgHash10 s att.veth att.ip ∨ TakesAddress s att)
  | .reserve ip veth master =>
      match master.bind fun br => (s.bridge br).map fun alloc => (br, alloc) with
      | some (br, alloc) =>
          ((∃ state, alloc.claim veth ip = .ok state) →
            ∀ old, s.ipOf br veth = some old → old = ip) ∧
          (s.subnets.pool.Contains ip →
            Guarded pkgHash10 s veth ip ∨ ∃ state, alloc.claim veth ip = .ok state)
      | none =>
          ¬ MovesSlot s (SubnetAllocator.reservedId (s.subnets.slotOf ip)) (s.subnets.slotOf ip) ∧
          (s.subnets.pool.Contains ip →
            Guarded pkgHash10 s veth ip ∨
              ∃ subnets, s.subnets.claim (SubnetAllocator.reservedId (s.subnets.slotOf ip))
                (s.subnets.slotOf ip) = .ok subnets)
  | .message _ => False

/-- The entry of a plan lists the address under the veth. -/
def RestoreEntry.Lists (veth : String) (ip : Ipv4Addr) : RestoreEntry → Prop
  | .attach att => att.veth = veth ∧ att.ip = ip
  | .reserveIp ip' veth' _ => veth' = veth ∧ ip' = ip

/-- The event lists the address under the veth. -/
def Lists (veth : String) (ip : Ipv4Addr) : Event → Prop
  | .claim att => att.veth = veth ∧ att.ip = ip
  | .reserve ip' veth' _ => veth' = veth ∧ ip' = ip
  | .message _ => False

variable {pkgHash10}

/-- Repointing a live bridge moves its slot. -/
theorem movesSlot_of_repoints {s : NetworkActor} (hagree : SubnetsAgree s) {br : String}
    {subnet : Ipv4Net} (h : Repoints s br subnet) : MovesSlot s br subnet := by
  rcases h with ⟨hc, state, hbr, hne⟩
  exact ⟨hc, state.subnet.network, (hagree br state hbr).1, hne⟩

theorem keepsSubnets_of_restoresSafely {s : NetworkActor} (hagree : SubnetsAgree s) {e : Event}
    (h : RestoresSafely pkgHash10 s e) : KeepsSubnets s e := by
  cases e with
  | claim att => exact fun hre => h.1 (movesSlot_of_repoints hagree hre)
  | reserve ip veth master =>
      intro hdead hre
      unfold RestoresSafely at h
      cases hm : master.bind fun br => (s.bridge br).map fun alloc => (br, alloc) with
      | none =>
          simp only [hm] at h
          exact h.1 (movesSlot_of_repoints hagree hre)
      | some r =>
          have hfound : r.2 ∈ s.bridge r.1 ∧ master = some r.1 := (bridge_of_master hm).symm
          rcases hfound with ⟨hbr, hmaster⟩
          rw [Option.mem_def] at hbr
          rw [hmaster, Option.bind_some, hbr] at hdead
          exact absurd hdead Bool.false_ne_true
  | message m => exact absurd h id

/-- What a claim leaves in the pool under its own id, when it moves no slot. -/
theorem get_claim_self {a a' : SubnetAllocator} {id : String} {subnet : Ipv4Net} {key : UInt32}
    (hc : a.claim id subnet = .ok a') (hkeep : key = subnet.network) : a'.get id = some key := by
  rw [(SubnetAllocator.claim_spec hc).2.2.1 id, if_pos rfl, hkeep]

/-- What a restored attach leaves at the attachment it names. -/
theorem ipOf_claimRestoredAttach (s : NetworkActor) (att : RestoredAttach) :
    (TakesAddress s att → (s.claimRestoredAttach att).ipOf att.br att.veth = some att.ip) ∧
      (¬ TakesAddress s att →
        (s.claimRestoredAttach att).ipOf att.br att.veth = s.ipOf att.br att.veth) := by
  -- A record that is made for the claim has no address yet.
  have hold : ((s.bridge att.br).getD (BridgeIpAllocator.new att.subnet)).ipFor att.veth =
      s.ipOf att.br att.veth := by
    rw [NetworkActor.ipOf]
    cases s.bridge att.br with
    | none => rfl
    | some state => rfl
  unfold NetworkActor.claimRestoredAttach
  cases hc : s.subnets.claim att.br att.subnet with
  | error e =>
      refine ⟨fun ht => ?_, fun _ => rfl⟩
      rcases ht.1 with ⟨subnets, hok⟩
      rw [hc] at hok
      exact absurd hok (by simp only [reduceCtorEq, not_false_eq_true])
  | ok subnets =>
      simp only []
      cases hip : ((s.bridge att.br).getD (BridgeIpAllocator.new att.subnet)).claim att.veth
          att.ip with
      | error e =>
          refine ⟨fun ht => ?_, fun _ => ?_⟩
          · rcases ht.2 with ⟨state, hok⟩
            rw [hip] at hok
            exact absurd hok (by simp only [reduceCtorEq, not_false_eq_true])
          · rw [ipOf_setBridge, if_pos rfl, hold]
      | ok state' =>
          refine ⟨fun _ => ?_, fun ht => absurd ⟨⟨subnets, hc⟩, state', hip⟩ ht⟩
          rw [ipOf_setBridge, if_pos rfl, (BridgeIpAllocator.claim_spec hip).2, if_pos rfl]

/-- What a restored attach leaves in the pool under its bridge's name. -/
theorem slot_claimRestoredAttach {s : NetworkActor} {att : RestoredAttach} {key : UInt32}
    (hmove : ¬ MovesSlot s att.br att.subnet) (hget : s.subnets.get att.br = some key) :
    (s.claimRestoredAttach att).subnets.get att.br = some key := by
  unfold NetworkActor.claimRestoredAttach
  cases hc : s.subnets.claim att.br att.subnet with
  | error e => exact hget
  | ok subnets =>
      have hkeep : key = att.subnet.network := by
        by_contra hne
        exact hmove ⟨⟨subnets, hc⟩, key, hget, hne⟩
      have hself := get_claim_self hc hkeep
      simp only []
      cases ((s.bridge att.br).getD (BridgeIpAllocator.new att.subnet)).claim att.veth att.ip with
      | error e => exact hself
      | ok state' => exact hself

theorem Guarded.claimRestoredAttach {s : NetworkActor} {veth : String} {ip : Ipv4Addr}
    (h : Guarded pkgHash10 s veth ip) {att : RestoredAttach}
    (hsafe : RestoresSafely pkgHash10 s (.claim att)) :
    Guarded pkgHash10 (s.claimRestoredAttach att) veth ip := by
  have htouch := claimRestoredAttach_touches s att
  rcases hsafe with ⟨hmove, hsame, -⟩
  cases h with
  | held br h =>
      refine .held br ?_
      -- The claim may be about the very veth, which then keeps its address.
      by_cases hnamed : br = att.br ∧ veth = att.veth
      · rcases hnamed with ⟨rfl, rfl⟩
        by_cases ht : TakesAddress s att
        · rw [(ipOf_claimRestoredAttach s att).1 ht, hsame ht ip h]
        · rw [(ipOf_claimRestoredAttach s att).2 ht, h]
      · exact (htouch.ipOf br veth hnamed).trans h
  | slot id h hid =>
      refine .slot id ?_ hid
      rw [slotOf_of_grid htouch.grid]
      -- It may be about the bridge of the slot, which is not moved.
      by_cases hnamed : id = att.br
      · subst hnamed
        exact slot_claimRestoredAttach hmove h
      · exact (htouch.slot id hnamed).trans h
  | edge h =>
      refine .edge ?_
      rw [slotOf_of_grid htouch.grid]
      exact h

theorem Guarded.reserveIp {s : NetworkActor} {veth : String} {ip : Ipv4Addr}
    (h : Guarded pkgHash10 s veth ip) {ip' : Ipv4Addr} {veth' : String} {master : Option String}
    (hsafe : RestoresSafely pkgHash10 s (.reserve ip' veth' master)) :
    Guarded pkgHash10 (s.reserveIp ip' veth' master) veth ip := by
  have htouch := reserveIp_touches s ip' veth' master
  have hslotOf := slotOf_of_grid htouch.grid ip
  unfold RestoresSafely at hsafe
  unfold reserveTarget at htouch
  unfold NetworkActor.reserveIp at htouch hslotOf ⊢
  cases hm : master.bind fun br => (s.bridge br).map fun alloc => (br, alloc) with
  -- The master is a bridge in use, and the address is claimed in its record.
  | some r =>
      rcases r with ⟨br, alloc⟩
      have hbr := (bridge_of_master hm).2
      simp only [hm] at hsafe htouch hslotOf ⊢
      cases hip : alloc.claim veth' ip' with
      | error e => exact h
      | ok alloc' =>
          simp only [hip] at htouch hslotOf
          cases h with
          | held br' h =>
              refine .held br' ?_
              by_cases hnamed : br' = br ∧ veth = veth'
              · -- The mark may be that of this veth, which is safe to be claimed again.
                rcases hnamed with ⟨rfl, rfl⟩
                have hsame := hsafe.1 ⟨alloc', hip⟩ ip h
                rw [ipOf_setBridge, if_pos rfl, (BridgeIpAllocator.claim_spec hip).2, if_pos rfl,
                  hsame]
              · exact (htouch.ipOf br' veth hnamed).trans h
          | slot id h hid => exact .slot id h hid
          | edge h => exact .edge h
  -- There is no such bridge, and the slot is kept from all of them.
  | none =>
      simp only [hm] at hsafe htouch hslotOf ⊢
      cases h with
      | held br h => exact .held br h
      | slot id h hid =>
          refine .slot id ?_ hid
          rw [hslotOf]
          by_cases hnamed : id = SubnetAllocator.reservedId (s.subnets.slotOf ip')
          · unfold SubnetAllocator.reserveContaining
            cases hc : s.subnets.claim (SubnetAllocator.reservedId (s.subnets.slotOf ip'))
                (s.subnets.slotOf ip') with
            | error e => exact h
            | ok subnets =>
                rw [hnamed] at h ⊢
                refine get_claim_self hc ?_
                by_contra hne
                exact hsafe.1 ⟨⟨subnets, hc⟩, _, h, hne⟩
          · exact (htouch.slot id hnamed).trans h
      | edge h =>
          refine .edge ?_
          rw [hslotOf]
          exact h

/-- An entry that restores safely leaves its own address guarded. -/
theorem guarded_next_of_lists {s : NetworkActor} {veth : String} {ip : Ipv4Addr} {e : Event}
    (hlists : Lists veth ip e) (hpool : s.subnets.pool.Contains ip)
    (hsafe : RestoresSafely pkgHash10 s e) : Guarded pkgHash10 (next pkgHash10 s e) veth ip := by
  cases e with
  | claim att =>
      rcases hlists with ⟨rfl, rfl⟩
      rcases hsafe.2.2 hpool with hg | ht
      · exact hg.claimRestoredAttach hsafe
      · -- The claim takes the address for the veth.
        exact .held att.br ((ipOf_claimRestoredAttach s att).1 ht)
  | reserve ip' veth' master =>
      rcases hlists with ⟨rfl, rfl⟩
      -- What was guarded before stays so.
      have hkeep : Guarded pkgHash10 s veth' ip' →
          Guarded pkgHash10 (s.reserveIp ip' veth' master) veth' ip' :=
        fun hg => hg.reserveIp hsafe
      unfold RestoresSafely at hsafe
      simp only [next]
      cases hm : master.bind fun br => (s.bridge br).map fun alloc => (br, alloc) with
      | some r =>
          rcases r with ⟨br, alloc⟩
          simp only [hm] at hsafe
          rcases hsafe.2 hpool with hg | ⟨alloc', hip⟩
          · exact hkeep hg
          · refine .held br ?_
            simp only [NetworkActor.reserveIp, hm, hip]
            rw [ipOf_setBridge, if_pos rfl, (BridgeIpAllocator.claim_spec hip).2, if_pos rfl]
      | none =>
          simp only [hm] at hsafe
          rcases hsafe.2 hpool with hg | ⟨subnets, hc⟩
          · exact hkeep hg
          · rcases SubnetAllocator.claim_spec hc with ⟨hgrid, -, hget, -⟩
            refine .slot (SubnetAllocator.reservedId (s.subnets.slotOf ip')) ?_
              (reservedId_ne_bridgeName pkgHash10 _)
            simp only [NetworkActor.reserveIp, hm, SubnetAllocator.reserveContaining, hc]
            rw [slotOf_of_grid hgrid, hget, if_pos rfl]
  | message m => exact absurd hlists id

/-! ### Runs -/

theorem agree_next_of_safe {s : NetworkActor} (hagree : SubnetsAgree s) {e : Event}
    (hsafe : RestoresSafely pkgHash10 s e) : SubnetsAgree (next pkgHash10 s e) :=
  (next_agree_iff pkgHash10 hagree e).mpr (keepsSubnets_of_restoresSafely hagree hsafe)

theorem guarded_next {s : NetworkActor} {veth : String} {ip : Ipv4Addr}
    (h : Guarded pkgHash10 s veth ip) {e : Event} (hsafe : RestoresSafely pkgHash10 s e) :
    Guarded pkgHash10 (next pkgHash10 s e) veth ip := by
  cases e with
  | claim att => exact h.claimRestoredAttach hsafe
  | reserve ip' veth' master => exact h.reserveIp hsafe
  | message m => exact absurd hsafe id

/-- An entry that lists an address is one of the plan's events. -/
theorem exists_event_of_lists {plan : List RestoreEntry} {entry : RestoreEntry}
    (hentry : entry ∈ plan) {veth : String} {ip : Ipv4Addr} (hlists : entry.Lists veth ip) :
    ∃ e ∈ planEvents plan, Lists veth ip e := by
  cases entry with
  | attach att =>
      refine ⟨.claim att, List.mem_append_left _ ?_, hlists⟩
      exact List.mem_filterMap.mpr ⟨.attach att, hentry, rfl⟩
  | reserveIp ip' veth' master =>
      refine ⟨.reserve ip' veth' master, List.mem_append_right _ ?_, hlists⟩
      exact List.mem_filterMap.mpr ⟨.reserveIp ip' veth' master, hentry, rfl⟩

/-- A plan that restores safely leaves every address it lists guarded: from the
    entry that lists it on, no later entry takes the guard away. -/
theorem guarded_applyRestorePlan {s : NetworkActor} {plan : List RestoreEntry}
    (hplan : Along (step pkgHash10) (RestoresSafely pkgHash10) s (planEvents plan))
    {entry : RestoreEntry} (hentry : entry ∈ plan) {veth : String} {ip : Ipv4Addr}
    (hlists : entry.Lists veth ip) (hpool : s.subnets.pool.Contains ip) :
    Guarded pkgHash10 (s.applyRestorePlan plan) veth ip := by
  rcases exists_event_of_lists hentry hlists with ⟨e, he, helists⟩
  rcases List.append_of_mem he with ⟨before, after, hsplit⟩
  have hexec := exec_planEvents pkgHash10 plan s
  rw [hsplit] at hplan hexec
  rw [exec_append] at hexec
  rcases Option.bind_eq_some_iff.mp hexec with ⟨mid, hmid, hrest⟩
  rcases (along_append.mp hplan).2 mid hmid _ rfl with ⟨hsafe, hafter⟩
  -- The pool is the one the run started with.
  have hgrid : mid.grid = s.grid := by
    refine exec_invariant (P := fun t => t.grid = s.grid) (fun u ev t hu ht => ?_) rfl hmid
    rw [← Option.some.inj ht, next_grid]
    exact hu
  have hpool' : mid.subnets.pool.Contains ip := by
    rw [show mid.subnets.pool = s.subnets.pool from congrArg Prod.fst hgrid]
    exact hpool
  refine exec_invariant_along (P := fun t => Guarded pkgHash10 t veth ip)
    (fun u ev t hu hev ht => ?_) (guarded_next_of_lists helists hpool' hsafe) hafter hrest
  rw [← Option.some.inj ht]
  exact guarded_next hu hev

/-- After a restore that is safe for every entry of its plan, an address the
    plan lists for a veth is handed to no other veth, as long as the veth is not
    detached and no attach of it is rolled back. -/
theorem never_reissued {config : BridgeConfig} {s : NetworkActor}
    (hv : config.validate = .ok ()) (hnew : NetworkActor.new config = .ok s)
    {plan : List RestoreEntry}
    (hplan : Along (step pkgHash10) (RestoresSafely pkgHash10) s (planEvents plan))
    {entry : RestoreEntry} (hentry : entry ∈ plan) {veth : String} {ip : Ipv4Addr}
    (hlists : entry.Lists veth ip) (hpool : config.base.Contains ip)
    {msgs : List Message} (hdet : ∀ m ∈ msgs, ¬ Detaches pkgHash10 veth m)
    (hback : Along (messageStep pkgHash10) (fun s m => ¬ RollsBack pkgHash10 s veth ip m)
      (s.applyRestorePlan plan) msgs)
    {t : NetworkActor} (ht : exec (messageStep pkgHash10) (s.applyRestorePlan plan) msgs = some t)
    {m : Message} {veth' : String} (hout : handedOut pkgHash10 t m = some (veth', ip)) :
    veth' = veth := by
  have hpool' : s.subnets.pool.Contains ip := by
    rw [(NetworkActor.new_eq_ok hnew).2.2.1]
    exact hpool
  have hguard := guarded_applyRestorePlan hplan hentry hlists hpool'
  have hexec := exec_planEvents pkgHash10 plan s
  have hagree : SubnetsAgree (s.applyRestorePlan plan) :=
    exec_invariant_along (fun u ev t hu hev ht => by
      rw [← Option.some.inj ht]
      exact agree_next_of_safe hu hev) (agree_new hnew) hplan hexec
  have hlen : (s.applyRestorePlan plan).subnets.subnetPrefix ≤ 30 :=
    exec_invariant (P := fun t => t.subnets.subnetPrefix ≤ 30) (fun u ev t hu ht => by
      rw [← Option.some.inj ht, SubnetAllocator.subnetPrefix_of_grid (next_grid pkgHash10 u ev)]
      exact hu) (subnetPrefix_new hv hnew) hexec
  -- The three facts the next attach is judged by hold after every message.
  have hkept : SubnetsAgree t ∧ t.subnets.subnetPrefix ≤ 30 ∧ Guarded pkgHash10 t veth ip :=
    exec_invariant_along
      (P := fun t => SubnetsAgree t ∧ t.subnets.subnetPrefix ≤ 30 ∧ Guarded pkgHash10 t veth ip)
      (fun u m t hu hm ht => by
        rw [← Option.some.inj ht]
        refine ⟨hu.1.handle pkgHash10 m, ?_, hu.2.2.handle hm.1 hm.2⟩
        rw [handle_subnetPrefix]
        exact hu.2.1)
      ⟨hagree, hlen, hguard⟩ (along_and (along_of_forall hdet _) hback) ht
  exact handedOut_guarded hkept.1 hkept.2.1 hkept.2.2 hout

end Guards

/-- A container that was not fully restored, next to one that was. -/
def siblingPlan (master : Option String) : List RestoreEntry :=
  oneSubnetPlan ++ [.reserveIp 0xac140002 "ssam-3e23e81600" master]

/-- The reserve knows its bridge, so its address is marked there. -/
theorem sibling_not_reissued : ∃ s t, NetworkActor.new poolConfig = .ok s ∧
    exec (messageStep sampleHash)
      (s.applyRestorePlan (siblingPlan (some "ssb-ca978112ca")))
      [.attach ⟨"c", "a", "eth0"⟩ freshHost] = some t ∧
    ∀ m veth, handedOut sampleHash t m = some (veth, 0xac140002) → veth = "ssam-3e23e81600" := by
  have hv : poolConfig.validate = .ok () := by decide
  refine ⟨_, _, rfl, rfl, fun m veth hout => ?_⟩
  -- Both entries of the plan are applied to a fresh actor.
  have hplan : ∀ s, NetworkActor.new poolConfig = .ok s →
      Along (step sampleHash) (RestoresSafely sampleHash) s
        (planEvents (siblingPlan (some "ssb-ca978112ca"))) := by
    rintro s ⟨⟩ s₁ ⟨⟩
    refine ⟨⟨?_, fun _ old hold => ?_, fun _ => Or.inr ⟨⟨_, rfl⟩, _, rfl⟩⟩, ?_⟩
    · rintro ⟨-, key, hkey, -⟩
      exact absurd hkey.symm (Option.some_ne_none key)
    · exact absurd hold.symm (Option.some_ne_none old)
    · rintro s₂ ⟨⟩
      refine ⟨⟨fun _ old hold => ?_, fun _ => Or.inr ⟨_, rfl⟩⟩, trivial⟩
      exact absurd hold.symm (Option.some_ne_none old)
  -- No message detaches the veth.
  have hdet : ∀ m ∈ [Message.attach ⟨"c", "a", "eth0"⟩ freshHost],
      ¬ Detaches sampleHash "ssam-3e23e81600" m := by
    intro m hm
    rw [List.mem_singleton.mp hm]
    exact id
  refine never_reissued hv rfl (hplan _ rfl) (List.mem_cons_of_mem _ List.mem_cons_self)
    ⟨rfl, rfl⟩ (by decide) hdet ?_ rfl hout
  rintro s₁ ⟨⟩
  exact ⟨fun hback => hback.2.2.2 rfl, trivial⟩

/-- A reserve without its bridge falls back to the slot, which belongs to a live
    bridge already; the claim is refused, and the next attach on that bridge is
    handed the address. -/
theorem reserved_in_live_slot_reissued : poolConfig.validate = .ok () ∧
    poolConfig.base.Contains 0xac140002 ∧
    RestoreEntry.reserveIp 0xac140002 "ssam-3e23e81600" none ∈ siblingPlan none ∧
    ∃ s, NetworkActor.new poolConfig = .ok s ∧
      handedOut sampleHash (s.applyRestorePlan (siblingPlan none))
        (.attach ⟨"c", "a", "eth0"⟩ freshHost) = some ("ssam-2e7d2c03a9", 0xac140002) := by
  refine ⟨by decide, by decide, List.mem_cons_of_mem _ List.mem_cons_self, _, rfl, by decide⟩

end Network

end Ssam
