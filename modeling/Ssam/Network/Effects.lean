import Ssam.Network.Actor

/-!
# What the Actor's Operations Change

Every operation of the actor is about one bridge and at most one veth on it.
`OnlyTouches` is the frame: the addresses of every other attachment, the slots
of every other bridge and the pool itself are as they were. It composes, so a
handler's frame is that of its parts, and an invariant about one attachment
needs only be checked against the operations that name it.

What an operation does to the attachment it names is a lemma of its own:
allocating marks an address under the veth, the one it had if it had one,
releasing leaves it none.

## Main definitions

* `OnlyTouches`: Nothing changes but one attachment and its bridge's slot.
* `Kept`: What is kept by each of the three things messages are made of.

## Theorems

* `allocateContainerIp_touches`, `allocateContainerIp_ok`: Allocating.
* `rollbackAttach_touches`, `handleDetach_touches`: Releasing.
* `handleAttach_touches`: An attach names one bridge and one veth.
* `claimRestoredAttach_touches`, `reserveIp_touches`: The restore.
* `next_grid`: No event changes the pool or the size of its slots.
* `Kept.handle`: What the three keep, every message keeps.
-/

namespace Ssam

namespace Network

open Lib

/-- From `s` to `t`, only `veth`'s address on `br` and `br`'s slot may differ. -/
structure OnlyTouches (br veth : String) (s t : NetworkActor) : Prop where
  grid : t.grid = s.grid
  ipOf : ∀ a v, ¬ (a = br ∧ v = veth) → t.ipOf a v = s.ipOf a v
  slot : ∀ a, a ≠ br → t.subnets.get a = s.subnets.get a

namespace OnlyTouches

variable {br veth : String} {s t u : NetworkActor}

theorem refl (br veth : String) (s : NetworkActor) : OnlyTouches br veth s s :=
  ⟨rfl, fun _ _ _ => rfl, fun _ _ => rfl⟩

theorem trans (h : OnlyTouches br veth s t) (h' : OnlyTouches br veth t u) :
    OnlyTouches br veth s u where
  grid := h'.grid.trans h.grid
  ipOf a v ha := (h'.ipOf a v ha).trans (h.ipOf a v ha)
  slot a ha := (h'.slot a ha).trans (h.slot a ha)

theorem subnetPrefix (h : OnlyTouches br veth s t) :
    t.subnets.subnetPrefix = s.subnets.subnetPrefix :=
  SubnetAllocator.subnetPrefix_of_grid h.grid

end OnlyTouches

theorem ipOf_eq_some {s : NetworkActor} {br veth : String} {ip : Ipv4Addr} :
    s.ipOf br veth = some ip ↔ ∃ state, s.bridge br = some state ∧ state.ipFor veth = some ip :=
  Option.bind_eq_some_iff

theorem ipOf_of_bridge {s : NetworkActor} {br : String} {state : BridgeIpAllocator}
    (hbr : s.bridge br = some state) (veth : String) : s.ipOf br veth = state.ipFor veth := by
  rw [NetworkActor.ipOf, hbr, Option.bind_some]

theorem ipOf_setBridge (s : NetworkActor) (br : String) (state : BridgeIpAllocator)
    (a v : String) :
    (s.setBridge br state).ipOf a v = if a = br then state.ipFor v else s.ipOf a v := by
  rw [NetworkActor.ipOf, NetworkActor.bridge_setBridge]
  by_cases ha : a = br
  · rw [if_pos ha, if_pos ha, Option.bind_some]
  · rw [if_neg ha, if_neg ha, NetworkActor.ipOf]

/-- An allocator that differs from the bridge's own at one veth. -/
theorem setBridge_touches {s : NetworkActor} {br veth : String} {state : BridgeIpAllocator}
    (h : ∀ v, v ≠ veth → state.ipFor v = s.ipOf br v) :
    OnlyTouches br veth s (s.setBridge br state) where
  grid := rfl
  ipOf a v hav := by
    rw [ipOf_setBridge]
    by_cases ha : a = br
    · rw [if_pos ha, ha]
      exact h v fun hv => hav ⟨ha, hv⟩
    · rw [if_neg ha]
  slot _ _ := rfl

/-- A bridge without other attachments may be destroyed. -/
theorem destroyBridge_touches {s : NetworkActor} {br veth : String}
    (h : ∀ v, v ≠ veth → s.ipOf br v = none) (managedSlaves : Bool) :
    OnlyTouches br veth s (s.destroyBridge br managedSlaves) where
  grid := s.grid_destroyBridge br managedSlaves
  ipOf a v hav := by
    rw [NetworkActor.ipOf, NetworkActor.bridge_destroyBridge]
    by_cases hd : managedSlaves = false ∧ a = br
    · have hv : v ≠ veth := fun hv => hav ⟨hd.2, hv⟩
      rw [if_pos hd, hd.2, h v hv, Option.bind_none]
    · rw [if_neg hd, NetworkActor.ipOf]
  slot a ha := by
    rw [NetworkActor.subnets_destroyBridge, if_neg fun hd => ha hd.2]

/-- Making sure a bridge is live attaches nothing to it. -/
theorem ensureBridge_spec {s s' : NetworkActor} {br : String} {state : BridgeIpAllocator}
    (h : s.ensureBridge br = .ok (state, s')) :
    s'.bridge br = some state ∧ (∀ v, state.ipFor v = s.ipOf br v) ∧
      ∀ veth, OnlyTouches br veth s s' := by
  unfold NetworkActor.ensureBridge at h
  cases hbr : s.bridge br with
  -- A bridge that is known keeps its record.
  | some st =>
      simp only [hbr, Except.ok.injEq, Prod.mk.injEq] at h
      rcases h with ⟨rfl, rfl⟩
      exact ⟨hbr, fun v => (ipOf_of_bridge hbr v).symm, fun veth => OnlyTouches.refl br veth s⟩
  | none =>
      cases halloc : s.subnets.allocate br with
      | error e =>
          simp only [hbr, halloc, reduceCtorEq] at h
      | ok r =>
          simp only [hbr, halloc, Except.ok.injEq, Prod.mk.injEq] at h
          rcases h with ⟨rfl, rfl⟩
          rcases SubnetAllocator.allocate_spec halloc with ⟨hgrid, -, hget⟩
          -- A new record has no address, so the actor knows no more than before.
          have hnone : ∀ v, s.ipOf br v = none := fun v => by
            rw [NetworkActor.ipOf, hbr, Option.bind_none]
          refine ⟨?_, fun v => ?_, fun veth => ⟨hgrid, fun a v hav => ?_, fun a ha => ?_⟩⟩
          · rw [NetworkActor.bridge_setBridge, if_pos rfl]
          · rw [BridgeIpAllocator.new_ipFor, hnone]
          · rw [ipOf_setBridge]
            by_cases ha : a = br
            · rw [if_pos ha, ha, BridgeIpAllocator.new_ipFor, hnone]
            · rw [if_neg ha]
              rfl
          · rw [NetworkActor.subnets_setBridge]
            simp only [hget a, if_neg ha]

theorem allocateContainerIp_touches (s : NetworkActor) (br veth : String)
    (managedSlaves : Bool) :
    OnlyTouches br veth s (s.allocateContainerIp br veth managedSlaves).2 := by
  unfold NetworkActor.allocateContainerIp
  cases he : s.ensureBridge br with
  | error e => exact OnlyTouches.refl br veth s
  | ok r =>
      rcases r with ⟨state, s'⟩
      rcases ensureBridge_spec he with ⟨hbr, hfor, htouch⟩
      simp only []
      cases halloc : state.allocate veth with
      | ok r =>
          refine (htouch veth).trans (setBridge_touches fun v hv => ?_)
          rw [(BridgeIpAllocator.allocate_spec halloc).2.1 v, if_neg hv, ipOf_of_bridge hbr]
      | error e =>
          simp only []
          by_cases hnew : (s.bridge br).isNone = true
          · -- The bridge was created for this attach, so it has no attachment.
            rw [if_pos hnew]
            refine (htouch veth).trans (destroyBridge_touches (fun v _ => ?_) managedSlaves)
            rw [ipOf_of_bridge hbr, hfor, NetworkActor.ipOf, Option.isNone_iff_eq_none.mp hnew,
              Option.bind_none]
          · rw [if_neg hnew]
            exact htouch veth

/-- A successful allocation marks the address under the veth: the one it had,
    or one nobody on the bridge had. -/
theorem allocateContainerIp_ok {s t : NetworkActor} {br veth : String} {managedSlaves : Bool}
    {subnet : Ipv4Net} {ip : Ipv4Addr}
    (h : s.allocateContainerIp br veth managedSlaves = (.ok (subnet, ip), t)) :
    t.ipOf br veth = some ip ∧ (s.ipOf br veth = some ip ∨ s.ipOf br veth = none) ∧
      ∃ state, t.bridge br = some state ∧ state.subnet = subnet := by
  unfold NetworkActor.allocateContainerIp at h
  cases he : s.ensureBridge br with
  | error e =>
      simp only [he, Prod.mk.injEq, reduceCtorEq, false_and] at h
  | ok r =>
      rcases r with ⟨state, s'⟩
      rcases ensureBridge_spec he with ⟨hbr, hfor, -⟩
      cases halloc : state.allocate veth with
      | error e =>
          simp only [he, halloc, Prod.mk.injEq, reduceCtorEq, false_and] at h
      | ok r =>
          rcases r with ⟨ip', state'⟩
          simp only [he, halloc, Prod.mk.injEq, Except.ok.injEq] at h
          rcases h with ⟨⟨rfl, rfl⟩, rfl⟩
          -- The veth had this address in its bridge, or none.
          rcases BridgeIpAllocator.allocate_spec halloc with ⟨hsub, hget, hkey⟩
          refine ⟨?_, ?_, state', ?_, hsub⟩
          · rw [ipOf_setBridge, if_pos rfl, hget, if_pos rfl]
          · rw [← hfor]
            exact hkey.imp_right fun hfresh => hfresh.1
          · rw [NetworkActor.bridge_setBridge, if_pos rfl]

/-- Releasing an address, and the bridge with its last one. -/
theorem release_touches {s : NetworkActor} {br : String} {state : BridgeIpAllocator}
    (hbr : s.bridge br = some state) (veth : String) (managedSlaves : Bool) :
    OnlyTouches br veth s (if (state.release veth).isEmpty then
      (s.setBridge br (state.release veth)).destroyBridge br managedSlaves
      else s.setBridge br (state.release veth)) := by
  have hset : OnlyTouches br veth s (s.setBridge br (state.release veth)) :=
    setBridge_touches fun v hv => by
      rw [BridgeIpAllocator.release_ipFor, if_neg hv, ipOf_of_bridge hbr]
  by_cases hempty : (state.release veth).isEmpty = true
  · rw [if_pos hempty]
    refine hset.trans (destroyBridge_touches (fun v _ => ?_) managedSlaves)
    rw [ipOf_setBridge, if_pos rfl]
    exact (BridgeIpAllocator.isEmpty_iff _).mp hempty v
  · rw [if_neg hempty]
    exact hset

theorem rollbackAttach_touches (s : NetworkActor) (br veth : String) (managedSlaves : Bool) :
    OnlyTouches br veth s (s.rollbackAttach br veth managedSlaves) := by
  unfold NetworkActor.rollbackAttach
  cases hbr : s.bridge br with
  | none => exact OnlyTouches.refl br veth s
  | some state => exact release_touches hbr veth managedSlaves

theorem claimRestoredAttach_touches (s : NetworkActor) (att : RestoredAttach) :
    OnlyTouches att.br att.veth s (s.claimRestoredAttach att) := by
  unfold NetworkActor.claimRestoredAttach
  cases hc : s.subnets.claim att.br att.subnet with
  | error e => exact OnlyTouches.refl _ _ s
  | ok subnets =>
      rcases SubnetAllocator.claim_spec hc with ⟨hgrid, -, hget, -⟩
      have hclaim : OnlyTouches att.br att.veth s { s with subnets := subnets } :=
        ⟨hgrid, fun _ _ _ => rfl, fun a ha => by simp only [hget a, if_neg ha]⟩
      -- Live or new, the bridge has the attachments it had.
      have hold : ∀ v, ((s.bridge att.br).getD (BridgeIpAllocator.new att.subnet)).ipFor v =
          s.ipOf att.br v := by
        intro v
        rw [NetworkActor.ipOf]
        cases s.bridge att.br with
        | none => rfl
        | some state => rfl
      simp only []
      cases hip : ((s.bridge att.br).getD (BridgeIpAllocator.new att.subnet)).claim att.veth
          att.ip with
      | error e => exact hclaim.trans (setBridge_touches fun v _ => hold v)
      | ok state' =>
          refine hclaim.trans (setBridge_touches fun v hv => ?_)
          rw [(BridgeIpAllocator.claim_spec hip).2 v, if_neg hv]
          exact hold v

/-- Reserving in a pool touches one slot and no attachment. -/
theorem reserveContaining_touches (s : NetworkActor) (ip : Ipv4Addr) (veth : String) :
    OnlyTouches (SubnetAllocator.reservedId (s.subnets.slotOf ip)) veth s
      { s with subnets := s.subnets.reserveContaining ip } := by
  unfold SubnetAllocator.reserveContaining
  cases hc : s.subnets.claim (SubnetAllocator.reservedId (s.subnets.slotOf ip))
      (s.subnets.slotOf ip) with
  | error e => exact OnlyTouches.refl _ _ s
  | ok subnets =>
      rcases SubnetAllocator.claim_spec hc with ⟨hgrid, -, hget, -⟩
      exact ⟨hgrid, fun _ _ _ => rfl, fun a ha => by simp only [hget a, if_neg ha]⟩

/-- The bridge a reserve is about: its known live master, or the id its slot is
    reserved under. -/
def reserveTarget (s : NetworkActor) (ip : Ipv4Addr) (master : Option String) : String :=
  match master.bind fun br => (s.bridge br).map fun alloc => (br, alloc) with
  | some (br, _) => br
  | none => SubnetAllocator.reservedId (s.subnets.slotOf ip)

theorem bridge_of_master {s : NetworkActor} {master : Option String} {br : String}
    {alloc : BridgeIpAllocator}
    (h : (master.bind fun br => (s.bridge br).map fun alloc => (br, alloc)) = some (br, alloc)) :
    master = some br ∧ s.bridge br = some alloc := by
  rcases Option.bind_eq_some_iff.mp h with ⟨br', hmaster, hmap⟩
  rcases Option.map_eq_some_iff.mp hmap with ⟨alloc', hbr, heq⟩
  simp only [Prod.mk.injEq] at heq
  rcases heq with ⟨rfl, rfl⟩
  exact ⟨hmaster, hbr⟩

theorem reserveIp_touches (s : NetworkActor) (ip : Ipv4Addr) (veth : String)
    (master : Option String) :
    OnlyTouches (reserveTarget s ip master) veth s (s.reserveIp ip veth master) := by
  unfold reserveTarget NetworkActor.reserveIp
  cases hm : master.bind fun br => (s.bridge br).map fun alloc => (br, alloc) with
  | none => exact reserveContaining_touches s ip veth
  | some r =>
      rcases r with ⟨br, alloc⟩
      have hbr := (bridge_of_master hm).2
      simp only []
      cases hip : alloc.claim veth ip with
      | error e => exact OnlyTouches.refl _ _ s
      | ok alloc' =>
          refine setBridge_touches fun v hv => ?_
          rw [(BridgeIpAllocator.claim_spec hip).2 v, if_neg hv, ipOf_of_bridge hbr]

section Messages

variable (pkgHash10 : String → String) (s : NetworkActor)

theorem handleAttach_touches (msg : Attach) (env : AttachEnv) :
    OnlyTouches (bridgeName pkgHash10 msg.bridgeId) (vethHostName pkgHash10 msg.pkg) s
      (s.handleAttach pkgHash10 msg env).actor := by
  have halloc := allocateContainerIp_touches s (bridgeName pkgHash10 msg.bridgeId)
    (vethHostName pkgHash10 msg.pkg) env.managedSlaves
  rcases s.handleAttach_cases pkgHash10 msg env with
    ⟨hsame, -⟩ | ⟨e, hfail, -⟩ | ⟨subnet, ip, t, -, hok, -, ⟨-, hdone⟩ | ⟨-, hback⟩⟩
  · rw [hsame]
    exact OnlyTouches.refl _ _ s
  · rw [hfail] at halloc
    exact halloc
  · rw [hok] at halloc
    rw [hdone]
    exact halloc
  · rw [hok] at halloc
    rw [hback]
    exact halloc.trans (rollbackAttach_touches t _ _ _)

theorem handleDetach_touches (msg : Detach) (env : DetachEnv) :
    OnlyTouches (bridgeName pkgHash10 msg.bridgeId) (vethHostName pkgHash10 msg.pkg) s
      (s.handleDetach pkgHash10 msg env) := by
  simp only [NetworkActor.handleDetach]
  by_cases hdel : env.vethDeleted = true
  · rw [if_pos hdel]
    cases hbr : s.bridge (bridgeName pkgHash10 msg.bridgeId) with
    | none => exact OnlyTouches.refl _ _ s
    | some state => exact release_touches hbr _ env.managedSlaves
  · rw [if_neg hdel]
    exact OnlyTouches.refl _ _ s

/-- No event changes the pool or the size of its slots. -/
theorem next_grid (e : Event) : (next pkgHash10 s e).grid = s.grid := by
  cases e with
  | claim att => exact (claimRestoredAttach_touches s att).grid
  | reserve ip veth master => exact (reserveIp_touches s ip veth master).grid
  | message m =>
      cases m with
      | attach msg env => exact (handleAttach_touches pkgHash10 s msg env).grid
      | detach msg env => exact (handleDetach_touches pkgHash10 s msg env).grid

theorem handle_subnetPrefix (m : Message) :
    (s.handle pkgHash10 m).subnets.subnetPrefix = s.subnets.subnetPrefix :=
  SubnetAllocator.subnetPrefix_of_grid (next_grid pkgHash10 s (.message m))

end Messages

/-- Messages are made of three things: making sure a bridge is live, changing the
    addresses of one that is, and destroying one. `P` is kept by each of them. -/
structure Kept (pkgHash10 : String → String) (P : NetworkActor → Prop) : Prop where
  ensureBridge : ∀ {s s' : NetworkActor} {bridgeId : String} {state : BridgeIpAllocator},
    P s → s.ensureBridge (bridgeName pkgHash10 bridgeId) = .ok (state, s') → P s'
  setBridge : ∀ {s : NetworkActor} {br : String} {state state' : BridgeIpAllocator},
    P s → s.bridge br = some state → state'.subnet = state.subnet → P (s.setBridge br state')
  destroyBridge : ∀ {s : NetworkActor} (br : String) (managedSlaves : Bool),
    P s → P (s.destroyBridge br managedSlaves)

namespace Kept

variable {pkgHash10 : String → String} {P : NetworkActor → Prop} {s : NetworkActor}

theorem allocateContainerIp (h : Kept pkgHash10 P) (hs : P s) (bridgeId veth : String)
    (managedSlaves : Bool) :
    P (s.allocateContainerIp (bridgeName pkgHash10 bridgeId) veth managedSlaves).2 := by
  unfold NetworkActor.allocateContainerIp
  cases he : s.ensureBridge (bridgeName pkgHash10 bridgeId) with
  | error e => exact hs
  | ok r =>
      rcases r with ⟨state, s'⟩
      have hs' := h.ensureBridge hs he
      simp only []
      cases halloc : state.allocate veth with
      | ok r =>
          exact h.setBridge hs' (ensureBridge_spec he).1 (BridgeIpAllocator.allocate_spec halloc).1
      | error e =>
          simp only []
          by_cases hnew : (s.bridge (bridgeName pkgHash10 bridgeId)).isNone = true
          · rw [if_pos hnew]
            exact h.destroyBridge _ managedSlaves hs'
          · rw [if_neg hnew]
            exact hs'

/-- Releasing an address of a live bridge, and the bridge with its last one. -/
theorem release (h : Kept pkgHash10 P) (hs : P s) {br : String} {state : BridgeIpAllocator}
    (hbr : s.bridge br = some state) (veth : String) (managedSlaves : Bool) :
    P (if (state.release veth).isEmpty then
      (s.setBridge br (state.release veth)).destroyBridge br managedSlaves
      else s.setBridge br (state.release veth)) := by
  have hs' := h.setBridge hs hbr (state.release_subnet veth)
  by_cases hempty : (state.release veth).isEmpty = true
  · rw [if_pos hempty]
    exact h.destroyBridge br managedSlaves hs'
  · rw [if_neg hempty]
    exact hs'

theorem rollbackAttach (h : Kept pkgHash10 P) (hs : P s) (br veth : String)
    (managedSlaves : Bool) : P (s.rollbackAttach br veth managedSlaves) := by
  unfold NetworkActor.rollbackAttach
  cases hbr : s.bridge br with
  | none => exact hs
  | some state => exact h.release hs hbr veth managedSlaves

theorem handleAttach (h : Kept pkgHash10 P) (hs : P s) (msg : Attach) (env : AttachEnv) :
    P (s.handleAttach pkgHash10 msg env).actor := by
  have halloc := h.allocateContainerIp hs msg.bridgeId (vethHostName pkgHash10 msg.pkg)
    env.managedSlaves
  rcases s.handleAttach_cases pkgHash10 msg env with
    ⟨hsame, -⟩ | ⟨e, hfail, -⟩ | ⟨subnet, ip, s', -, hok, -, ⟨-, hdone⟩ | ⟨-, hback⟩⟩
  · rw [hsame]
    exact hs
  · rw [hfail] at halloc
    exact halloc
  · rw [hok] at halloc
    rw [hdone]
    exact halloc
  · rw [hok] at halloc
    rw [hback]
    exact h.rollbackAttach halloc _ _ _

theorem handleDetach (h : Kept pkgHash10 P) (hs : P s) (msg : Detach) (env : DetachEnv) :
    P (s.handleDetach pkgHash10 msg env) := by
  simp only [NetworkActor.handleDetach]
  by_cases hdel : env.vethDeleted = true
  · rw [if_pos hdel]
    cases hbr : s.bridge (bridgeName pkgHash10 msg.bridgeId) with
    | none => exact hs
    | some state => exact h.release hs hbr _ env.managedSlaves
  · rw [if_neg hdel]
    exact hs

/-- What the three keep, every message keeps. -/
theorem handle (h : Kept pkgHash10 P) (hs : P s) (m : Message) : P (s.handle pkgHash10 m) := by
  cases m with
  | attach msg env => exact h.handleAttach hs msg env
  | detach msg env => exact h.handleDetach hs msg env

end Kept

end Network

end Ssam
