import Ssam.Network.Effects

/-!
# Bridges and Their Subnets

The subnet of a live bridge is recorded twice: in the bridge's own address
allocator and, under the bridge's name, in the pool's subnet allocator.
`SubnetsAgree` says the two copies are the same, and `Isolated` adds what the
agreement is for: the subnets of two bridges share no address, and no two
attachments hold one address.

Every message keeps the agreement. Of the restore, one branch does not: a claim
that the pool accepts moves the bridge to the subnet it names, while a bridge
that is already live keeps the allocator it has. `Repoints` is that branch, read
off the state before the claim, and `always_isolated_iff` says that a run stays
isolated exactly when no entry of its restore plan takes it.

## Main definitions

* `SubnetsAgree`: Both copies of every live bridge's subnet are the same.
* `Isolated`: The copies agree, subnets are disjoint, addresses are distinct.
* `Repoints`: A claim that moves a live bridge to another subnet.
* `KeepsSubnets`: The event does not repoint a bridge.

## Theorems

* `next_agree_iff`: A step keeps the agreement exactly when it repoints nothing.
* `SubnetsAgree.disjoint`: Agreement keeps the subnets of two bridges apart.
* `SubnetsAgree.distinct`: Agreement keeps the addresses of two veths apart.
* `always_isolated_iff`: The exact condition on the entries of a plan.
* `two_subnets_not_isolated`: A plan that names one bridge with two subnets.
-/

namespace Ssam

namespace Network

open Lib

/-- Both records of every live bridge's subnet are the same. -/
def SubnetsAgree (s : NetworkActor) : Prop :=
  ∀ br state, s.bridge br = some state →
    s.subnets.get br = some state.subnet.network ∧
      state.subnet.prefixLen = s.subnets.subnetPrefix

/-- The subnets of two live bridges share no address. -/
def DisjointSubnets (s : NetworkActor) : Prop :=
  ∀ br other state state', s.bridge br = some state → s.bridge other = some state' →
    br ≠ other → ∀ ip, ¬ (state.subnet.Contains ip ∧ state'.subnet.Contains ip)

/-- No two attachments hold one address. -/
def DistinctIps (s : NetworkActor) : Prop :=
  ∀ br veth br' veth' ip, s.ipOf br veth = some ip → s.ipOf br' veth' = some ip →
    (br, veth) = (br', veth')

/-- The records agree, and what follows from it. -/
structure Isolated (s : NetworkActor) : Prop where
  agree : SubnetsAgree s
  disjoint : DisjointSubnets s
  distinct : DistinctIps s

/-- The pool accepts the claim, and the bridge is live on another subnet. -/
def Repoints (s : NetworkActor) (br : String) (subnet : Ipv4Net) : Prop :=
  (∃ subnets, s.subnets.claim br subnet = .ok subnets) ∧
    ∃ state, s.bridge br = some state ∧ state.subnet.network ≠ subnet.network

/-- The event does not repoint a live bridge. -/
def KeepsSubnets (s : NetworkActor) : Event → Prop
  | .claim att => ¬ Repoints s att.br att.subnet
  | .reserve ip _ master =>
      (master.bind s.bridge).isNone = true →
        ¬ Repoints s (SubnetAllocator.reservedId (s.subnets.slotOf ip)) (s.subnets.slotOf ip)
  | .message _ => True

/-- Only a live bridge can be repointed. -/
theorem not_repoints_of_dead {s : NetworkActor} {br : String} {subnet : Ipv4Net}
    (hbr : s.bridge br = none) : ¬ Repoints s br subnet := by
  rintro ⟨-, state, hst, -⟩
  rw [hbr] at hst
  exact absurd hst (by simp only [reduceCtorEq, not_false_eq_true])

/-! ### What the agreement is for -/

/-- A held address lies strictly between the ends of its subnet. -/
theorem host_of_ipFor {state : BridgeIpAllocator} {veth : String} {ip : Ipv4Addr}
    (hlen : state.subnet.prefixLen ≤ 30) (h : state.ipFor veth = some ip) :
    state.subnet.network < ip ∧ ip < state.subnet.broadcast := by
  rcases state.usable h with ⟨hlo, hhi⟩
  refine ⟨?_, hhi⟩
  rw [UInt32.le_iff_toNat_le, UInt32.toNat_add] at hlo
  have hend := Ipv4Net.slot_end_le state.subnet state.subnet.addr
  have hsize : 2 ^ 2 ≤ state.subnet.size := Nat.pow_le_pow_right (by omega) (by omega)
  have hone : (1 : UInt32).toNat = 1 := by decide
  rw [← Ipv4Net.network_toNat] at hend
  rw [UInt32.lt_iff_toNat_lt]
  -- The first host is the network plus one: a slot of four does not wrap.
  omega

theorem contains_of_ipFor {state : BridgeIpAllocator} {veth : String} {ip : Ipv4Addr}
    (hlen : state.subnet.prefixLen ≤ 30) (h : state.ipFor veth = some ip) :
    state.subnet.Contains ip := by
  rcases host_of_ipFor hlen h with ⟨hlo, hhi⟩
  rw [UInt32.lt_iff_toNat_lt] at hlo hhi
  rw [Ipv4Net.Contains, UInt32.le_iff_toNat_le, UInt32.le_iff_toNat_le]
  exact ⟨Nat.le_of_lt hlo, Nat.le_of_lt hhi⟩

namespace SubnetsAgree

theorem disjoint {s : NetworkActor} (h : SubnetsAgree s) : DisjointSubnets s := by
  intro br other state state' hbr hother hne
  rcases h br state hbr with ⟨hget, hlen⟩
  rcases h other state' hother with ⟨hget', hlen'⟩
  refine Ipv4Net.disjoint_of_network_ne ?_ fun hnet => hne ?_
  · rw [Ipv4Net.size, Ipv4Net.size, hlen, hlen']
  · rw [hnet] at hget
    exact s.subnets.get_inj hget hget'

theorem distinct {s : NetworkActor} (h : SubnetsAgree s) (hslot : s.subnets.subnetPrefix ≤ 30) :
    DistinctIps s := by
  intro br veth br' veth' ip hip hip'
  rcases ipOf_eq_some.mp hip with ⟨state, hbr, hfor⟩
  rcases ipOf_eq_some.mp hip' with ⟨state', hbr', hfor'⟩
  by_cases hne : br = br'
  · subst hne
    rw [hbr, Option.some.injEq] at hbr'
    subst hbr'
    rw [state.ipFor_inj hfor hfor']
  · have hin := contains_of_ipFor (by rw [(h br state hbr).2]; exact hslot) hfor
    have hin' := contains_of_ipFor (by rw [(h br' state' hbr').2]; exact hslot) hfor'
    exact absurd ⟨hin, hin'⟩ (h.disjoint br br' state state' hbr hbr' hne ip)

theorem isolated {s : NetworkActor} (h : SubnetsAgree s)
    (hslot : s.subnets.subnetPrefix ≤ 30) : Isolated s :=
  ⟨h, h.disjoint, h.distinct hslot⟩

/-! ### Messages keep the agreement -/

/-- Updating the addresses of a live bridge keeps its subnet. -/
theorem setBridge {s : NetworkActor} (h : SubnetsAgree s) {br : String}
    {state state' : BridgeIpAllocator} (hbr : s.bridge br = some state)
    (hsub : state'.subnet = state.subnet) : SubnetsAgree (s.setBridge br state') := by
  intro a st hst
  rw [NetworkActor.bridge_setBridge] at hst
  rw [NetworkActor.subnets_setBridge]
  by_cases ha : a = br
  · rw [if_pos ha, Option.some.injEq] at hst
    rw [← hst, ha, hsub]
    exact h br state hbr
  · rw [if_neg ha] at hst
    exact h a st hst

/-- Destroying a bridge drops both records at once. -/
theorem destroyBridge {s : NetworkActor} (h : SubnetsAgree s) (br : String)
    (managedSlaves : Bool) : SubnetsAgree (s.destroyBridge br managedSlaves) := by
  intro a st hst
  rw [NetworkActor.bridge_destroyBridge] at hst
  rw [NetworkActor.subnets_destroyBridge,
    SubnetAllocator.subnetPrefix_of_grid (s.grid_destroyBridge br managedSlaves)]
  by_cases hd : managedSlaves = false ∧ a = br
  · rw [if_pos hd] at hst
    exact absurd hst (by simp only [reduceCtorEq, not_false_eq_true])
  · rw [if_neg hd] at hst
    rw [if_neg hd]
    exact h a st hst

theorem ensureBridge {s s' : NetworkActor} (h : SubnetsAgree s) {br : String}
    {state : BridgeIpAllocator} (he : s.ensureBridge br = .ok (state, s')) :
    SubnetsAgree s' ∧ s'.bridge br = some state := by
  unfold NetworkActor.ensureBridge at he
  cases hbr : s.bridge br with
  | some st =>
      simp only [hbr, Except.ok.injEq, Prod.mk.injEq] at he
      rcases he with ⟨rfl, rfl⟩
      exact ⟨h, hbr⟩
  | none =>
      simp only [hbr] at he
      cases halloc : s.subnets.allocate br with
      | error e =>
          simp only [halloc] at he
          exact absurd he (by simp only [reduceCtorEq, not_false_eq_true])
      | ok r =>
          rcases r with ⟨subnet, subnets⟩
          simp only [halloc, Except.ok.injEq, Prod.mk.injEq] at he
          rcases he with ⟨rfl, rfl⟩
          rcases SubnetAllocator.allocate_spec halloc with ⟨hgrid, hlen, hget⟩
          refine ⟨fun a st hst => ?_, by rw [NetworkActor.bridge_setBridge, if_pos rfl]⟩
          rw [NetworkActor.bridge_setBridge] at hst
          rw [NetworkActor.subnets_setBridge]
          simp only [hget a, SubnetAllocator.subnetPrefix_of_grid hgrid]
          -- The new record has the slot the pool has just recorded, and the others are as before.
          by_cases ha : a = br
          · rw [if_pos ha, Option.some.injEq] at hst
            rw [if_pos ha, ← hst]
            exact ⟨rfl, hlen⟩
          · rw [if_neg ha] at hst
            rw [if_neg ha]
            exact h a st hst

/-- Every message keeps the agreement. -/
theorem kept (pkgHash10 : String → String) : Kept pkgHash10 SubnetsAgree where
  ensureBridge h he := (h.ensureBridge he).1
  setBridge h hbr hsub := h.setBridge hbr hsub
  destroyBridge br managedSlaves h := h.destroyBridge br managedSlaves

end SubnetsAgree

/-! ### The restore -/

/-- After the pool has accepted a claim, the records agree unless the claim has
    moved a live bridge. -/
theorem agree_claim_iff {s : NetworkActor} (h : SubnetsAgree s) {br : String} {subnet : Ipv4Net}
    {subnets : SubnetAllocator} (hc : s.subnets.claim br subnet = .ok subnets) :
    SubnetsAgree { s with subnets := subnets } ↔ ¬ Repoints s br subnet := by
  rcases SubnetAllocator.claim_spec hc with ⟨hgrid, hlen, hget, -⟩
  constructor
  · rintro h' ⟨-, state, hbr, hne⟩
    have hnet := (h' br state hbr).1
    simp only [hget br, if_true, Option.some.injEq] at hnet
    exact hne hnet.symm
  · intro hno a st hst
    rcases h a st hst with ⟨hold, hlen'⟩
    simp only [hget a, SubnetAllocator.subnetPrefix_of_grid hgrid]
    by_cases ha : a = br
    · subst ha
      rw [if_pos rfl]
      have hnet : st.subnet.network = subnet.network := by
        by_contra hne
        exact hno ⟨⟨subnets, hc⟩, st, hst, hne⟩
      exact ⟨by rw [hnet], hlen'⟩
    · rw [if_neg ha]
      exact ⟨hold, hlen'⟩

/-- A live bridge's allocator may be replaced by one over the same subnet. -/
theorem agree_setBridge_iff {s : NetworkActor} {br : String} {state state' : BridgeIpAllocator}
    (hbr : s.bridge br = some state) (hsub : state'.subnet = state.subnet) :
    SubnetsAgree (s.setBridge br state') ↔ SubnetsAgree s := by
  refine ⟨fun h => ?_, fun h => h.setBridge hbr hsub⟩
  have hback := h.setBridge (by rw [NetworkActor.bridge_setBridge, if_pos rfl]) hsub.symm
  intro a st hst
  refine hback a st ?_
  simp only [NetworkActor.bridge_setBridge]
  by_cases ha : a = br
  · rw [if_pos ha, ← hbr, ← ha, hst]
  · rw [if_neg ha, if_neg ha, hst]

/-- A bridge that was not live joins on the subnet the pool holds for it. -/
theorem SubnetsAgree.join {s : NetworkActor} {br : String} {subnet : Ipv4Net}
    {subnets : SubnetAllocator} {state : BridgeIpAllocator} (h : SubnetsAgree s)
    (hc : s.subnets.claim br subnet = .ok subnets) (hsub : state.subnet = subnet) :
    SubnetsAgree ({ s with subnets := subnets }.setBridge br state) := by
  rcases SubnetAllocator.claim_spec hc with ⟨hgrid, hlen, hget, -⟩
  intro a st hst
  rw [NetworkActor.bridge_setBridge] at hst
  rw [NetworkActor.subnets_setBridge]
  simp only [hget a, SubnetAllocator.subnetPrefix_of_grid hgrid]
  by_cases ha : a = br
  · rw [if_pos ha, Option.some.injEq] at hst
    rw [if_pos ha, ← hst, hsub]
    exact ⟨rfl, hlen⟩
  · rw [if_neg ha] at hst
    rw [if_neg ha]
    exact h a st hst

theorem claimRestoredAttach_agree_iff {s : NetworkActor} (h : SubnetsAgree s)
    (att : RestoredAttach) :
    SubnetsAgree (s.claimRestoredAttach att) ↔ ¬ Repoints s att.br att.subnet := by
  unfold NetworkActor.claimRestoredAttach
  cases hc : s.subnets.claim att.br att.subnet with
  | error e =>
      refine iff_of_true h fun hre => ?_
      rcases hre with ⟨⟨subnets, hok⟩, -⟩
      rw [hc] at hok
      exact absurd hok (by simp only [reduceCtorEq, not_false_eq_true])
  | ok subnets =>
      simp only []
      cases hbr : s.bridge att.br with
      | some state =>
          simp only [Option.getD_some]
          -- The bridge is live: whatever becomes of the address, the pool's
          -- record has moved and the bridge's own has not.
          rw [← agree_claim_iff h hc]
          cases hip : state.claim att.veth att.ip with
          | error e => exact agree_setBridge_iff hbr rfl
          | ok state' => exact agree_setBridge_iff hbr (BridgeIpAllocator.claim_spec hip).1
      | none =>
          simp only [Option.getD_none]
          have hno : ¬ Repoints s att.br att.subnet := not_repoints_of_dead hbr
          cases hip : (BridgeIpAllocator.new att.subnet).claim att.veth att.ip with
          | error e => exact iff_of_true (h.join hc rfl) hno
          | ok state' => exact iff_of_true (h.join hc (BridgeIpAllocator.claim_spec hip).1) hno

theorem reserveIp_agree_iff {s : NetworkActor} (h : SubnetsAgree s) (ip : Ipv4Addr)
    (veth : String) (master : Option String) :
    SubnetsAgree (s.reserveIp ip veth master) ↔ KeepsSubnets s (.reserve ip veth master) := by
  unfold NetworkActor.reserveIp KeepsSubnets
  cases hm : master.bind fun br => (s.bridge br).map fun alloc => (br, alloc) with
  | some r =>
      rcases r with ⟨br, alloc⟩
      rcases bridge_of_master hm with ⟨hmaster, hbr⟩
      -- The master is in use, so the pool is not asked.
      have hlive : ¬ (master.bind s.bridge).isNone = true := by
        rw [hmaster, Option.bind_some, hbr]
        exact Bool.false_ne_true
      simp only []
      cases hip : alloc.claim veth ip with
      | error e => exact iff_of_true h fun hnone => absurd hnone hlive
      | ok state' =>
          exact iff_of_true (h.setBridge hbr (BridgeIpAllocator.claim_spec hip).1)
            fun hnone => absurd hnone hlive
  | none =>
      -- No master in use: the slot is claimed in the pool.
      have hdead : (master.bind s.bridge).isNone = true := by
        rw [Option.isNone_iff_eq_none, Option.bind_eq_none_iff]
        intro br hmaster
        exact Option.map_eq_none_iff.mp (Option.bind_eq_none_iff.mp hm br hmaster)
      simp only [hdead, forall_true_left]
      unfold SubnetAllocator.reserveContaining
      cases hc : s.subnets.claim (SubnetAllocator.reservedId (s.subnets.slotOf ip))
          (s.subnets.slotOf ip) with
      | ok subnets => exact agree_claim_iff h hc
      | error e =>
          refine iff_of_true h fun hre => ?_
          rcases hre with ⟨⟨subnets, hok⟩, -⟩
          rw [hc] at hok
          exact absurd hok (by simp only [reduceCtorEq, not_false_eq_true])

section Runs

variable (pkgHash10 : String → String)

theorem SubnetsAgree.handle {s : NetworkActor} (h : SubnetsAgree s) (m : Message) :
    SubnetsAgree (s.handle pkgHash10 m) := (SubnetsAgree.kept pkgHash10).handle h m

/-- A step keeps the agreement exactly when it repoints no live bridge. -/
theorem next_agree_iff {s : NetworkActor} (h : SubnetsAgree s) (e : Event) :
    SubnetsAgree (next pkgHash10 s e) ↔ KeepsSubnets s e := by
  cases e with
  | claim att => exact claimRestoredAttach_agree_iff h att
  | reserve ip veth master => exact reserveIp_agree_iff h ip veth master
  | message m => exact iff_of_true (h.handle pkgHash10 m) trivial

/-- A fresh actor has no bridge to disagree about. -/
theorem agree_new {config : BridgeConfig} {s : NetworkActor}
    (h : NetworkActor.new config = .ok s) : SubnetsAgree s := by
  intro br state hbr
  rw [NetworkActor.bridge, (NetworkActor.new_eq_ok h).1] at hbr
  exact absurd hbr (by simp only [HashMap.get_empty, reduceCtorEq, not_false_eq_true])

/-- A validated configuration leaves every subnet a usable host. -/
theorem subnetPrefix_new {config : BridgeConfig} {s : NetworkActor}
    (hv : config.validate = .ok ()) (h : NetworkActor.new config = .ok s) :
    s.subnets.subnetPrefix ≤ 30 := by
  rw [(NetworkActor.new_eq_ok h).2.2.2]
  exact BridgeConfig.size_le_of_validate hv

theorem along_messages (s : NetworkActor) (msgs : List Message) :
    Along (step pkgHash10) KeepsSubnets s (msgs.map Event.message) := by
  induction msgs generalizing s with
  | nil => trivial
  | cons m msgs ih => exact fun t _ => ⟨trivial, ih t⟩

/-- From a fresh actor, a run that restores a plan and then takes any messages
    stays isolated throughout exactly when no entry of the plan repoints a live
    bridge. -/
theorem always_isolated_iff {config : BridgeConfig} {s : NetworkActor}
    (hv : config.validate = .ok ()) (hnew : NetworkActor.new config = .ok s)
    (plan : List RestoreEntry) (msgs : List Message) :
    exec (step pkgHash10) s (planEvents plan) = some (s.applyRestorePlan plan) ∧
      (Always (step pkgHash10) Isolated s (planEvents plan ++ msgs.map Event.message) ↔
        Along (step pkgHash10) KeepsSubnets s (planEvents plan)) := by
  refine ⟨exec_planEvents pkgHash10 plan s, ?_⟩
  have hslot : ∀ s e t, s.subnets.subnetPrefix ≤ 30 → step pkgHash10 s e = some t →
      t.subnets.subnetPrefix ≤ 30 := by
    intro s e t hs ht
    rw [← Option.some.inj ht, SubnetAllocator.subnetPrefix_of_grid (next_grid pkgHash10 s e)]
    exact hs
  have hisolated : ∀ s : NetworkActor, s.subnets.subnetPrefix ≤ 30 →
      (Isolated s ↔ SubnetsAgree s) :=
    fun s hs => ⟨fun h => h.agree, fun h => h.isolated hs⟩
  -- A step keeps the agreement exactly if the event does.
  have hstep : ∀ s e t, SubnetsAgree s → step pkgHash10 s e = some t →
      (SubnetsAgree t ↔ KeepsSubnets s e) := by
    intro s e t hs ht
    rw [← Option.some.inj ht]
    exact next_agree_iff pkgHash10 hs e
  rw [always_congr hslot hisolated (subnetPrefix_new hv hnew),
    always_iff_along hstep (agree_new hnew), along_append]
  exact and_iff_left fun t _ => along_messages pkgHash10 t msgs

end Runs

/-- The default pool, with /29 subnets. -/
def poolConfig : BridgeConfig where
  base := ⟨0xac140000, 16, by decide⟩
  size := 29

/-- The digests of the package names used below. -/
def sampleHash (pkg : String) : String :=
  if pkg = "a" then "ca978112ca" else if pkg = "b" then "3e23e81600" else "2e7d2c03a9"

/-- One container on its bridge. -/
def oneSubnetPlan : List RestoreEntry :=
  [.attach ⟨"ssb-ca978112ca", ⟨0xac140000, 29, by decide⟩, "ssam-ca978112ca", 0xac140001⟩]

/-- Two containers on one bridge, with addresses from two subnets. -/
def twoSubnetsPlan : List RestoreEntry :=
  oneSubnetPlan ++
    [.attach ⟨"ssb-ca978112ca", ⟨0xac140008, 29, by decide⟩, "ssam-3e23e81600", 0xac140009⟩]

/-- A host with neither link nor namespace, on which setup succeeds. -/
def freshHost : AttachEnv where
  vethExists := false
  nsExists := false
  nsPathUtf8 := true
  setup := .ok
  managedSlaves := false

theorem always_isolated_one_subnet : ∃ s, NetworkActor.new poolConfig = .ok s ∧
    Always (step sampleHash) Isolated s
      (planEvents oneSubnetPlan ++ [Message.attach ⟨"b", "b", "eth0"⟩ freshHost].map .message) := by
  have hv : poolConfig.validate = .ok () := by decide
  exact ⟨_, rfl, (always_isolated_iff sampleHash hv rfl oneSubnetPlan _).2.mpr
    fun t _ => ⟨not_repoints_of_dead rfl, trivial⟩⟩

/-- A plan that names one bridge with two subnets leaves the bridge on the
    first and the pool on the second, and the next bridge is given the first:
    its container gets an address that is in use. -/
theorem two_subnets_not_isolated : poolConfig.validate = .ok () ∧
    ∃ s, NetworkActor.new poolConfig = .ok s ∧
      ¬ SubnetsAgree (s.applyRestorePlan twoSubnetsPlan) ∧
      ¬ DistinctIps ((s.applyRestorePlan twoSubnetsPlan).handle sampleHash
        (.attach ⟨"c", "c", "eth0"⟩ freshHost)) := by
  refine ⟨by decide, _, rfl, fun h => ?_, fun h => ?_⟩
  · have hbr := (h "ssb-ca978112ca" _ rfl).1
    exact absurd hbr (by decide)
  · have heq := h "ssb-ca978112ca" "ssam-ca978112ca" "ssb-2e7d2c03a9" "ssam-2e7d2c03a9"
      0xac140001 (by decide) (by decide)
    exact absurd heq (by decide)

end Network

end Ssam
