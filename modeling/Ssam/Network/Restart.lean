import Ssam.Network.Leaks
import Ssam.Network.Survivor

/-!
# Restarts of the Daemon

The actor's maps are in the memory of the daemon, the namespaces and the veths are not.
When the daemon starts it reads from the host what there is, claims it in a fresh actor,
and deletes the veths whose namespace has gone.

What is read was once allocated, by one actor in one state: so none of the claims is in
the way of another, in whatever order they are made. `Below` says that the actor has only
made claims of that state, and every further one is accepted. A daemon that dies while it
handles a message leaves a veth that its actor has an address for, even if the message
would have released it again.

## Main definitions

* `HostScan`: What is read when the daemon starts.
* `restoreFromHost`: The actor that comes of it.
* `DaemonEvent`, `daemonStep`: A message, an end in order, or a death at one, and a start.
* `Below`: The actor has claims of another one only.
* `Reads`: The veths that are left have been read.

## Theorems

* `takes_of_below`: A claim of the other actor is accepted.
* `restored_of_recalls`: What a plan of such claims restores.
* `exists_marking`: What is left by a message was allocated by an actor.
* `addresses_kept_over_restarts`: The addresses are kept.
-/

namespace Ssam

namespace Network

open Lib Function

section Claims

/-- A host of the subnet that nobody else has can be claimed. -/
theorem BridgeIpAllocator.exists_claim {b : BridgeIpAllocator} {netid : String} {ip : Ipv4Addr}
    (hip : b.subnet.network + 1 ≤ ip ∧ ip < b.subnet.broadcast)
    (hfree : ∀ other, b.ipFor other = some ip → other = netid) :
    ∃ b', b.claim netid ip = .ok b' := by
  have husable : b.isUsable ip = true := decide_eq_true hip
  rcases (SlotAllocator.claim_eq_ok b.slots netid ip).mpr hfree with ⟨slots, hslots⟩
  unfold BridgeIpAllocator.claim
  rw [dif_pos husable]
  split
  · rename_i owner howner
    rw [hslots] at howner
    cases howner
  · exact ⟨_, rfl⟩

/-- So can the slot another pool of the same grid holds for the bridge. -/
theorem SubnetAllocator.exists_claim {a b : SubnetAllocator} (hgrid : a.grid = b.grid)
    (hslots : ∀ id key, a.get id = some key → b.get id = some key) {br : String} {ip : Ipv4Addr}
    (hget : b.get br = some (b.slotOf ip).network) :
    ∃ a', a.claim br (b.slotOf ip) = .ok a' := by
  have hpool : a.pool = b.pool := congrArg Prod.fst hgrid
  have hlen : a.subnetPrefix = b.subnetPrefix := congrArg Prod.snd hgrid
  have hsize : (b.slotOf ip).prefixLen = a.subnetPrefix := hlen.symm
  have hslot := b.isSlot hget
  have hfits : a.pool.network ≤ (b.slotOf ip).network ∧ a.fits (b.slotOf ip).network = true := by
    rw [SubnetAllocator.fits, SubnetAllocator.step, hpool, hlen]
    exact ⟨hslot.lower, decide_eq_true hslot.upper⟩
  have hfree : ∀ other, a.slots.get other = some (b.slotOf ip).network → other = br :=
    fun other hother => b.get_inj (hslots other _ hother) hget
  rcases (SlotAllocator.claim_eq_ok a.slots br _).mpr hfree with ⟨slots, hclaim⟩
  unfold SubnetAllocator.claim
  rw [dif_pos hsize, dif_pos hfits]
  split
  · rename_i owner howner
    rw [hclaim] at howner
    cases howner
  · exact ⟨_, rfl⟩

end Claims

section Below

/-- What `t` has claimed is as it is in `s`. -/
structure Below (t s : NetworkActor) : Prop where
  grid : t.grid = s.grid
  slots : ∀ id key, t.subnets.get id = some key → s.subnets.get id = some key
  ips : ∀ br veth ip, t.ipOf br veth = some ip → s.ipOf br veth = some ip

/-- The attach is one of `s`: its address, on the slot of the address. -/
structure Recalls (s : NetworkActor) (att : RestoredAttach) : Prop where
  ip : s.ipOf att.br att.veth = some att.ip
  subnet : att.subnet = s.subnets.slotOf att.ip
  managed : isManagedBridge att.br = true

variable {s t : NetworkActor} {att : RestoredAttach}

/-- An address lies in the slot that the pool holds for its bridge. -/
theorem slot_of_ipOf (hagree : SubnetsAgree s) (hlen : s.subnets.subnetPrefix ≤ 30)
    {br veth : String} {ip : Ipv4Addr} (h : s.ipOf br veth = some ip) :
    ∃ state, s.bridge br = some state ∧ state.ipFor veth = some ip ∧
      s.subnets.get br = some (s.subnets.slotOf ip).network ∧
      (s.subnets.slotOf ip).network = state.subnet.network ∧
      (s.subnets.slotOf ip).broadcast = state.subnet.broadcast := by
  rcases ipOf_eq_some.mp h with ⟨state, hbr, hfor⟩
  rcases hagree br state hbr with ⟨hget, hsize⟩
  have hin := contains_of_ipFor (by rw [hsize]; exact hlen) hfor
  rcases slotOf_of_contains hsize hin with ⟨hnet, hend⟩
  exact ⟨state, hbr, hfor, by rw [hget, hnet], hnet, hend⟩

/-- A claim of the other actor is accepted, and does not move a bridge. -/
theorem takes_of_below (hs : SubnetsAgree s) (hlen : s.subnets.subnetPrefix ≤ 30)
    (ht : SubnetsAgree t) (h : Below t s) (hrec : Recalls s att) :
    TakesAddress t att ∧ ¬ Repoints t att.br att.subnet := by
  rcases slot_of_ipOf hs hlen hrec.ip with ⟨state, hbr, hfor, hget, hnet, hend⟩
  have hlive {st : BridgeIpAllocator} (hst : t.bridge att.br = some st) :
      st.subnet.network = state.subnet.network ∧ st.subnet.prefixLen = state.subnet.prefixLen := by
    rcases ht att.br st hst with ⟨hkey, hsize⟩
    have hkey' := h.slots att.br _ hkey
    rw [hget, hnet, Option.some.injEq] at hkey'
    refine ⟨hkey'.symm, ?_⟩
    rw [hsize, (hs att.br state hbr).2]
    exact congrArg Prod.snd h.grid
  have husable := state.usable hfor
  refine ⟨⟨?_, ?_⟩, ?_⟩
  · rw [hrec.subnet]
    exact SubnetAllocator.exists_claim h.grid h.slots hget
  · cases hst : t.bridge att.br with
    | none =>
        refine BridgeIpAllocator.exists_claim ?_ fun other hother => ?_
        · rw [Option.getD_none, BridgeIpAllocator.new_subnet, hrec.subnet, hnet, hend]
          exact husable
        · cases hother
    | some st =>
        rcases hlive hst with ⟨hsame, hsize⟩
        have hbroadcast : st.subnet.broadcast = state.subnet.broadcast := by
          rw [← UInt32.toNat_inj, Ipv4Net.broadcast_toNat, Ipv4Net.broadcast_toNat, hsame,
            Ipv4Net.size, Ipv4Net.size, hsize]
        refine BridgeIpAllocator.exists_claim ?_ fun other hother => ?_
        · rw [Option.getD_some, hsame, hbroadcast]
          exact husable
        · have hip := h.ips att.br other att.ip (by rw [ipOf_of_bridge hst]; exact hother)
          rw [ipOf_of_bridge hbr] at hip
          exact state.ipFor_inj hip hfor
  · rintro ⟨-, st, hst, hne⟩
    rw [(hlive hst).1, hrec.subnet, hnet] at hne
    exact hne rfl

/-- What is in the pool after it. -/
theorem get_claimRestoredAttach (h : TakesAddress t att) :
    (t.claimRestoredAttach att).subnets.get att.br = some att.subnet.network := by
  rcases h with ⟨⟨subnets, hc⟩, state, hip⟩
  simp only [NetworkActor.claimRestoredAttach, hc, hip, NetworkActor.subnets_setBridge]
  rw [(SubnetAllocator.claim_spec hc).2.2.1, if_pos rfl]

/-- It is another of its claims. -/
theorem below_claim (hs : SubnetsAgree s) (hlen : s.subnets.subnetPrefix ≤ 30)
    (ht : SubnetsAgree t) (h : Below t s) (hrec : Recalls s att) :
    Below (t.claimRestoredAttach att) s := by
  have htouch := claimRestoredAttach_touches t att
  rcases takes_of_below hs hlen ht h hrec with ⟨htakes, hstays⟩
  refine ⟨htouch.grid.trans h.grid, fun id key hkey => ?_, fun br veth ip hip => ?_⟩
  · by_cases hid : id = att.br
    · rw [hid, get_claimRestoredAttach htakes, hrec.subnet] at hkey
      rcases slot_of_ipOf hs hlen hrec.ip with ⟨-, -, -, hget, -⟩
      rw [hid, ← hkey]
      exact hget
    · rw [htouch.slot id hid] at hkey
      exact h.slots id key hkey
  · by_cases hnamed : br = att.br ∧ veth = att.veth
    · rw [hnamed.1, hnamed.2, (ipOf_claimRestoredAttach t att).1 htakes] at hip
      rw [hnamed.1, hnamed.2, ← hip]
      exact hrec.ip
    · rw [htouch.ipOf br veth hnamed] at hip
      exact h.ips br veth ip hip

/-- What it has claimed stays. -/
theorem ipOf_claim (hs : SubnetsAgree s) (hlen : s.subnets.subnetPrefix ≤ 30)
    (ht : SubnetsAgree t) (h : Below t s) (hrec : Recalls s att) {br veth : String}
    {ip : Ipv4Addr} (hip : t.ipOf br veth = some ip) :
    (t.claimRestoredAttach att).ipOf br veth = some ip := by
  by_cases hnamed : br = att.br ∧ veth = att.veth
  · -- The veth has one address in `s`, so it is claimed again.
    have hsame := h.ips br veth ip hip
    rw [hnamed.1, hnamed.2, hrec.ip, Option.some.injEq] at hsame
    rw [hnamed.1, hnamed.2, (ipOf_claimRestoredAttach t att).1 (takes_of_below hs hlen ht h hrec).1,
      hsame]
  · rw [(claimRestoredAttach_touches t att).ipOf br veth hnamed, hip]

theorem bridge_claimRestoredAttach_of_ne {br : String} (hbr : br ≠ att.br) :
    (t.claimRestoredAttach att).bridge br = t.bridge br := by
  unfold NetworkActor.claimRestoredAttach
  cases t.subnets.claim att.br att.subnet with
  | error e => rfl
  | ok subnets =>
      dsimp only
      cases ((t.bridge att.br).getD (BridgeIpAllocator.new att.subnet)).claim att.veth att.ip with
      | error e => rw [NetworkActor.bridge_setBridge, if_neg hbr]; rfl
      | ok state => rw [NetworkActor.bridge_setBridge, if_neg hbr]; rfl

end Below

section Plans

/-- The records of an actor agree, and its bridges are the daemon's. -/
structure Sane (t : NetworkActor) : Prop where
  agree : SubnetsAgree t
  managed : ∀ br, t.bridge br ≠ none → isManagedBridge br = true

variable {s t : NetworkActor}

theorem Sane.claim {att : RestoredAttach} (h : Sane t) (hmanaged : isManagedBridge att.br = true)
    (hstays : ¬ Repoints t att.br att.subnet) : Sane (t.claimRestoredAttach att) := by
  refine ⟨(claimRestoredAttach_agree_iff h.agree att).mpr hstays, fun br hbr => ?_⟩
  by_cases hsame : br = att.br
  · rw [hsame]
    exact hmanaged
  · rw [bridge_claimRestoredAttach_of_ne hsame] at hbr
    exact h.managed br hbr

theorem Sane.reserve (h : Sane t) (ip : Ipv4Addr) (veth : String) (master : Option String) :
    Sane (t.reserveIp ip veth master) := by
  constructor
  · refine (reserveIp_agree_iff h.agree ip veth master).mpr fun _ => not_repoints_of_dead ?_
    by_contra hlive
    have hmanaged := not_reserved_of_managed (h.managed _ hlive)
    rw [reserved_reservedId] at hmanaged
    cases hmanaged
  · intro br hbr
    refine h.managed br fun hnone => hbr ?_
    -- A reserve makes no bridge live.
    unfold NetworkActor.reserveIp
    cases hm : master.bind fun br => (t.bridge br).map fun alloc => (br, alloc) with
    | none => exact hnone
    | some r =>
        rcases r with ⟨br', alloc⟩
        have hlive := (bridge_of_master hm).2
        dsimp only
        cases alloc.claim veth ip with
        | error e => exact hnone
        | ok alloc' =>
            have hne : br ≠ br' := by
              rintro rfl
              rw [hnone] at hlive
              cases hlive
            rw [NetworkActor.bridge_setBridge, if_neg hne, hnone]

/-- The reserves of a plan leave the address of every other veth. -/
theorem kept_of_reserves (reserves : List (Ipv4Addr × String × Option String)) (h : Sane t) :
    Sane (reserves.foldl (fun t r => t.reserveIp r.1 r.2.1 r.2.2) t) ∧
      ∀ br veth, (∀ r ∈ reserves, r.2.1 ≠ veth) →
        (reserves.foldl (fun t r => t.reserveIp r.1 r.2.1 r.2.2) t).ipOf br veth =
          t.ipOf br veth := by
  induction reserves generalizing t with
  | nil => exact ⟨h, fun _ _ _ => rfl⟩
  | cons r reserves ih =>
      rcases ih (h.reserve r.1 r.2.1 r.2.2) with ⟨hsane, hkept⟩
      refine ⟨hsane, fun br veth hother => ?_⟩
      rw [List.foldl_cons, hkept br veth fun r' hr' => hother r' (List.mem_cons_of_mem r hr')]
      exact (reserveIp_touches t r.1 r.2.1 r.2.2).ipOf br veth fun hnamed =>
        hother r List.mem_cons_self hnamed.2.symm

/-- The attaches of a plan, taken one after the other, and what is left to be reserved. -/
theorem taken_of_recalls (hs : SubnetsAgree s) (hlen : s.subnets.subnetPrefix ≤ 30)
    {plan : List RestoreEntry} (hplan : ∀ att, .attach att ∈ plan → Recalls s att)
    (hsane : Sane t) (h : Below t s) (reserves : List (Ipv4Addr × String × Option String)) :
    let taken := plan.foldl NetworkActor.takeEntry (t, reserves)
    Sane taken.1 ∧ (∀ br veth ip, t.ipOf br veth = some ip → taken.1.ipOf br veth = some ip) ∧
      (∀ att, .attach att ∈ plan → taken.1.ipOf att.br att.veth = some att.ip) ∧
      ∀ r ∈ taken.2, r ∈ reserves ∨ .reserveIp r.1 r.2.1 r.2.2 ∈ plan := by
  induction plan generalizing t reserves with
  | nil =>
      exact ⟨hsane, fun _ _ _ hip => hip, fun att hatt => absurd hatt List.not_mem_nil,
        fun r hr => Or.inl hr⟩
  | cons entry plan ih =>
      have hrest : ∀ att, .attach att ∈ plan → Recalls s att :=
        fun att hatt => hplan att (List.mem_cons_of_mem entry hatt)
      cases entry with
      | attach att =>
          have hrec := hplan att List.mem_cons_self
          rcases takes_of_below hs hlen hsane.agree h hrec with ⟨htakes, hstays⟩
          rcases ih hrest (hsane.claim hrec.managed hstays)
            (below_claim hs hlen hsane.agree h hrec) reserves with ⟨hsane', hkept, hall, hleft⟩
          refine ⟨hsane', fun br veth ip hip =>
            hkept br veth ip (ipOf_claim hs hlen hsane.agree h hrec hip), fun att' hatt' => ?_,
            fun r hr => (hleft r hr).imp_right (List.mem_cons_of_mem _)⟩
          rcases List.mem_cons.mp hatt' with heq | hatt'
          · cases heq
            exact hkept att.br att.veth att.ip ((ipOf_claimRestoredAttach t att).1 htakes)
          · exact hall att' hatt'
      | reserveIp ip veth master =>
          rcases ih hrest hsane h (reserves ++ [(ip, veth, master)]) with
            ⟨hsane', hkept, hall, hleft⟩
          refine ⟨hsane', hkept, fun att hatt => ?_, fun r hr => ?_⟩
          · rcases List.mem_cons.mp hatt with heq | hatt
            · cases heq
            · exact hall att hatt
          · rcases hleft r hr with hold | hnew
            · rcases List.mem_append.mp hold with hold | hlast
              · exact Or.inl hold
              · rw [List.mem_singleton.mp hlast]
                exact Or.inr List.mem_cons_self
            · exact Or.inr (List.mem_cons_of_mem _ hnew)

/-- A plan restores every attach that `s` had, where it reserves nothing for its veth. -/
theorem restored_of_recalls (hs : SubnetsAgree s) (hlen : s.subnets.subnetPrefix ≤ 30)
    {plan : List RestoreEntry} (hplan : ∀ att, .attach att ∈ plan → Recalls s att)
    (hsane : Sane t) (h : Below t s)
    (hreserve : ∀ att ip veth master, .attach att ∈ plan → .reserveIp ip veth master ∈ plan →
      veth ≠ att.veth) :
    Sane (t.applyRestorePlan plan) ∧
      ∀ att, .attach att ∈ plan → (t.applyRestorePlan plan).ipOf att.br att.veth = some att.ip := by
  rcases taken_of_recalls hs hlen hplan hsane h [] with ⟨hsane', -, hall, hleft⟩
  rcases kept_of_reserves (plan.foldl NetworkActor.takeEntry (t, [])).2 hsane' with
    ⟨hfinal, hkept⟩
  refine ⟨hfinal, fun att hatt => (hkept att.br att.veth fun r hr => ?_).trans (hall att hatt)⟩
  rcases hleft r hr with hnil | hr
  · exact absurd hnil List.not_mem_nil
  · exact hreserve att _ _ _ hatt hr

end Plans

section Scan

/-- What is read when the daemon starts, and what becomes of the links it deletes. -/
structure HostScan where
  /-- The scan of the namespaces has come to its end. -/
  completed : Bool
  /-- The directory of the namespaces, if it can be read. -/
  namespaces : Option (List NetnsEntry)
  /-- The names of the interfaces, if they can be read. -/
  interfaces : Option (List String)
  /-- The path of the namespace of that name exists. -/
  netnsExists : String → Bool
  /-- `bridge_has_managed_slaves` of a bridge, once the veths are deleted. -/
  managedSlaves : String → Bool
  /-- `link::delete` of a link succeeded. -/
  deleted : String → Bool

/-- The veths and the bridges of the daemon. -/
def enumerateManagedLinks (interfaces : Option (List String)) : List String × List String :=
  ((interfaces.getD []).filter fun name =>
    startsWith name "ssam-" || startsWith name "ssb-").partition (startsWith · "ssam-")

/-- The links to be deleted: veths without a namespace, then bridges without a veth. -/
def cleanupOrphans (scan : HostScan) : List String :=
  let links := enumerateManagedLinks scan.interfaces
  links.1.filter (fun veth => !scan.netnsExists veth) ++
    links.2.filter fun br => !scan.managedSlaves br

namespace HostScan

/-- The namespaces that are read. -/
def seen (scan : HostScan) : List NetnsEntry :=
  if scan.completed then scan.namespaces.getD [] else []

/-- The veths that are left of those there were. -/
def left (scan : HostScan) (links : String → Option Link) (veth : String) : Option Link :=
  if veth ∈ cleanupOrphans scan ∧ scan.deleted veth = true then none else links veth

end HostScan

/-- The actor that comes of a scan. -/
def NetworkActor.restoreFromHost (s : NetworkActor) (scan : HostScan) : NetworkActor :=
  s.applyRestorePlan (collectRestorePlan scan.seen s.subnets.pool s.subnets.subnetPrefix)

/-- What is read is so, and every veth that is left is read. -/
structure Reads (links : String → Option Link) (scan : HostScan) (pool : Ipv4Net)
    (subnetPrefix : Nat) : Prop where
  distinct : ∀ e ∈ scan.seen, ∀ e' ∈ scan.seen, e.name = e'.name → e = e'
  sound : ∀ e ∈ scan.seen, ∀ br net, e.enslavingBridge = .ok (some br) →
    isManagedBridge br = true → e.containerIpv4 pool = .ok (some net) →
    net.prefixLen = subnetPrefix → links e.name = some ⟨br, net.addr⟩
  whole : ∀ veth link, scan.left links veth = some link → ∃ e ∈ scan.seen, e.name = veth ∧
    e.enslavingBridge = .ok (some link.br) ∧ ∃ net, e.containerIpv4 pool = .ok (some net) ∧
      net.addr = link.ip ∧ net.prefixLen = subnetPrefix

/-- The veths are named as those of packages are, and so are their bridges. -/
def Named (links : String → Option Link) : Prop :=
  ∀ veth link, links veth = some link →
    startsWith veth "ssam-" = true ∧ isManagedBridge link.br = true

variable {pool : Ipv4Net} {subnetPrefix : Nat}

/-- What can come of a namespace that is read. -/
theorem build_cases {e : NetnsEntry} {entry : RestoreEntry}
    (h : buildRestoreEntry e pool subnetPrefix = .ok (some entry)) :
    ∃ net, e.containerIpv4 pool = .ok (some net) ∧
      ((∃ err, e.enslavingBridge = .error err ∧ entry = .reserveIp net.addr e.name none) ∨
        ∃ br, e.enslavingBridge = .ok (some br) ∧ isManagedBridge br = true ∧
          (net.prefixLen ≠ subnetPrefix ∧ entry = .reserveIp net.addr e.name (some br) ∨
            net.prefixLen = subnetPrefix ∧
              entry = .attach ⟨br, net.trunc, e.name, net.addr⟩)) := by
  rw [buildRestoreEntry] at h
  rcases except_bind_eq_ok.mp h with ⟨container, hcontainer, h⟩
  cases container with
  | none => cases h
  | some net =>
      refine ⟨net, hcontainer, ?_⟩
      dsimp only at h
      cases hbridge : e.enslavingBridge with
      | error err =>
          rw [hbridge] at h
          cases h
          exact Or.inl ⟨err, rfl, rfl⟩
      | ok bridge =>
          cases bridge with
          | none =>
              rw [hbridge] at h
              cases h
          | some br =>
              simp only [hbridge] at h
              refine Or.inr ⟨br, rfl, ?_⟩
              by_cases hmanaged : isManagedBridge br = true
              · rw [if_pos hmanaged] at h
                by_cases hlen : net.prefixLen = subnetPrefix
                · rw [if_neg (not_not.mpr hlen)] at h
                  cases h
                  exact ⟨hmanaged, Or.inr ⟨hlen, rfl⟩⟩
                · rw [if_pos hlen] at h
                  cases h
                  exact ⟨hmanaged, Or.inl ⟨hlen, rfl⟩⟩
              · rw [if_neg hmanaged] at h
                cases h

/-- The entry of a veth on a bridge of the daemon, with an address of the pool's size. -/
theorem build_of_read {e : NetnsEntry} {br : String} {net : Ipv4Net}
    (hnet : e.containerIpv4 pool = .ok (some net)) (hbridge : e.enslavingBridge = .ok (some br))
    (hmanaged : isManagedBridge br = true) (hlen : net.prefixLen = subnetPrefix) :
    buildRestoreEntry e pool subnetPrefix =
      .ok (some (.attach ⟨br, net.trunc, e.name, net.addr⟩)) := by
  rw [buildRestoreEntry, hnet, hbridge]
  simp only [bind, Except.bind, if_pos hmanaged, if_neg (not_not.mpr hlen)]

theorem name_of_build {e : NetnsEntry} {entry : RestoreEntry} {veth : String} {ip : Ipv4Addr}
    (h : buildRestoreEntry e pool subnetPrefix = .ok (some entry)) (hlists : entry.Lists veth ip) :
    veth = e.name := by
  rcases build_cases h with ⟨net, -, ⟨err, -, rfl⟩ | ⟨br, -, -, ⟨-, rfl⟩ | ⟨-, rfl⟩⟩⟩
  · exact hlists.1.symm
  · exact hlists.1.symm
  · exact hlists.1.symm

theorem mem_collectRestorePlan {entries : List NetnsEntry} {entry : RestoreEntry} :
    entry ∈ collectRestorePlan entries pool subnetPrefix ↔
      ∃ e ∈ entries, startsWith e.name "ssam-" = true ∧
        buildRestoreEntry e pool subnetPrefix = .ok (some entry) := by
  rw [collectRestorePlan, List.mem_filterMap]
  refine exists_congr fun e => and_congr_right fun _ => ?_
  by_cases hname : startsWith e.name "ssam-" = true
  · rw [if_pos hname, and_iff_right hname]
    cases buildRestoreEntry e pool subnetPrefix with
    | error err => simp
    | ok built => rw [Except.ok.injEq]
  · rw [if_neg hname]
    exact iff_of_false (fun h => by cases h) fun h => hname h.1

/-- The attaches of the plan are those of an actor that has marked the veths. -/
theorem recalls_of_reads {r : NetworkActor} {links : String → Option Link} {scan : HostScan}
    (hmarked : Marked ⟨r, links⟩)
    (hreads : Reads links scan r.subnets.pool r.subnets.subnetPrefix) {att : RestoredAttach}
    (hatt : .attach att ∈ collectRestorePlan scan.seen r.subnets.pool r.subnets.subnetPrefix) :
    Recalls r att := by
  rcases mem_collectRestorePlan.mp hatt with ⟨e, he, -, hbuild⟩
  rcases build_cases hbuild with
    ⟨net, hnet, ⟨err, -, heq⟩ | ⟨br, hbridge, hmanaged, ⟨-, heq⟩ | ⟨hlen, heq⟩⟩⟩
  · cases heq
  · cases heq
  · cases heq
    refine ⟨hmarked e.name _ (hreads.sound e he br net hbridge hmanaged hnet hlen), ?_, hmanaged⟩
    rcases net with ⟨addr, prefixLen, hle⟩
    cases hlen
    rfl

/-- The veths that are left are attached by the plan. -/
theorem attach_of_left {links : String → Option Link} {scan : HostScan}
    (hnamed : Named links) (hreads : Reads links scan pool subnetPrefix) {veth : String}
    {link : Link} (hlink : scan.left links veth = some link) :
    ∃ att, .attach att ∈ collectRestorePlan scan.seen pool subnetPrefix ∧ att.br = link.br ∧
      att.veth = veth ∧ att.ip = link.ip := by
  have hold : links veth = some link := by
    rw [HostScan.left] at hlink
    split at hlink
    · cases hlink
    · exact hlink
  rcases hnamed veth link hold with ⟨hname, hmanaged⟩
  rcases hreads.whole veth link hlink with ⟨e, he, rfl, hbridge, net, hnet, hip, hlen⟩
  exact ⟨_, mem_collectRestorePlan.mpr ⟨e, he, hname, build_of_read hnet hbridge hmanaged hlen⟩,
    rfl, rfl, hip⟩

/-- The start of a daemon marks the veths that are left with the addresses they had. -/
theorem marked_restoreFromHost {r fresh : NetworkActor} {links : String → Option Link}
    {scan : HostScan} (hr : SubnetsAgree r) (hlen : r.subnets.subnetPrefix ≤ 30)
    (hmarked : Marked ⟨r, links⟩) (hnamed : Named links) (hfresh : Sane fresh)
    (hbelow : Below fresh r)
    (hreads : Reads links scan r.subnets.pool r.subnets.subnetPrefix) :
    Sane (fresh.restoreFromHost scan) ∧ Marked ⟨fresh.restoreFromHost scan, scan.left links⟩ := by
  have hpool : fresh.subnets.pool = r.subnets.pool := congrArg Prod.fst hbelow.grid
  have hprefix : fresh.subnets.subnetPrefix = r.subnets.subnetPrefix :=
    congrArg Prod.snd hbelow.grid
  -- Two namespaces of one name are one, and its entry is built once.
  have honce : ∀ att ip veth master,
      .attach att ∈ collectRestorePlan scan.seen r.subnets.pool r.subnets.subnetPrefix →
      .reserveIp ip veth master ∈
        collectRestorePlan scan.seen r.subnets.pool r.subnets.subnetPrefix → veth ≠ att.veth := by
    intro att ip veth master hatt hreserve heq
    rcases mem_collectRestorePlan.mp hatt with ⟨e, he, -, hbuild⟩
    rcases mem_collectRestorePlan.mp hreserve with ⟨e', he', -, hbuild'⟩
    have hname : att.veth = e.name := name_of_build hbuild ⟨rfl, rfl⟩
    have hname' : veth = e'.name := name_of_build hbuild' ⟨rfl, rfl⟩
    have hsame : e = e' := hreads.distinct e he e' he' (by rw [← hname, ← heq, hname'])
    rw [← hsame, hbuild] at hbuild'
    cases hbuild'
  rw [NetworkActor.restoreFromHost, hpool, hprefix]
  rcases restored_of_recalls hr hlen (fun att hatt => recalls_of_reads hmarked hreads hatt) hfresh
    hbelow honce with ⟨hsane, hall⟩
  refine ⟨hsane, fun veth link hlink => ?_⟩
  rcases attach_of_left hnamed hreads hlink with ⟨att, hatt, hbr, hveth, hip⟩
  rw [← hbr, ← hveth, ← hip]
  exact hall att hatt

end Scan

section Runs

variable (pkgHash10 : String → String)

/-- A message, an end in order, or the death of the daemon while it handles a message, of
    which the host has seen as much as the answers say. The daemon starts again with what
    the scan reads. -/
inductive DaemonEvent where
  | handle (e : WiredEvent)
  | restart (scan : HostScan)
  | crash (e : WiredEvent) (scan : HostScan)

/-- The daemon after a start. -/
def restarted (config : BridgeConfig) (links : String → Option Link) (scan : HostScan) :
    Option Wired :=
  (NetworkActor.new config).toOption.map fun fresh =>
    ⟨fresh.restoreFromHost scan, scan.left links⟩

def daemonStep (config : BridgeConfig) (s : Wired) : DaemonEvent → Option Wired
  | .handle e => wiredStep pkgHash10 s e
  | .restart scan => restarted config s.links scan
  | .crash e scan => (wiredStep pkgHash10 s e).bind fun t => restarted config t.links scan

/-- The step loses no address: a message that ends does not lose a mark, and what is left
    after an end is read. -/
def Keeping (config : BridgeConfig) (s : Wired) : DaemonEvent → Prop
  | .handle e => ¬ LosesMark pkgHash10 s e
  | .restart scan => Reads s.links scan config.base config.size
  | .crash e scan => ∀ t, wiredStep pkgHash10 s e = some t →
      Reads t.links scan config.base config.size

variable {pkgHash10}

/-- A veth that is there after a setup was there before, or the setup has made it. -/
theorem linksAfter_some {links : String → Option Link} {veth : String} {o : NetworkOptions}
    {env : WiringEnv} {link : Link} (h : linksAfter links veth (some o) env veth = some link) :
    links veth = some link ∨ link = ⟨o.network, o.staticIp⟩ := by
  by_cases hok : env.setup = .ok
  · rw [linksAfter_ok hok, Option.some.injEq] at h
    exact Or.inr h.symm
  · rw [linksAfter_failed hok] at h
    dsimp only at h
    split at h
    · rw [update_self] at h
      cases h
    · split at h
      · rw [update_self, Option.some.injEq] at h
        exact Or.inr h.symm
      · split at h
        · rw [update_self] at h
          cases h
        · exact Or.inl h

/-- A veth that is there after an event was there before, or was made with an address that
    the attach has allocated. -/
theorem link_of_wiredStep {s t : Wired} {e : WiredEvent}
    (hstep : wiredStep pkgHash10 s e = some t) {v : String} {link : Link}
    (hlink : t.links v = some link) :
    s.links v = some link ∨ ∃ msg env given u, e = .attach msg env ∧
      s.actor.allocateContainerIp (bridgeName pkgHash10 msg.bridgeId)
        (vethHostName pkgHash10 msg.pkg) env.managedSlaves = (.ok given, u) ∧
      v = vethHostName pkgHash10 msg.pkg ∧ link = ⟨bridgeName pkgHash10 msg.bridgeId, given.2⟩ := by
  have hupdate {veth : String} (h : update s.links veth none v = some link) :
      s.links v = some link := by
    by_cases hv : v = veth
    · rw [hv, update_self] at h
      cases h
    · rwa [update_of_ne hv] at h
  cases e with
  | attach msg env =>
      rw [wiredStep] at hstep
      split at hstep
      · cases hstep
      · cases hstep
        split at hlink
        · by_cases hv : v = vethHostName pkgHash10 msg.pkg
          · rw [hv] at hlink ⊢
            rcases s.actor.handleAttach_cases pkgHash10 msg env.toAttachEnv with
              ⟨-, hnone, -⟩ | ⟨e, -, hnone⟩ | ⟨subnet, ip, u, -, halloc, hoptions, -⟩
            · rw [hnone] at hlink
              exact Or.inl (linksAfter_none hlink).2
            · rw [hnone] at hlink
              exact Or.inl (linksAfter_none hlink).2
            · rw [hoptions] at hlink
              refine (linksAfter_some hlink).imp_right fun hmade => ?_
              exact ⟨msg, env, (subnet, ip), u, rfl, halloc, rfl, hmade⟩
          · exact Or.inl ((linksAfter_ne _ _ hv).symm.trans hlink)
        · exact Or.inl hlink
  | detach msg env =>
      cases hstep
      dsimp only at hlink
      split at hlink
      · exact Or.inl (hupdate hlink)
      · exact Or.inl hlink
  | vanish veth =>
      cases hstep
      exact Or.inl (hupdate hlink)

theorem named_step {s t : Wired} (h : Named s.links) {e : WiredEvent}
    (hstep : wiredStep pkgHash10 s e = some t) : Named t.links := by
  intro v link hlink
  rcases link_of_wiredStep hstep hlink with hold | ⟨msg, env, given, u, -, -, rfl, rfl⟩
  · exact h v link hold
  · exact ⟨startsWith_append _ _, managed_bridgeName pkgHash10 msg.bridgeId⟩

/-- What a message leaves of the veths was allocated by an actor, though it may not be the
    one the message leaves. -/
theorem exists_marking {s t : Wired} (hagree : SubnetsAgree s.actor) (h : Marked s)
    {e : WiredEvent} (hstep : wiredStep pkgHash10 s e = some t) :
    ∃ r : NetworkActor, SubnetsAgree r ∧ r.grid = s.actor.grid ∧ Marked ⟨r, t.links⟩ := by
  by_cases hmade : ∃ msg env given u, e = .attach msg env ∧
      s.actor.allocateContainerIp (bridgeName pkgHash10 msg.bridgeId)
        (vethHostName pkgHash10 msg.pkg) env.managedSlaves = (.ok given, u)
  · -- The actor once it has allocated, and before it rolls back.
    rcases hmade with ⟨msg, env, given, u, rfl, halloc⟩
    have htouch := allocateContainerIp_touches s.actor (bridgeName pkgHash10 msg.bridgeId)
      (vethHostName pkgHash10 msg.pkg) env.managedSlaves
    have hkept := (SubnetsAgree.kept pkgHash10).allocateContainerIp hagree msg.bridgeId
      (vethHostName pkgHash10 msg.pkg) env.managedSlaves
    rw [halloc] at htouch hkept
    rcases allocateContainerIp_ok halloc with ⟨hget, hbefore, -⟩
    refine ⟨u, hkept, htouch.grid, fun v link hlink => ?_⟩
    rcases link_of_wiredStep hstep hlink with
      hold | ⟨msg', env', given', u', heq, halloc', rfl, rfl⟩
    · have hmark := h v link hold
      by_cases hnamed : link.br = bridgeName pkgHash10 msg.bridgeId ∧
          v = vethHostName pkgHash10 msg.pkg
      · -- A veth that has an address there is given it again.
        rw [hnamed.1, hnamed.2] at hmark ⊢
        rcases hbefore with hsame | hnone
        · rw [hget, ← hsame, hmark]
        · rw [hnone] at hmark
          cases hmark
      · exact (htouch.ipOf link.br v hnamed).trans hmark
    · cases heq
      rw [halloc] at halloc'
      cases halloc'
      exact hget
  · refine ⟨s.actor, hagree, rfl, fun v link hlink => ?_⟩
    rcases link_of_wiredStep hstep hlink with hold | ⟨msg, env, given, u, heq, halloc, -⟩
    · exact h v link hold
    · exact absurd ⟨msg, env, given, u, heq, halloc⟩ hmade

/-- What holds of the daemon throughout. -/
structure Tracked (config : BridgeConfig) (s : Wired) : Prop where
  agree : SubnetsAgree s.actor
  grid : s.actor.grid = (config.base, config.size)
  marked : Marked s
  named : Named s.links

theorem grid_applyRestorePlan (s : NetworkActor) (plan : List RestoreEntry) :
    (s.applyRestorePlan plan).grid = s.grid := by
  refine exec_invariant (P := fun t => t.grid = s.grid) (fun t e u ht hu => ?_) rfl
    (exec_planEvents id plan s)
  rw [← Option.some.inj hu, next_grid]
  exact ht

/-- A daemon that starts finds what an actor has allocated, and tracks it. -/
theorem tracked_restarted {config : BridgeConfig} (hlen : config.size ≤ 30) {r : NetworkActor}
    {links : String → Option Link} (hagree : SubnetsAgree r)
    (hgrid : r.grid = (config.base, config.size)) (hmarked : Marked ⟨r, links⟩)
    (hnamed : Named links) {scan : HostScan}
    (hreads : Reads links scan config.base config.size) {t : Wired}
    (ht : restarted config links scan = some t) : Tracked config t := by
  rcases Option.map_eq_some_iff.mp ht with ⟨fresh, hfresh, rfl⟩
  have hnew : NetworkActor.new config = .ok fresh := by
    cases hnew : NetworkActor.new config with
    | ok actor =>
        rw [hnew] at hfresh
        rw [Option.some.inj hfresh]
    | error e =>
        rw [hnew] at hfresh
        cases hfresh
  rcases NetworkActor.new_eq_ok hnew with ⟨hbridges, hslots, hpool, hprefix⟩
  have hgrid' : fresh.grid = r.grid := by
    rw [hgrid, NetworkActor.grid, SubnetAllocator.grid, hpool, hprefix]
  have hempty (br : String) : fresh.bridge br = none := by
    rw [NetworkActor.bridge, hbridges]
    rfl
  have hbelow : Below fresh r := by
    refine ⟨hgrid', fun id key hkey => ?_, fun br veth ip hip => ?_⟩
    · rw [SubnetAllocator.get, hslots] at hkey
      cases hkey
    · rw [NetworkActor.ipOf, hempty] at hip
      cases hip
  have hsane : Sane fresh := ⟨agree_new hnew, fun br hbr => absurd (hempty br) hbr⟩
  have hpool' : r.subnets.pool = config.base := congrArg Prod.fst hgrid
  have hprefix' : r.subnets.subnetPrefix = config.size := congrArg Prod.snd hgrid
  rcases marked_restoreFromHost hagree (by rw [hprefix']; exact hlen) hmarked hnamed hsane hbelow
    (by rw [hpool', hprefix']; exact hreads) with ⟨hsane', hmarked'⟩
  refine ⟨hsane'.agree, ?_, hmarked', fun v link hlink => ?_⟩
  · exact (grid_applyRestorePlan fresh _).trans (hgrid'.trans hgrid)
  · dsimp only at hlink
    rw [HostScan.left] at hlink
    split at hlink
    · cases hlink
    · exact hnamed v link hlink

theorem tracked_step {config : BridgeConfig} (hlen : config.size ≤ 30) {s t : Wired}
    (h : Tracked config s) {e : DaemonEvent} (he : Keeping pkgHash10 config s e)
    (hstep : daemonStep pkgHash10 config s e = some t) : Tracked config t := by
  cases e with
  | handle e =>
      refine ⟨?_, ?_, (marked_step_iff h.marked hstep).mpr he, named_step h.named hstep⟩
      · rcases actor_wiredStep hstep with hsame | ⟨m, hm⟩
        · rw [hsame]
          exact h.agree
        · rw [hm]
          exact h.agree.handle pkgHash10 m
      · rcases actor_wiredStep hstep with hsame | ⟨m, hm⟩
        · rw [hsame]
          exact h.grid
        · rw [hm]
          exact (next_grid pkgHash10 s.actor (.message m)).trans h.grid
  | restart scan => exact tracked_restarted hlen h.agree h.grid h.marked h.named he hstep
  | crash e scan =>
      rcases Option.bind_eq_some_iff.mp hstep with ⟨u, hu, ht⟩
      rcases exists_marking h.agree h.marked hu with ⟨r, hagree, hgrid, hmarked⟩
      exact tracked_restarted hlen hagree (hgrid.trans h.grid) hmarked (named_step h.named hu)
        (he u hu) ht

end Runs

/-- Over messages, ends and deaths of the daemon, every veth that an attach has made keeps
    its address for as long as it is there, the address is handed to no other, and no two
    attachments meet: as long as no message that ends loses a mark, and each start reads the
    veths it leaves. -/
theorem addresses_kept_over_restarts (pkgHash10 : String → String) {config : BridgeConfig}
    {s : NetworkActor} (hv : config.validate = .ok ()) (hnew : NetworkActor.new config = .ok s)
    {es : List DaemonEvent}
    (hes : Along (daemonStep pkgHash10 config) (Keeping pkgHash10 config) ⟨s, fun _ => none⟩ es) :
    Always (daemonStep pkgHash10 config)
      (fun t => KeepsAddress pkgHash10 t ∧ Isolated t.actor) ⟨s, fun _ => none⟩ es := by
  have hlen : config.size ≤ 30 := BridgeConfig.size_le_of_validate hv
  have hgrid : s.grid = (config.base, config.size) := by
    rw [NetworkActor.grid, SubnetAllocator.grid, (NetworkActor.new_eq_ok hnew).2.2.1,
      (NetworkActor.new_eq_ok hnew).2.2.2]
  have htracked : Tracked config ⟨s, fun _ => none⟩ :=
    ⟨agree_new hnew, hgrid, fun _ _ hlink => (by cases hlink), fun _ _ hlink => (by cases hlink)⟩
  refine always_mono (fun t ht => ?_)
    (always_of_along (fun t e u ht he hu => tracked_step hlen ht he hu) htracked hes)
  have hsize : t.actor.subnets.subnetPrefix ≤ 30 := by
    rw [show t.actor.subnets.subnetPrefix = config.size from congrArg Prod.snd ht.grid]
    exact hlen
  exact ⟨(keepsAddress_iff ⟨ht.agree, hsize⟩).mpr ht.marked, ht.agree.isolated hsize⟩

/-- The namespace of `a`, as the daemon that starts reads it. -/
def stuckScan : HostScan where
  completed := true
  namespaces := some [⟨"ssam-ca978112ca", .ok [⟨0xac140001, 29, Nat.le_of_ble_eq_true rfl⟩],
    .ok (some "ssb-ca978112ca")⟩]
  interfaces := some ["lo", "ssam-ca978112ca", "ssb-ca978112ca"]
  netnsExists _ := true
  managedSlaves _ := true
  deleted _ := true

theorem addresses_kept_crash : ∃ s, NetworkActor.new poolConfig = .ok s ∧
    Always (daemonStep sampleHash poolConfig)
      (fun t => KeepsAddress sampleHash t ∧ Isolated t.actor) ⟨s, fun _ => none⟩
      [.crash (.attach ⟨"a", "a", "eth0"⟩ stuckHost) stuckScan] := by
  have hnew : NetworkActor.new poolConfig = .ok _ := rfl
  refine ⟨_, hnew, addresses_kept_over_restarts sampleHash (by decide) hnew fun t _ => ?_⟩
  refine ⟨fun u hu => ?_, trivial⟩
  have hmade : u.links "ssam-ca978112ca" = some ⟨"ssb-ca978112ca", 0xac140001⟩ := by
    cases hu
    rfl
  have honly : ∀ v link, u.links v = some link → v = "ssam-ca978112ca" := by
    intro v link hlink
    rcases link_of_wiredStep hu hlink with hold | ⟨_, _, _, _, hmsg, -, hv, -⟩
    · cases hold
    · cases hmsg
      exact hv
  refine ⟨fun e he e' he' _ => ?_, fun e he br net hbr _ hnet _ => ?_, fun v link hlink => ?_⟩
  · rw [List.mem_singleton.mp he, List.mem_singleton.mp he']
  · cases List.mem_singleton.mp he
    cases hbr
    cases hnet
    exact hmade
  · have hkept : v ∉ cleanupOrphans stuckScan := by
      rw [show cleanupOrphans stuckScan = [] by decide]
      exact List.not_mem_nil
    have hold : u.links v = some link := by
      rw [HostScan.left, if_neg (fun h => hkept h.1)] at hlink
      exact hlink
    obtain rfl := honly v link hold
    rw [hmade] at hold
    cases hold
    exact ⟨_, List.mem_singleton_self _, rfl, rfl, _, rfl, rfl, rfl⟩

end Network

end Ssam
