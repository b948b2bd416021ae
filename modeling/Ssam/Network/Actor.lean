import Ssam.Lib.Run
import Ssam.Network.Allocator

/-!
# The Network Actor

The actor that owns every bridge's subnet and address state. It is the subnet
allocator of the pool and, for each live bridge, the address allocator of that
bridge's subnet, so the subnet of a live bridge is recorded twice.

Each handler is a function of the state, the message and what the host answered
(`AttachEnv`, `DetachEnv`): whether the links exist, whether a link could be
deleted, how netavark's setup ended, whether a bridge still has a managed slave.
The handlers run one at a time, so a run of the actor is a list of events, and
the entries of a restore plan are events too: `exec_planEvents` says that
applying a plan is taking its attaches first and its reserves after them.

`pkgHash10` stands for the digest the interface names are built from. Nothing is
assumed of it.

## Main definitions

* `NetworkActor`: The subnets of the pool and the live bridges.
* `RestoreEntry`: One entry of the plan rebuilt from the host.
* `NetworkActor.applyRestorePlan`: The restore on start.
* `NetworkActor.handleAttach`, `NetworkActor.handleDetach`: The two messages.
* `Message`, `Event`: What the actor does next.
* `step`, `messageStep`: The state an event or a message leaves.
* `planEvents`: A restore plan as the events it amounts to.

## Theorems

* `NetworkActor.handleAttach_cases`: What an attach can do to the actor.
* `exec_planEvents`: Applying a plan is taking its events.
-/

namespace Ssam

namespace Network

open Lib

/-- The `[network.bridge]` settings the actor is built from: the parsed pool
    CIDR and the prefix length of one bridge's subnet. -/
structure BridgeConfig where
  base : Ipv4Net
  size : Nat

/-- Check the bridge settings are usable, when the config loads. -/
def BridgeConfig.validate (config : BridgeConfig) : Except Error Unit := do
  ensure (decide (max config.base.prefixLen 1 ≤ config.size))
    s!"network base {config.base.text} is too small for /{config.size} bridge subnets"
  ensure (decide (config.size ≤ 30))
    s!"network size /{config.size} leaves no usable host (use /30 or larger)"

theorem BridgeConfig.size_le_of_validate {config : BridgeConfig}
    (h : config.validate = .ok ()) : config.size ≤ 30 := by
  rw [BridgeConfig.validate, ensure_bind_eq_ok, ensure_eq_ok] at h
  exact of_decide_eq_true h.2

/-- `char::is_whitespace`: the code points with the White_Space property. -/
def isWhitespace (c : Char) : Bool :=
  let n := c.toNat
  (9 ≤ n && n ≤ 13) || n == 0x20 || n == 0x85 || n == 0xa0 || n == 0x1680 ||
    (0x2000 ≤ n && n ≤ 0x200a) || n == 0x2028 || n == 0x2029 || n == 0x202f ||
    n == 0x205f || n == 0x3000

/-- `char::is_control`: the code points of category Cc. -/
def isControl (c : Char) : Bool :=
  let n := c.toNat
  n ≤ 0x1f || (0x7f ≤ n && n ≤ 0x9f)

/-- Validate a network interface name against kernel `IFNAMSIZ` rules. -/
def validateInterfaceName (name : String) : Except Error Unit := do
  ensure (decide (1 ≤ name.utf8ByteSize ∧ name.utf8ByteSize ≤ 15))
    s!"interface name must be 1..=15 bytes (IFNAMSIZ), got {name.utf8ByteSize}"
  ensure (!(name == "." || name == "..")) "interface name is '.' or '..'"
  ensure (!(name.toList.any fun c => c == '/' || c == ':' || isWhitespace c || isControl c))
    "interface name contains '/' ':' whitespace or a control character"

/-- What netavark's setup is asked to wire. -/
structure NetworkOptions where
  containerId : String
  network : String
  subnet : Ipv4Net
  hostInterfaceName : String
  staticIp : Ipv4Addr
  interfaceName : String
  deriving DecidableEq

/-- A live container's veth on its bridge, with the bridge's observed subnet. -/
structure RestoredAttach where
  br : String
  subnet : Ipv4Net
  veth : String
  ip : Ipv4Addr

/-- One entry of the restore plan. -/
inductive RestoreEntry where
  /-- Full recovery: claim the bridge's subnet and the container's live IP. -/
  | attach (att : RestoredAttach)
  /-- A live container holds this address but could not be fully restored. -/
  | reserveIp (ip : Ipv4Addr) (veth : String) (master : Option String)

/-- Wire veth and IP into `pkg`'s namespace on the bridge of `bridgeId`. -/
structure Attach where
  pkg : String
  bridgeId : String
  containerInterface : String

/-- Detach `pkg` from the bridge of `bridgeId`. -/
structure Detach where
  pkg : String
  bridgeId : String

/-- How the blocking setup task ended. -/
inductive SetupOutcome where
  | ok
  | error (e : Error)
  | panicked (join : Error)

/-- What the host answers while an attach is handled. -/
structure AttachEnv where
  /-- `link::exists` of the veth. -/
  vethExists : Bool
  /-- The namespace path exists. -/
  nsExists : Bool
  /-- The namespace path is valid UTF-8. -/
  nsPathUtf8 : Bool
  setup : SetupOutcome
  /-- `bridge_has_managed_slaves`, if the bridge is to be destroyed. -/
  managedSlaves : Bool

/-- What the host answers while a detach is handled. -/
structure DetachEnv where
  /-- `link::delete` of the veth succeeded. -/
  vethDeleted : Bool
  managedSlaves : Bool

/-- Owns every live bridge's subnet and IP state. -/
structure NetworkActor where
  subnets : SubnetAllocator
  /-- Live bridges by interface name, each with the addresses of its subnet. -/
  bridges : HashMap String BridgeIpAllocator

namespace NetworkActor

/-- An actor with no bridge, over the configured pool. -/
def new (config : BridgeConfig) : Except Error NetworkActor := do
  let subnets ← SubnetAllocator.new config.base config.size
  return { subnets := subnets, bridges := ∅ }

theorem new_eq_ok {config : BridgeConfig} {s : NetworkActor} (h : new config = .ok s) :
    s.bridges = ∅ ∧ s.subnets.slots = SlotAllocator.empty ∧ s.subnets.pool = config.base ∧
      s.subnets.subnetPrefix = config.size := by
  unfold new at h
  cases hs : SubnetAllocator.new config.base config.size with
  | error e =>
      rw [hs] at h
      exact absurd h (by simp only [bind, Except.bind, reduceCtorEq, not_false_eq_true])
  | ok subnets =>
      rw [hs] at h
      simp only [bind, Except.bind, pure, Except.pure, Except.ok.injEq] at h
      unfold SubnetAllocator.new at hs
      split at hs
      · rw [Except.ok.injEq] at hs
        rw [← h, ← hs]
        exact ⟨rfl, rfl, rfl, rfl⟩
      · exact absurd hs (by simp only [reduceCtorEq, not_false_eq_true])

/-- The allocator of a live bridge. -/
def bridge (s : NetworkActor) (br : String) : Option BridgeIpAllocator := s.bridges.get br

/-- The address a veth holds on a bridge. -/
def ipOf (s : NetworkActor) (br veth : String) : Option Ipv4Addr :=
  (s.bridge br).bind fun state => state.ipFor veth

/-- The pool, and the prefix length of its slots. -/
def grid (s : NetworkActor) : Ipv4Net × Nat := s.subnets.grid

/-- Record a bridge's allocator. -/
def setBridge (s : NetworkActor) (br : String) (state : BridgeIpAllocator) : NetworkActor :=
  { s with bridges := s.bridges.insert br state }

@[simp] theorem bridge_setBridge (s : NetworkActor) (br a : String) (state : BridgeIpAllocator) :
    (s.setBridge br state).bridge a = if a = br then some state else s.bridge a :=
  HashMap.get_insert s.bridges br a state

@[simp] theorem subnets_setBridge (s : NetworkActor) (br : String) (state : BridgeIpAllocator) :
    (s.setBridge br state).subnets = s.subnets := rfl

@[simp] theorem grid_setBridge (s : NetworkActor) (br : String) (state : BridgeIpAllocator) :
    (s.setBridge br state).grid = s.grid := rfl

/-- Whether a live veth and namespace can be adopted as-is. Fails closed if they
    are live but the actor tracks no bridge or no address for them. -/
def adoptExisting (s : NetworkActor) (br veth : String) (env : AttachEnv) : Except Error Bool :=
  if env.vethExists && env.nsExists then
    match s.bridge br with
    | none =>
        .error [s!"veth {veth} and its netns exist but bridge {br} is untracked; " ++
          "refusing to allocate"]
    | some state =>
        match state.ipFor veth with
        | none =>
            .error [s!"veth {veth} and its netns exist but no tracked address; " ++
              "refusing to allocate"]
        | some _ => .ok true
  else .ok false

/-- Remove a now-unused bridge, unless a real veth is still enslaved to it. -/
def destroyBridge (s : NetworkActor) (br : String) (managedSlaves : Bool) : NetworkActor :=
  if managedSlaves then s
  else { subnets := s.subnets.release br, bridges := s.bridges.erase br }

theorem bridge_destroyBridge (s : NetworkActor) (br a : String) (managedSlaves : Bool) :
    (s.destroyBridge br managedSlaves).bridge a =
      if managedSlaves = false ∧ a = br then none else s.bridge a := by
  cases managedSlaves with
  | true => simp only [destroyBridge, if_true, Bool.true_eq_false, false_and, if_false]
  | false =>
      simp only [destroyBridge, Bool.false_eq_true, if_false, true_and]
      exact HashMap.get_erase s.bridges br a

theorem subnets_destroyBridge (s : NetworkActor) (br a : String) (managedSlaves : Bool) :
    (s.destroyBridge br managedSlaves).subnets.get a =
      if managedSlaves = false ∧ a = br then none else s.subnets.get a := by
  cases managedSlaves with
  | true => simp only [destroyBridge, if_true, Bool.true_eq_false, false_and, if_false]
  | false =>
      simp only [destroyBridge, Bool.false_eq_true, if_false, true_and]
      exact SubnetAllocator.release_get s.subnets br a

@[simp] theorem grid_destroyBridge (s : NetworkActor) (br : String) (managedSlaves : Bool) :
    (s.destroyBridge br managedSlaves).grid = s.grid := by
  cases managedSlaves <;> rfl

/-- The bridge's allocator, created over a fresh subnet if it is not live. -/
def ensureBridge (s : NetworkActor) (br : String) :
    Except Error (BridgeIpAllocator × NetworkActor) :=
  match s.bridge br with
  | some state => .ok (state, s)
  | none =>
      match s.subnets.allocate br with
      | .error e => .error (s!"allocate subnet for bridge {br}" :: e)
      | .ok (subnet, subnets) =>
          .ok (BridgeIpAllocator.new subnet,
            { s with subnets := subnets }.setBridge br (BridgeIpAllocator.new subnet))

/-- Ensure the bridge exists and allocate a container IP for `veth`. A bridge
    created for the occasion is undone if it has no address to give. -/
def allocateContainerIp (s : NetworkActor) (br veth : String) (managedSlaves : Bool) :
    Except Error (Ipv4Net × Ipv4Addr) × NetworkActor :=
  match s.ensureBridge br with
  | .error e => (.error e, s)
  | .ok (state, s') =>
      match state.allocate veth with
      | .ok (ip, state') => (.ok (state.subnet, ip), s'.setBridge br state')
      | .error e =>
          (.error (s!"allocate IP on bridge {br}" :: e),
            if (s.bridge br).isNone then s'.destroyBridge br managedSlaves else s')

/-- Release the IP of a failed fresh attach and tear down the bridge if it is
    now empty. -/
def rollbackAttach (s : NetworkActor) (br veth : String) (managedSlaves : Bool) : NetworkActor :=
  match s.bridge br with
  | none => s
  | some state =>
      let s' := s.setBridge br (state.release veth)
      if (state.release veth).isEmpty then s'.destroyBridge br managedSlaves else s'

/-- Reserve `ip` under its veth id in the known sibling bridge, if restored;
    else fall back to a pool-level reservation. -/
def reserveIp (s : NetworkActor) (ip : Ipv4Addr) (veth : String) (master : Option String) :
    NetworkActor :=
  match master.bind fun br => (s.bridge br).map fun alloc => (br, alloc) with
  | some (br, alloc) =>
      match alloc.claim veth ip with
      | .ok alloc' => s.setBridge br alloc'
      | .error _ => s
  | none => { s with subnets := s.subnets.reserveContaining ip }

/-- Claim a fully-restored attachment: its bridge subnet and live container IP. -/
def claimRestoredAttach (s : NetworkActor) (att : RestoredAttach) : NetworkActor :=
  match s.subnets.claim att.br att.subnet with
  | .error _ => s
  | .ok subnets =>
      let state := (s.bridge att.br).getD (BridgeIpAllocator.new att.subnet)
      match state.claim att.veth att.ip with
      | .ok state' => { s with subnets := subnets }.setBridge att.br state'
      | .error _ => { s with subnets := subnets }.setBridge att.br state

/-- Claim an attach of the plan at once, and put a reserve off. -/
def takeEntry (acc : NetworkActor × List (Ipv4Addr × String × Option String)) :
    RestoreEntry → NetworkActor × List (Ipv4Addr × String × Option String)
  | .attach att => (acc.1.claimRestoredAttach att, acc.2)
  | .reserveIp ip veth master => (acc.1, acc.2 ++ [(ip, veth, master)])

/-- Apply the restore plan: attaches first, in order, then the reserves. -/
def applyRestorePlan (s : NetworkActor) (plan : List RestoreEntry) : NetworkActor :=
  let attached := plan.foldl takeEntry (s, [])
  attached.2.foldl (fun s r => s.reserveIp r.1 r.2.1 r.2.2) attached.1

end NetworkActor

section Names

variable (pkgHash10 : String → String)

/-- Host-side veth interface name for a package. -/
def vethHostName (pkg : String) : String := "ssam-" ++ pkgHash10 pkg

/-- Host bridge interface name for a bridge id. -/
def bridgeName (bridgeId : String) : String := "ssb-" ++ pkgHash10 bridgeId

/-- Assemble the options for attaching `pkg` to `br`. -/
def buildNetworkOptions (pkg br : String) (subnet : Ipv4Net) (ip : Ipv4Addr)
    (containerInterface : String) : NetworkOptions where
  containerId := pkg
  network := br
  subnet := subnet
  hostInterfaceName := vethHostName pkgHash10 pkg
  staticIp := ip
  interfaceName := containerInterface

namespace NetworkActor

/-- What handling an attach leaves: its answer, the options setup ran with, if
    it ran, and the actor. -/
structure AttachResult where
  answer : Except Error Unit
  setupOptions : Option NetworkOptions
  actor : NetworkActor

/-- Attach veth and IP for the package onto its bridge. -/
def handleAttach (s : NetworkActor) (msg : Attach) (env : AttachEnv) : AttachResult :=
  match validateInterfaceName msg.containerInterface with
  | .error e =>
      ⟨.error (s!"Invalid container network interface_name {msg.containerInterface.quote}" :: e),
        none, s⟩
  | .ok () =>
      let veth := vethHostName pkgHash10 msg.pkg
      let br := bridgeName pkgHash10 msg.bridgeId
      match s.adoptExisting br veth env with
      | .error e => ⟨.error e, none, s⟩
      -- A veth that is there, in its namespace and on its bridge, is left as it is.
      | .ok true => ⟨.ok (), none, s⟩
      | .ok false =>
          if env.nsPathUtf8 then
            match s.allocateContainerIp br veth env.managedSlaves with
            | (.error e, s') => ⟨.error e, none, s'⟩
            | (.ok (subnet, ip), s') =>
                let options := buildNetworkOptions pkgHash10 msg.pkg br subnet ip
                  msg.containerInterface
                match env.setup with
                | .ok => ⟨.ok (), some options, s'⟩
                | .error e =>
                    -- The deletion of what is left of the veth is not looked at.
                    ⟨.error e, some options, s'.rollbackAttach br veth env.managedSlaves⟩
                | .panicked join =>
                    -- A panic of the spawned setup is undone like an error.
                    ⟨.error ("netavark setup task panicked" :: join), some options,
                      s'.rollbackAttach br veth env.managedSlaves⟩
          else ⟨.error ["netns path is not valid UTF-8"], none, s⟩

/-- The attach is not answered before it allocates: the interface name is
    valid, there is nothing to adopt, and the namespace path can be passed on. -/
def allocates (s : NetworkActor) (msg : Attach) (env : AttachEnv) : Bool :=
  (validateInterfaceName msg.containerInterface).isOk &&
    (match s.adoptExisting (bridgeName pkgHash10 msg.bridgeId) (vethHostName pkgHash10 msg.pkg)
        env with
      | .ok adopted => !adopted
      | .error _ => false) &&
    env.nsPathUtf8

/-- What an attach can do to the actor: leave it alone, having asked for nothing, fail
    to allocate, or allocate and run setup, and roll back unless setup succeeds. -/
theorem handleAttach_cases (s : NetworkActor) (msg : Attach) (env : AttachEnv) :
    let r := s.handleAttach pkgHash10 msg env
    let veth := vethHostName pkgHash10 msg.pkg
    let br := bridgeName pkgHash10 msg.bridgeId
    (r.actor = s ∧ r.setupOptions = none ∧ s.allocates pkgHash10 msg env = false) ∨
      (∃ e, s.allocateContainerIp br veth env.managedSlaves = (.error e, r.actor) ∧
        r.setupOptions = none) ∨
      ∃ subnet ip s', s.allocates pkgHash10 msg env = true ∧
        s.allocateContainerIp br veth env.managedSlaves = (.ok (subnet, ip), s') ∧
        r.setupOptions =
          some (buildNetworkOptions pkgHash10 msg.pkg br subnet ip msg.containerInterface) ∧
        (env.setup = .ok ∧ r.actor = s' ∨
          env.setup ≠ .ok ∧ r.actor = s'.rollbackAttach br veth env.managedSlaves) := by
  simp only []
  unfold handleAttach allocates
  cases validateInterfaceName msg.containerInterface with
  | error e => exact Or.inl ⟨rfl, rfl, rfl⟩
  | ok u =>
      simp only []
      -- Before the allocation nothing changes the actor.
      cases s.adoptExisting (bridgeName pkgHash10 msg.bridgeId) (vethHostName pkgHash10 msg.pkg)
          env with
      | error e => exact Or.inl ⟨rfl, rfl, rfl⟩
      | ok adopted =>
          cases adopted with
          | true => exact Or.inl ⟨rfl, rfl, rfl⟩
          | false =>
              simp only []
              by_cases hutf8 : env.nsPathUtf8 = true
              · rw [if_pos hutf8]
                rcases s.allocateContainerIp (bridgeName pkgHash10 msg.bridgeId)
                  (vethHostName pkgHash10 msg.pkg) env.managedSlaves with ⟨r, s'⟩
                cases r with
                | error e => exact Or.inr (Or.inl ⟨e, rfl, rfl⟩)
                | ok r =>
                    -- From here on an address is marked, and only a failed setup gives it back.
                    refine Or.inr (Or.inr ⟨r.1, r.2, s', hutf8, rfl, ?_⟩)
                    cases hsetup : env.setup with
                    | ok => exact ⟨rfl, Or.inl ⟨rfl, rfl⟩⟩
                    | error e =>
                        exact ⟨rfl, Or.inr ⟨by simp only [ne_eq, reduceCtorEq,
                          not_false_eq_true], rfl⟩⟩
                    | panicked join =>
                        exact ⟨rfl, Or.inr ⟨by simp only [ne_eq, reduceCtorEq,
                          not_false_eq_true], rfl⟩⟩
              · rw [if_neg hutf8]
                exact Or.inl ⟨rfl, rfl, Bool.eq_false_iff.mpr hutf8⟩

/-- Detach the package from its bridge. On delete failure the IP stays marked:
    reusing it would collide with the surviving veth. -/
def handleDetach (s : NetworkActor) (msg : Detach) (env : DetachEnv) : NetworkActor :=
  let veth := vethHostName pkgHash10 msg.pkg
  let br := bridgeName pkgHash10 msg.bridgeId
  if env.vethDeleted then
    match s.bridge br with
    | none => s
    | some state =>
        let s' := s.setBridge br (state.release veth)
        if (state.release veth).isEmpty then s'.destroyBridge br env.managedSlaves else s'
  else s

end NetworkActor

/-- A message, with the host's answers while it is handled. -/
inductive Message where
  | attach (msg : Attach) (env : AttachEnv)
  | detach (msg : Detach) (env : DetachEnv)

/-- What the actor does next: take an entry of the restore plan, or a message. -/
inductive Event where
  | claim (att : RestoredAttach)
  | reserve (ip : Ipv4Addr) (veth : String) (master : Option String)
  | message (m : Message)

/-- The state a message leaves. -/
def NetworkActor.handle (s : NetworkActor) : Message → NetworkActor
  | .attach msg env => (s.handleAttach pkgHash10 msg env).actor
  | .detach msg env => s.handleDetach pkgHash10 msg env

/-- The state an event leaves. No event is ever refused. -/
def next (s : NetworkActor) : Event → NetworkActor
  | .claim att => s.claimRestoredAttach att
  | .reserve ip veth master => s.reserveIp ip veth master
  | .message m => s.handle pkgHash10 m

/-- One step of the actor. -/
def step (s : NetworkActor) (e : Event) : Option NetworkActor := some (next pkgHash10 s e)

/-- One step of the actor once it has started: it takes a message. -/
def messageStep (s : NetworkActor) (m : Message) : Option NetworkActor :=
  some (s.handle pkgHash10 m)

end Names

/-- The attaches of a plan, as events. -/
def claimEvents (plan : List RestoreEntry) : List Event :=
  plan.filterMap fun
    | .attach att => some (.claim att)
    | .reserveIp _ _ _ => none

/-- The reserves of a plan, as events. -/
def reserveEvents (plan : List RestoreEntry) : List Event :=
  plan.filterMap fun
    | .attach _ => none
    | .reserveIp ip veth master => some (.reserve ip veth master)

/-- A restore plan as the events it amounts to: attaches run first. -/
def planEvents (plan : List RestoreEntry) : List Event := claimEvents plan ++ reserveEvents plan

theorem exec_claimEvents (pkgHash10 : String → String) (plan : List RestoreEntry)
    (s : NetworkActor) (reserves : List (Ipv4Addr × String × Option String)) :
    let attached := plan.foldl NetworkActor.takeEntry (s, reserves)
    exec (step pkgHash10) s (claimEvents plan) = some attached.1 ∧
      attached.2.map (fun r => Event.reserve r.1 r.2.1 r.2.2) =
        reserves.map (fun r => Event.reserve r.1 r.2.1 r.2.2) ++ reserveEvents plan := by
  induction plan generalizing s reserves with
  | nil => exact ⟨rfl, (List.append_nil _).symm⟩
  | cons entry plan ih =>
      cases entry with
      | attach att => exact ih (s.claimRestoredAttach att) reserves
      | reserveIp ip veth master =>
          rcases ih s (reserves ++ [(ip, veth, master)]) with ⟨hclaims, hreserves⟩
          refine ⟨hclaims, hreserves.trans ?_⟩
          rw [List.map_append, List.append_assoc]
          rfl

theorem exec_reserves (pkgHash10 : String → String)
    (reserves : List (Ipv4Addr × String × Option String)) (s : NetworkActor) :
    exec (step pkgHash10) s (reserves.map fun r => Event.reserve r.1 r.2.1 r.2.2) =
      some (reserves.foldl (fun s r => s.reserveIp r.1 r.2.1 r.2.2) s) := by
  induction reserves generalizing s with
  | nil => rfl
  | cons r reserves ih => exact ih (s.reserveIp r.1 r.2.1 r.2.2)

/-- Applying a plan is taking its events. -/
theorem exec_planEvents (pkgHash10 : String → String) (plan : List RestoreEntry)
    (s : NetworkActor) :
    exec (step pkgHash10) s (planEvents plan) = some (s.applyRestorePlan plan) := by
  rcases exec_claimEvents pkgHash10 plan s [] with ⟨hclaims, hreserves⟩
  rw [planEvents, exec_append, hclaims, Option.bind_some]
  rw [List.map_nil, List.nil_append] at hreserves
  rw [← hreserves]
  exact exec_reserves pkgHash10 _ _

end Network

end Ssam
