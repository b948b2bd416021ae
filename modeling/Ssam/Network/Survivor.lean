import Ssam.Network.Reissue

/-!
# Surviving Veths

A veth that an attach has created is there until its link is deleted, and a link may
fail to be deleted. As long as it is there its address is in use, so it has to stay
marked under the veth.

A detach looks at what became of the link, and keeps the mark of one that is still
there. The rollback of an attach whose setup has failed does not: it releases the
address of a veth that setup had made and that could not be deleted, and also that of
an older one, which the attach found without its namespace and could not delete either.
`LosesMark` is that step, and `surviving_address_kept_iff` says that a run keeps the
addresses of all veths there are exactly if it takes no such step.

## Main definitions

* `Link`: Where an attach has put a veth.
* `Wired`: The actor, and the veths on the host.
* `WiredEvent`, `wiredStep`: A message, or a link that goes away on its own.
* `KeepsAddress`: The addresses of the veths there are, are theirs.
* `LosesMark`: Setup fails, and leaves a veth whose address is released.

## Theorems

* `ipOf_rollbackAttach`: A rollback releases the address.
* `marked_step_iff`: A step keeps the marks exactly if it does not lose one.
* `surviving_address_kept_iff`: The exact condition on a run.
* `surviving_address_reissued`: Two failures, and one address for two veths.
-/

namespace Ssam

namespace Network

open Lib Function

/-- The bridge an attach has put a veth on, and the address it has allocated to it. -/
structure Link where
  br : String
  ip : Ipv4Addr

/-- The actor, and the veths on the host that an attach has created. -/
structure Wired where
  actor : NetworkActor
  links : String → Option Link

/-- What the host answers while an attach is handled, and what becomes of the veth. -/
structure WiringEnv extends AttachEnv where
  /-- `link::delete` of a stale veth succeeded. -/
  staleDeleted : Bool
  /-- Setup has made the veth, though it failed. -/
  created : Bool
  /-- `link::delete` of the veth succeeded after a failed setup. -/
  removed : Bool

/-- A message, with the host's answers, or a link that goes away on its own. -/
inductive WiredEvent where
  | attach (msg : Attach) (env : WiringEnv)
  | detach (msg : Detach) (env : DetachEnv)
  | vanish (veth : String)

section Wiring

variable (pkgHash10 : String → String)

/-- The attach is not answered before it deletes a stale veth. -/
def NetworkActor.proceeds (s : NetworkActor) (msg : Attach) (env : AttachEnv) : Bool :=
  (validateInterfaceName msg.containerInterface).isOk &&
    (match s.adoptExisting (bridgeName pkgHash10 msg.bridgeId) (vethHostName pkgHash10 msg.pkg)
        env with
      | .ok adopted => !adopted
      | .error _ => false)

/-- The veths after an attach that ran setup with these options, if it ran it. -/
def linksAfter (links : String → Option Link) (veth : String) (options : Option NetworkOptions)
    (env : WiringEnv) : String → Option Link :=
  let kept := if env.staleDeleted then update links veth none else links
  match options with
  | none => kept
  | some o =>
      let made := update kept veth (some ⟨o.network, o.staticIp⟩)
      match env.setup with
      | .ok => made
      | _ => if env.removed then update kept veth none else if env.created then made else kept

/-- The actor and the veths after an event. A veth that is there is seen to be. -/
def wiredStep (s : Wired) : WiredEvent → Option Wired
  | .attach msg env =>
      let veth := vethHostName pkgHash10 msg.pkg
      let result := s.actor.handleAttach pkgHash10 msg env.toAttachEnv
      -- A veth that is on the host is seen by `link::exists`.
      if (s.links veth).isSome && !env.vethExists then none
      else some {
        actor := result.actor
        links :=
          if s.actor.proceeds pkgHash10 msg env.toAttachEnv then
            linksAfter s.links veth result.setupOptions env
          else s.links }
  | .detach msg env =>
      let veth := vethHostName pkgHash10 msg.pkg
      some {
        actor := s.actor.handleDetach pkgHash10 msg env
        links := if env.vethDeleted then update s.links veth none else s.links }
  | .vanish veth => some { s with links := update s.links veth none }

/-- The address of every veth there is, is marked under it on its bridge. -/
def Marked (s : Wired) : Prop :=
  ∀ veth link, s.links veth = some link → s.actor.ipOf link.br veth = some link.ip

/-- It is, and no message hands the address to another veth. -/
structure KeepsAddress (s : Wired) : Prop where
  marked : Marked s
  notIssued : ∀ veth link, s.links veth = some link →
    ∀ m veth', handedOut pkgHash10 s.actor m = some (veth', link.ip) → veth' = veth

/-- Setup fails after an address was allocated, the veth cannot be deleted, and it is
    one that setup has made, or an older one of that bridge. -/
structure FailsWithVeth (s : Wired) (msg : Attach) (env : WiringEnv) : Prop where
  allocates : s.actor.allocates pkgHash10 msg env.toAttachEnv = true
  allocated : ∃ given t, s.actor.allocateContainerIp (bridgeName pkgHash10 msg.bridgeId)
    (vethHostName pkgHash10 msg.pkg) env.managedSlaves = (.ok given, t)
  failed : env.setup ≠ .ok
  remains : env.removed = false
  veth : env.created = true ∨ env.staleDeleted = false ∧
    ∃ link, s.links (vethHostName pkgHash10 msg.pkg) = some link ∧
      link.br = bridgeName pkgHash10 msg.bridgeId

/-- The event loses the mark of a veth there is. -/
def LosesMark (s : Wired) : WiredEvent → Prop
  | .attach msg env => FailsWithVeth pkgHash10 s msg env
  | _ => False

variable {pkgHash10}

/-- A rollback leaves the veth no address on the bridge. -/
theorem ipOf_rollbackAttach (s : NetworkActor) (br veth : String) (managedSlaves : Bool) :
    (s.rollbackAttach br veth managedSlaves).ipOf br veth = none := by
  unfold NetworkActor.rollbackAttach
  cases hbr : s.bridge br with
  | none =>
      rw [NetworkActor.ipOf, hbr]
      rfl
  | some state =>
      have hset : (s.setBridge br (state.release veth)).ipOf br veth = none := by
        rw [ipOf_setBridge, if_pos rfl, BridgeIpAllocator.release_ipFor, if_pos rfl]
      dsimp only
      split
      · rw [NetworkActor.ipOf, NetworkActor.bridge_destroyBridge]
        split
        · rfl
        · exact hset
      · exact hset

variable (pkgHash10) in
/-- Setup runs exactly if the attach comes to allocate, and is given an address. -/
theorem setupOptions_isSome_iff (s : NetworkActor) (msg : Attach) (env : AttachEnv) :
    (s.handleAttach pkgHash10 msg env).setupOptions.isSome = true ↔
      s.allocates pkgHash10 msg env = true ∧ ∃ given t,
        s.allocateContainerIp (bridgeName pkgHash10 msg.bridgeId)
          (vethHostName pkgHash10 msg.pkg) env.managedSlaves = (.ok given, t) := by
  rcases s.handleAttach_cases pkgHash10 msg env with
    ⟨-, hnone, hidle⟩ | ⟨e, hfail, hnone⟩ | ⟨subnet, ip, s', hallocates, halloc, hoptions, -⟩
  · rw [hnone, hidle]
    exact iff_of_false Bool.false_ne_true fun h => Bool.false_ne_true h.1
  · rw [hnone]
    refine iff_of_false Bool.false_ne_true ?_
    rintro ⟨-, given, t, hgiven⟩
    exact absurd (congrArg Prod.fst (hgiven.symm.trans hfail)) (by
      simp only [reduceCtorEq, not_false_eq_true])
  · rw [hoptions]
    exact iff_of_true rfl ⟨hallocates, (subnet, ip), s', halloc⟩

/-- Only the veth an attach names changes, so only it has to be looked at. -/
theorem marked_iff_of_touches {s t : Wired} {br veth : String} (h : Marked s)
    (htouch : OnlyTouches br veth s.actor t.actor)
    (hlinks : ∀ v, v ≠ veth → t.links v = s.links v) :
    Marked t ↔ ∀ link, t.links veth = some link → t.actor.ipOf link.br veth = some link.ip := by
  refine ⟨fun ht link hlink => ht veth link hlink, fun ht v link hlink => ?_⟩
  -- Any other veth has its link and its mark as before.
  by_cases hv : v = veth
  · rw [hv] at hlink ⊢
    exact ht link hlink
  · rw [hlinks v hv] at hlink
    rw [htouch.ipOf link.br v fun hnamed => hv hnamed.2]
    exact h v link hlink

theorem linksAfter_ok {links : String → Option Link} {veth : String} {o : NetworkOptions}
    {env : WiringEnv} (hok : env.setup = .ok) :
    linksAfter links veth (some o) env veth = some ⟨o.network, o.staticIp⟩ := by
  unfold linksAfter
  rw [hok]
  exact update_self veth _ _

/-- After a failed setup the veth is gone, the one setup has made, or as it was. -/
theorem linksAfter_failed {links : String → Option Link} {veth : String} {o : NetworkOptions}
    {env : WiringEnv} (hfailed : env.setup ≠ .ok) :
    linksAfter links veth (some o) env =
      let kept := if env.staleDeleted then update links veth none else links
      if env.removed then update kept veth none
      else if env.created then update kept veth (some ⟨o.network, o.staticIp⟩) else kept := by
  unfold linksAfter
  cases hsetup : env.setup with
  | ok => exact absurd hsetup hfailed
  | error e => rfl
  | panicked join => rfl

/-- A failed setup leaves a veth of the bridge if it has made one, or has left an older
    one there. -/
theorem linksAfter_failed_iff {links : String → Option Link} {veth br : String}
    {o : NetworkOptions} {env : WiringEnv} (hfailed : env.setup ≠ .ok) (hbr : o.network = br) :
    (∃ link, linksAfter links veth (some o) env veth = some link ∧ link.br = br) ↔
      env.removed = false ∧ (env.created = true ∨ env.staleDeleted = false ∧
        ∃ link, links veth = some link ∧ link.br = br) := by
  rw [linksAfter_failed hfailed]
  dsimp only
  by_cases hremoved : env.removed = true
  · rw [if_pos hremoved, update_self, hremoved]
    simp only [reduceCtorEq, false_and, exists_false, Bool.true_eq_false]
  · rw [if_neg hremoved, Bool.eq_false_iff.mpr hremoved, and_iff_right rfl]
    by_cases hcreated : env.created = true
    · rw [if_pos hcreated, update_self]
      exact iff_of_true ⟨_, rfl, hbr⟩ (Or.inl hcreated)
    · rw [if_neg hcreated, or_iff_right hcreated]
      by_cases hstale : env.staleDeleted = true
      · rw [if_pos hstale, update_self, hstale]
        simp only [reduceCtorEq, false_and, exists_false, Bool.true_eq_false]
      · rw [if_neg hstale, and_iff_right (Bool.eq_false_iff.mpr hstale)]

/-- A veth of another bridge is an older one. -/
theorem old_of_linksAfter_failed {links : String → Option Link} {veth br : String}
    {o : NetworkOptions} {env : WiringEnv} (hfailed : env.setup ≠ .ok) (hbr : o.network = br)
    {link : Link} (hlink : linksAfter links veth (some o) env veth = some link)
    (hne : link.br ≠ br) : links veth = some link := by
  rw [linksAfter_failed hfailed] at hlink
  dsimp only at hlink
  split at hlink
  · rw [update_self] at hlink
    exact absurd hlink.symm (Option.some_ne_none link)
  · split at hlink
    · rw [update_self] at hlink
      exact absurd (Option.some.inj hlink ▸ hbr) hne
    · split at hlink
      · rw [update_self] at hlink
        exact absurd hlink.symm (Option.some_ne_none link)
      · exact hlink

/-- What becomes of the stale veth. -/
theorem linksAfter_none {links : String → Option Link} {veth : String} {env : WiringEnv}
    {link : Link} (h : linksAfter links veth none env veth = some link) :
    env.staleDeleted = false ∧ links veth = some link := by
  unfold linksAfter at h
  by_cases hstale : env.staleDeleted = true
  · simp only [if_pos hstale, update_self] at h
    exact absurd h.symm (Option.some_ne_none link)
  · simp only [if_neg hstale] at h
    exact ⟨Bool.eq_false_iff.mpr hstale, h⟩

theorem linksAfter_ne {links : String → Option Link} {veth v : String}
    (options : Option NetworkOptions) (env : WiringEnv) (hv : v ≠ veth) :
    linksAfter links veth options env v = links v := by
  -- Whether or not the stale veth was deleted, it is not this one.
  have hkept : (if env.staleDeleted then update links veth none else links) v = links v := by
    split
    · exact update_of_ne hv _ _
    · rfl
  have hupdate : ∀ link, update (if env.staleDeleted then update links veth none else links)
      veth link v = links v := by
    intro link
    rw [update_of_ne hv, hkept]
  -- What the setup and its cleanup leave is about the same veth.
  cases options with
  | none => exact hkept
  | some o =>
      by_cases hok : env.setup = .ok
      · unfold linksAfter
        rw [hok]
        exact hupdate _
      · rw [linksAfter_failed hok]
        dsimp only
        split
        · exact hupdate _
        · split
          · exact hupdate _
          · exact hkept

/-- The marks after an attach, in every way it can end. -/
theorem marked_attach_iff {s t : Wired} (h : Marked s) {msg : Attach} {env : WiringEnv}
    (hstep : wiredStep pkgHash10 s (.attach msg env) = some t) :
    Marked t ↔ ¬ FailsWithVeth pkgHash10 s msg env := by
  let veth := vethHostName pkgHash10 msg.pkg
  let br := bridgeName pkgHash10 msg.bridgeId
  have ht : t = {
      actor := (s.actor.handleAttach pkgHash10 msg env.toAttachEnv).actor
      links :=
        if s.actor.proceeds pkgHash10 msg env.toAttachEnv then
          linksAfter s.links veth
            (s.actor.handleAttach pkgHash10 msg env.toAttachEnv).setupOptions env
        else s.links } := by
    unfold wiredStep at hstep
    dsimp only at hstep
    split at hstep
    · exact absurd hstep.symm (Option.some_ne_none t)
    · exact (Option.some.inj hstep).symm
  have htouch : OnlyTouches br veth s.actor t.actor := by
    rw [ht]
    exact handleAttach_touches pkgHash10 s.actor msg env.toAttachEnv
  have hlinks : ∀ v, v ≠ veth → t.links v = s.links v := by
    intro v hv
    rw [ht]
    dsimp only
    split
    · exact linksAfter_ne _ _ hv
    · rfl
  rw [marked_iff_of_touches h htouch hlinks]
  -- A veth of another bridge has its mark there, which the attach does not touch.
  have hother : ∀ link, s.links veth = some link → link.br ≠ br →
      t.actor.ipOf link.br veth = some link.ip := by
    intro link hlink hbr
    rw [htouch.ipOf link.br veth fun hnamed => hbr hnamed.1]
    exact h veth link hlink
  -- Without options setup has not run, and the attach can at most delete a stale veth.
  have hruns := setupOptions_isSome_iff pkgHash10 s.actor msg env.toAttachEnv
  have hidle : (s.actor.handleAttach pkgHash10 msg env.toAttachEnv).setupOptions = none →
      ¬ FailsWithVeth pkgHash10 s msg env ∧
        ∀ link, t.links veth = some link → s.links veth = some link := by
    intro hnone
    rw [hnone] at hruns
    refine ⟨fun hf => Bool.false_ne_true (hruns.mpr ⟨hf.allocates, hf.allocated⟩), ?_⟩
    intro link hlink
    rw [ht, hnone] at hlink
    dsimp only at hlink
    split at hlink
    · exact (linksAfter_none hlink).2
    · exact hlink
  rcases s.actor.handleAttach_cases pkgHash10 msg env.toAttachEnv with
    ⟨hsame, hnone, -⟩ | ⟨e, hfail, hnone⟩ |
      ⟨subnet, ip, s', hallocates, halloc, hoptions, hend⟩
  · -- The actor is as it was, and so is what is left of the veth.
    rcases hidle hnone with ⟨hno, hold⟩
    refine iff_of_true (fun link hlink => ?_) hno
    rw [ht]
    dsimp only
    rw [hsame]
    exact h veth link (hold link hlink)
  · -- The allocation failed, so the veth had no address on this bridge.
    rcases hidle hnone with ⟨hno, hold⟩
    refine iff_of_true (fun link hlink => ?_) hno
    refine hother link (hold link hlink) fun hbr => ?_
    have hheld := h veth link (hold link hlink)
    rw [hbr] at hheld
    rcases allocateContainerIp_of_held hheld env.managedSlaves with ⟨subnet, s', hgiven⟩
    exact absurd (congrArg Prod.fst (hgiven.symm.trans hfail)) (by
      simp only [reduceCtorEq, not_false_eq_true])
  · have hproceeds : s.actor.proceeds pkgHash10 msg env.toAttachEnv = true :=
      (Bool.and_eq_true_iff.mp hallocates).1
    rw [hoptions] at ht
    rw [if_pos hproceeds] at ht
    rcases hend with ⟨hok, hactor⟩ | ⟨hfailed, hactor⟩
    · -- Setup has made the veth, with the address that was allocated.
      refine iff_of_true (fun link hlink => ?_) fun hf => hf.failed hok
      rw [ht] at hlink ⊢
      dsimp only at hlink ⊢
      rw [linksAfter_ok hok] at hlink
      rw [← Option.some.inj hlink, hactor]
      exact (allocateContainerIp_ok halloc).1
    · have hnoaddress : t.actor.ipOf br veth = none := by
        rw [ht]
        dsimp only
        rw [hactor]
        exact ipOf_rollbackAttach s' br veth env.managedSlaves
      have hveth : t.links veth = linksAfter s.links veth (some (buildNetworkOptions pkgHash10
          msg.pkg br subnet ip msg.containerInterface)) env veth := by rw [ht]
      -- After the rollback a veth of the bridge is one that has lost its address.
      have hfails : FailsWithVeth pkgHash10 s msg env ↔
          ∃ link, t.links veth = some link ∧ link.br = br := by
        rw [hveth]
        refine Iff.trans ?_ (linksAfter_failed_iff hfailed rfl).symm
        exact ⟨fun hf => ⟨hf.remains, hf.veth⟩, fun hleft =>
          ⟨hallocates, ⟨_, s', halloc⟩, hfailed, hleft.1, hleft.2⟩⟩
      rw [hfails]
      constructor
      · rintro hall ⟨link, hlink, hbr⟩
        have hmarked := hall link hlink
        rw [hbr, hnoaddress] at hmarked
        exact absurd hmarked.symm (Option.some_ne_none link.ip)
      · intro hnone link hlink
        have hbr : link.br ≠ br := fun hbr => hnone ⟨link, hlink, hbr⟩
        rw [hveth] at hlink
        exact hother link (old_of_linksAfter_failed hfailed rfl hlink hbr) hbr

/-- A step keeps the marks of the veths there are exactly if it does not lose one. -/
theorem marked_step_iff {s t : Wired} (h : Marked s) {e : WiredEvent}
    (hstep : wiredStep pkgHash10 s e = some t) : Marked t ↔ ¬ LosesMark pkgHash10 s e := by
  cases e with
  | attach msg env => exact marked_attach_iff h hstep
  | detach msg env =>
      have hhandle := handleDetach_touches pkgHash10 s.actor msg env
      rw [← Option.some.inj hstep]
      refine iff_of_true ?_ not_false
      -- A detach releases the address where it deletes the veth, and only there.
      by_cases hdeleted : env.vethDeleted = true
      · rw [if_pos hdeleted]
        refine (marked_iff_of_touches h hhandle fun v hv => update_of_ne hv _ _).mpr ?_
        intro link hlink
        dsimp only at hlink
        rw [update_self] at hlink
        exact absurd hlink.symm (Option.some_ne_none link)
      · -- The link is still there, and nothing is released.
        simp only [if_neg hdeleted, NetworkActor.handleDetach]
        exact h
  | vanish veth =>
      rw [← Option.some.inj hstep]
      refine iff_of_true (fun v link hlink => ?_) not_false
      by_cases hv : v = veth
      · rw [hv] at hlink
        dsimp only at hlink
        rw [update_self] at hlink
        exact absurd hlink.symm (Option.some_ne_none link)
      · dsimp only at hlink
        rw [update_of_ne hv] at hlink
        exact h v link hlink

/-- Every event is a message to the actor, or none. -/
theorem actor_wiredStep {s t : Wired} {e : WiredEvent} (hstep : wiredStep pkgHash10 s e = some t) :
    t.actor = s.actor ∨ ∃ m, t.actor = s.actor.handle pkgHash10 m := by
  cases e with
  | attach msg env =>
      unfold wiredStep at hstep
      dsimp only at hstep
      split at hstep
      · exact absurd hstep.symm (Option.some_ne_none t)
      · rw [← Option.some.inj hstep]
        exact Or.inr ⟨.attach msg env.toAttachEnv, rfl⟩
  | detach msg env =>
      rw [← Option.some.inj hstep]
      exact Or.inr ⟨.detach msg env, rfl⟩
  | vanish veth =>
      rw [← Option.some.inj hstep]
      exact Or.inl rfl

/-- The bridges and the pool agree, and a subnet has hosts. -/
def Settled (s : Wired) : Prop := SubnetsAgree s.actor ∧ s.actor.subnets.subnetPrefix ≤ 30

theorem settled_step {s t : Wired} (h : Settled s) {e : WiredEvent}
    (hstep : wiredStep pkgHash10 s e = some t) : Settled t := by
  rcases actor_wiredStep hstep with hsame | ⟨m, hm⟩
  · rw [Settled, hsame]
    exact h
  · rw [Settled, hm, handle_subnetPrefix]
    exact ⟨h.1.handle pkgHash10 m, h.2⟩

/-- A marked address is handed to its own veth or to none. -/
theorem keepsAddress_iff {s : Wired} (h : Settled s) : KeepsAddress pkgHash10 s ↔ Marked s := by
  refine ⟨fun hk => hk.marked, fun hm => ⟨hm, fun veth link hlink m veth' hout => ?_⟩⟩
  exact handedOut_guarded h.1 h.2 (.held link.br (hm veth link hlink)) hout

end Wiring

/-- From a fresh actor on, every veth that an attach has created keeps its address for as
    long as it is there, and the address is handed to no other, exactly if no attach whose
    setup fails leaves behind a veth that its rollback releases the address of. -/
theorem surviving_address_kept_iff (pkgHash10 : String → String) {config : BridgeConfig}
    {s : NetworkActor} (hv : config.validate = .ok ()) (hnew : NetworkActor.new config = .ok s)
    (es : List WiredEvent) :
    Always (wiredStep pkgHash10) (KeepsAddress pkgHash10) ⟨s, fun _ => none⟩ es ↔
      Along (wiredStep pkgHash10) (fun t e => ¬ LosesMark pkgHash10 t e) ⟨s, fun _ => none⟩ es := by
  have hsettled : Settled ⟨s, fun _ => none⟩ := ⟨agree_new hnew, subnetPrefix_new hv hnew⟩
  have hmarked : Marked ⟨s, fun _ => none⟩ := fun veth link hlink =>
    absurd hlink.symm (Option.some_ne_none link)
  -- Along the run the bridges and the pool agree, so only the marks have to be looked at.
  rw [always_congr (fun t e u ht hu => settled_step ht hu) (fun t ht => keepsAddress_iff ht)
    hsettled]
  exact always_iff_along (fun t e u ht hu => marked_step_iff ht hu) hmarked

/-- A host on which setup makes the veth and fails, and the veth cannot be deleted. -/
def stuckHost : WiringEnv where
  toAttachEnv := { freshHost with setup := .error ["netavark: cannot set up NAT"] }
  staleDeleted := true
  created := true
  removed := false

/-- The veth of `a` is left with an address that the next attach is given. -/
theorem surviving_address_reissued : ∃ s, NetworkActor.new poolConfig = .ok s ∧
    ¬ Always (wiredStep sampleHash) (KeepsAddress sampleHash) ⟨s, fun _ => none⟩
      [.attach ⟨"a", "a", "eth0"⟩ stuckHost] := by
  refine ⟨_, rfl, fun h => ?_⟩
  have hkept := (h.2 _ rfl).notIssued "ssam-ca978112ca" ⟨"ssb-ca978112ca", 0xac140001⟩ rfl
    (.attach ⟨"b", "a", "eth0"⟩ freshHost) "ssam-3e23e81600" rfl
  exact absurd hkept (by decide)

/-- A detach that cannot delete the link keeps the mark. -/
theorem surviving_address_kept_detach : ∃ s, NetworkActor.new poolConfig = .ok s ∧
    Always (wiredStep sampleHash) (KeepsAddress sampleHash) ⟨s, fun _ => none⟩
      [.attach ⟨"a", "a", "eth0"⟩ ⟨freshHost, true, true, true⟩,
        .detach ⟨"a", "a"⟩ ⟨false, false⟩] := by
  have hnew : NetworkActor.new poolConfig = .ok _ := rfl
  refine ⟨_, hnew, (surviving_address_kept_iff sampleHash (by decide) hnew _).mpr ?_⟩
  intro t ht
  refine ⟨fun hf => hf.failed rfl, fun u hu => ⟨not_false, trivial⟩⟩

end Network

end Ssam
