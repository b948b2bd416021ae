import Ssam.Lib.Run
import Ssam.Mount.Pkgfs

/-!
# The Layers at a Mount Point

What mounts and unmounts of a package leave at its mount point, whatever the
kernel answers and wherever the daemon stops in them. What the kernel answers the
calls of one operation is fixed by a `Kernel`; what is mounted stays mounted over
a crash.

One question about the mount point is not enough in three places: a mount that
crashed between its two layers is taken for a whole one, a question that fails
while something is mounted lets a second stack be built or leaves a layer behind,
and a failed rollback leaves the base. `Sound` says of the call of an operation that
it meets none of the three. It asks only for the answers to what is called before the
operation returns or the daemon stops.

## Main definitions

* `Kernel`: What each call is answered.
* `mountStep`: One operation, to its end or to a crash.
* `StackSound`: What a mount point and the operation last returned promise.
* `Kernel.lookups`: How many layers the guards of an unmount find.
* `LeavesMounted`: What a mount that succeeds leaves, whatever it is answered.
* `Kernel.Heeds`: What the calls an operation makes have to be answered.
* `Sound`: The condition on a call of an operation.

## Theorems

* `mountPkgfs_wp`, `unmountPkgfs_wp`: What the operations do to a sound stack.
* `unmountPkgfs_clears_iff`: When an unmount leaves nothing, whatever is mounted.
* `mountPkgfs_leavesMounted`: A mount that succeeds leaves something mounted.
* `mountStep_sound`: A sound call keeps the mount point sound.
* `stack_sound`: A run of sound calls keeps it sound.
* `half_mount_reused`: A mount that crashed after its base layer.
-/

namespace Ssam

namespace Mount

open Lib

variable {cfg : MountConfig}

/-- What the kernel and the devices answer the calls of one operation. -/
structure Kernel where
  /-- The mount table can be read and the mount point looked up. -/
  probe : ProbeSite → Bool
  attach : Except Error Unit
  loopPath : Option String
  verityDevice : Except Error String
  targetExists : Layer → Bool
  createDirAll : MountDir → Except Error Unit
  mount : Layer → Except Error Unit
  unmount : UnmountSite → Except Error Unit

/-- Answer a call where `layers` are mounted, topmost first. Unmounting takes the
    topmost layer away, and a question that cannot be answered is a no. -/
def Kernel.serve (k : Kernel) {α : Type} (layers : List Layer) : Syscall α → List Layer × α
  -- A lookup that fails is answered like one that finds nothing.
  | .isExactMount site => (layers, k.probe site && !layers.isEmpty)
  | .attach _ _ _ => (layers, k.attach)
  | .loopPath => (layers, k.loopPath)
  | .verityDevice _ => (layers, k.verityDevice)
  | .targetExists layer => (layers, k.targetExists layer)
  | .createDirAll dir => (layers, k.createDirAll dir)
  | .mount layer _ _ _ =>
      match k.mount layer with
      | .ok () => (layer :: layers, .ok ())
      | .error e => (layers, .error e)
  | .unmount site =>
      match layers, k.unmount site with
      | _ :: rest, .ok () => (rest, .ok ())
      -- Nothing is mounted there.
      | [], .ok () => ([], .error ["Invalid argument (os error 22)"])
      | _, .error e => (layers, .error e)

/-- All the layers of a package file system. -/
def fullStack (cfg : MountConfig) : List Layer :=
  if cfg.overlayEnabled then [.overlay, .base] else [.base]

inductive MountOp where
  | mount
  | unmount
  deriving DecidableEq

def MountOp.program (pkgName : String) (pkgfs : PackageFsMetadata cfg) :
    MountOp → Mounting Unit
  | .mount => mountPkgfs pkgName pkgfs
  | .unmount => unmountPkgfs pkgfs

/-- What an operation returned, and what was mounted when it began. -/
structure Returned where
  op : MountOp
  before : List Layer
  result : Except Error Unit

/-- How many layers the guards of an unmount find, if there are as many. -/
def Kernel.lookups (cfg : MountConfig) (k : Kernel) : Nat :=
  (if cfg.overlayEnabled && k.probe .overlayGuard then 1 else 0) +
    if k.probe .baseGuard then 1 else 0

/-- An operation that succeeds has left something mounted. -/
def LeavesMounted (r : Except Error Unit) (layers : List Layer) : Prop := r = .ok () → layers ≠ []

/-- A mount point. -/
structure MountPoint where
  /-- What is mounted, topmost first. -/
  layers : List Layer
  /-- The operation that has just returned, unless the daemon stopped in it. -/
  returned : Option Returned

/-- An operation is called, and the daemon stops if the operation is about to
    make one call more than `calls`. -/
structure MountEvent where
  op : MountOp
  kernel : Kernel
  calls : Nat

def mountStep (pkgName : String) (pkgfs : PackageFsMetadata cfg) (s : MountPoint)
    (e : MountEvent) : Option MountPoint :=
  let run := Prog.cut e.kernel.serve e.calls (e.op.program pkgName pkgfs) s.layers
  some ⟨run.1, run.2.map (Returned.mk e.op s.layers)⟩

/-- What the operation returned holds of the layers it left. -/
def Returned.Kept (cfg : MountConfig) (r : Returned) (layers : List Layer) : Prop :=
  match r.op, r.result with
  | .mount, .ok () => layers = fullStack cfg
  | .mount, .error _ => layers.length ≤ r.before.length
  | .unmount, .ok () => layers = []
  | .unmount, .error _ => True

/-- The layers are the lower ones of a full stack, and the operation that has
    just returned has done what it says. -/
structure StackSound (cfg : MountConfig) (s : MountPoint) : Prop where
  stacked : s.layers <:+ fullStack cfg
  kept : ∀ r ∈ s.returned, r.Kept cfg s.layers

/-- The mount table is not asked in vain while something is mounted, and a rollback
    unmounts the base. -/
def Kernel.Heeds (k : Kernel) {α : Type} (layers : List Layer) : Syscall α → Prop
  | .isExactMount site => layers ≠ [] → k.probe site = true
  | .unmount .rollback => k.unmount .rollback = .ok ()
  | _ => True

/-- No half of a stack is to be mounted again, and the calls that are made are heeded. -/
structure Sound (pkgName : String) (pkgfs : PackageFsMetadata cfg) (s : MountPoint)
    (e : MountEvent) : Prop where
  whole : e.op = .mount → s.layers = [] ∨ s.layers = fullStack cfg
  heeded : Prog.Made e.kernel.serve e.kernel.Heeds e.calls (e.op.program pkgName pkgfs) s.layers

/-- The ways a call may be served where a kernel that `K` allows it answers it. -/
def Kernel.Answers (K : {β : Type} → List Layer → Syscall β → Kernel → Prop) {α : Type}
    (layers : List Layer) (c : Syscall α) (out : List Layer × α) : Prop :=
  ∃ k, K layers c k ∧ k.serve layers c = out

section Operations

variable {K : {β : Type} → List Layer → Syscall β → Kernel → Prop} {L : List Layer → Prop}
  {Q : Except Error Unit → List Layer → Prop} {layers : List Layer}

/-- Nothing is found where nothing is mounted. -/
theorem probe_nil (k : Kernel) (site : ProbeSite) :
    (k.serve [] (.isExactMount site)).2 = false := Bool.and_false _

/-- Something is found where something is mounted, if the mount table answers. -/
theorem probe_cons {k : Kernel} {site : ProbeSite} (h : k.probe site = true) (top : Layer)
    (rest : List Layer) : (k.serve (top :: rest) (.isExactMount site)).2 = true :=
  (Bool.and_true _).trans h

/-- A question is answered with a no where nothing is mounted. -/
theorem ask_nil {site : ProbeSite} {f : Bool → Mounting Unit} (hL : L [])
    (h : Prog.wpUnder (Kernel.Answers K) (fun t _ => L t) Q (f false) []) :
    Prog.wpUnder (Kernel.Answers K) (fun t _ => L t) Q
      ((Prog.ask (.isExactMount site)).bind f) [] := by
  rw [Prog.wpUnder_bind, Prog.wpUnder_ask]
  refine ⟨hL, ?_⟩
  rintro t found ⟨k, -, hk⟩
  have hfound : found = false := (congrArg Prod.snd hk).symm.trans (probe_nil k site)
  obtain rfl := congrArg Prod.fst hk
  rw [hfound]
  exact h

/-- A question is answered with a yes where something is, if the mount table answers. -/
theorem ask_mounted {site : ProbeSite} {f : Bool → Mounting Unit} (hne : layers ≠ [])
    (hprobe : ∀ k, K layers (.isExactMount site) k → k.probe site = true) (hL : L layers)
    (h : Prog.wpUnder (Kernel.Answers K) (fun t _ => L t) Q (f true) layers) :
    Prog.wpUnder (Kernel.Answers K) (fun t _ => L t) Q
      ((Prog.ask (.isExactMount site)).bind f) layers := by
  rw [Prog.wpUnder_bind, Prog.wpUnder_ask]
  refine ⟨hL, ?_⟩
  rintro t found ⟨k, hK, hk⟩
  rcases List.exists_cons_of_ne_nil hne with ⟨top, rest, rfl⟩
  have hfound : found = true :=
    (congrArg Prod.snd hk).symm.trans (probe_cons (hprobe k hK) top rest)
  obtain rfl := congrArg Prod.fst hk
  rw [hfound]
  exact h

theorem makeDirs_wp (dir : MountDir) (shown : String) (hL : L layers) (hok : Q (.ok ()) layers)
    (herr : ∀ e, Q (.error e) layers) :
    Prog.wpUnder (Kernel.Answers K) (fun t _ => L t) Q (makeDirs dir shown) layers := by
  rw [makeDirs, Prog.wpUnder_context, Prog.wpUnder_try_]
  refine ⟨hL, ?_⟩
  rintro t r ⟨k, -, hk⟩
  obtain rfl := congrArg Prod.fst hk
  cases r with
  | ok u => exact hok
  | error e => exact herr _

theorem doMount_wp (pkgfs : PackageFsMetadata cfg) (layer : Layer) (source fstype : String)
    (data : Option String) (hL : L layers) (hok : Q (.ok ()) (layer :: layers))
    (herr : ∀ e, Q (.error e) layers) :
    Prog.wpUnder (Kernel.Answers K) (fun t _ => L t) Q (doMount pkgfs layer source fstype data)
      layers := by
  -- The call is made whether or not the mount point had to be made first.
  have hmount : Prog.wpUnder (Kernel.Answers K) (fun t _ => L t) Q
      ((Prog.try_ (Syscall.mount layer source fstype data)).context
        s!"Failed to mount {source.quote} on {pkgfs.mountPoint.quote} with filesystem type {fstype}")
      layers := by
    rw [Prog.wpUnder_context, Prog.wpUnder_try_]
    refine ⟨hL, ?_⟩
    rintro t r ⟨k, -, hk⟩
    simp only [Kernel.serve] at hk
    split at hk
    · cases hk
      exact hok
    · cases hk
      exact herr _
  rw [doMount, Prog.bind_eq, Prog.wpUnder_bind, Prog.wpUnder_ask]
  refine ⟨hL, ?_⟩
  rintro t present ⟨k, -, hk⟩
  obtain rfl := congrArg Prod.fst hk
  rw [Prog.branch_ok]
  cases present with
  | true => exact hmount
  | false =>
      rw [if_neg Bool.false_ne_true, Prog.bind_eq, Prog.wpUnder_bind]
      exact makeDirs_wp _ _ hL hmount herr

theorem mountOverlayfs_wp (pkgfs : PackageFsMetadata cfg) (hL : L layers)
    (hok : Q (.ok ()) (.overlay :: layers)) (herr : ∀ e, Q (.error e) layers) :
    Prog.wpUnder (Kernel.Answers K) (fun t _ => L t) Q (mountOverlayfs pkgfs) layers := by
  simp only [mountOverlayfs, Prog.bind_eq, Prog.wpUnder_bind]
  refine makeDirs_wp _ _ hL ?_ herr
  rw [Prog.branch_ok, Prog.wpUnder_bind]
  exact makeDirs_wp _ _ hL (doMount_wp pkgfs _ _ _ _ hL hok herr) herr

theorem doUnmount_wp (pkgfs : PackageFsMetadata cfg) (site : UnmountSite) (hL : L layers)
    {layer : Layer} {rest : List Layer} (hlayers : layers = layer :: rest) (hok : Q (.ok ()) rest)
    (herr : ∀ e, (∃ k, K layers (.unmount site) k ∧ k.unmount site ≠ .ok ()) →
      Q (.error e) layers) :
    Prog.wpUnder (Kernel.Answers K) (fun t _ => L t) Q (doUnmount pkgfs site) layers := by
  subst hlayers
  rw [doUnmount, Prog.wpUnder_context, Prog.wpUnder_try_]
  refine ⟨hL, ?_⟩
  rintro t r ⟨k, hK, hk⟩
  cases hun : k.unmount site with
  | ok u =>
      simp only [Kernel.serve, hun, Prod.mk.injEq] at hk
      rw [← hk.1, ← hk.2]
      exact hok
  | error e =>
      simp only [Kernel.serve, hun, Prod.mk.injEq] at hk
      rw [← hk.1, ← hk.2]
      exact herr _ ⟨k, hK, by rw [hun]; exact nofun⟩

theorem mountDevice_wp (pkgfs : PackageFsMetadata cfg) (blkdev : String) (hnil : L [])
    (hbase : L [.base]) (hok : Q (.ok ()) (fullStack cfg)) (herr : ∀ e, Q (.error e) [])
    (hleft : ∀ e, (∃ k, K [.base] (.unmount .rollback) k ∧ k.unmount .rollback ≠ .ok ()) →
      Q (.error e) [.base]) :
    Prog.wpUnder (Kernel.Answers K) (fun t _ => L t) Q (mountDevice blkdev pkgfs) [] := by
  simp only [mountDevice, mountDeviceWith, defaultDeviceMountBackend, Prog.bind_eq,
    Prog.wpUnder_bind]
  refine doMount_wp pkgfs _ _ _ _ hnil ?_ herr
  rw [Prog.branch_ok]
  unfold fullStack at hok
  cases hov : cfg.overlayEnabled with
  | false =>
      rw [hov] at hok
      exact hok
  | true =>
      rw [hov] at hok
      simp only [if_true, Prog.wpUnder_bind, Prog.wpUnder_attempt]
      refine mountOverlayfs_wp pkgfs hbase hok fun e => ?_
      -- The overlay failed: the rollback takes the base away again, if it succeeds.
      simp only [Prog.branch_ok, Prog.wpUnder_bind, Prog.wpUnder_attempt]
      exact doUnmount_wp pkgfs _ hbase rfl (herr e) fun _ hne => hleft e hne

/-- Mounting where nothing is mounted builds the full stack or leaves nothing, but for
    a base that a failed rollback has left. -/
theorem mountPkgfs_wp (pkgName : String) (pkgfs : PackageFsMetadata cfg) (hnil : L [])
    (hbase : L [.base]) (hok : Q (.ok ()) (fullStack cfg)) (herr : ∀ e, Q (.error e) [])
    (hleft : ∀ e, (∃ k, K [.base] (.unmount .rollback) k ∧ k.unmount .rollback ≠ .ok ()) →
      Q (.error e) [.base]) :
    Prog.wpUnder (Kernel.Answers K) (fun t _ => L t) Q (mountPkgfs pkgName pkgfs) [] := by
  rw [mountPkgfs, Prog.bind_eq]
  refine ask_nil hnil ?_
  rw [if_neg Bool.false_ne_true, Prog.bind_eq, Prog.wpUnder_bind, Prog.wpUnder_context,
    Prog.wpUnder_try_]
  refine ⟨hnil, ?_⟩
  rintro t r ⟨k, -, hk⟩
  -- Before the first mount a failure leaves the stack empty.
  obtain rfl := congrArg Prod.fst hk
  cases r with
  | error e => exact herr _
  | ok u =>
      rw [Prog.branch_ok, Prog.branch_ok, Prog.bind_eq, Prog.wpUnder_bind, Prog.wpUnder_ask]
      refine ⟨hnil, ?_⟩
      rintro t path ⟨k, -, hk⟩
      obtain rfl := congrArg Prod.fst hk
      rw [Prog.branch_ok]
      cases path with
      | none => exact herr _
      | some loopDev =>
          simp only [Prog.bind_eq, Prog.wpUnder_bind, Prog.wpUnder_context, Prog.wpUnder_try_]
          refine ⟨hnil, ?_⟩
          rintro t r ⟨k, -, hk⟩
          obtain rfl := congrArg Prod.fst hk
          cases r with
          | error e => exact herr _
          | ok device =>
              rw [Prog.branch_ok, Prog.branch_ok, Prog.wpUnder_context]
              exact mountDevice_wp pkgfs device hnil hbase hok (fun e => herr _)
                fun e h => hleft _ h

/-- Mounting again where the mount table answers leaves everything as it is. -/
theorem mountPkgfs_mounted_wp (pkgName : String) (pkgfs : PackageFsMetadata cfg)
    (hprobe : ∀ k, K layers (.isExactMount .gate) k → k.probe .gate = true) (hne : layers ≠ [])
    (hL : L layers) (hok : Q (.ok ()) layers) :
    Prog.wpUnder (Kernel.Answers K) (fun t _ => L t) Q (mountPkgfs pkgName pkgfs) layers := by
  rw [mountPkgfs, Prog.bind_eq]
  refine ask_mounted hne hprobe hL ?_
  rw [if_pos rfl]
  exact hok

/-- The lower part of unmounting: at most the base is left. -/
theorem unmountBase_wp (pkgfs : PackageFsMetadata cfg) (msg : String)
    (hprobe : layers ≠ [] →
      ∀ k, K layers (.isExactMount .baseGuard) k → k.probe .baseGuard = true)
    (hlayers : layers = [] ∨ layers = [.base]) (hL : L layers) (hok : Q (.ok ()) [])
    (herr : ∀ e, Q (.error e) layers) :
    Prog.wpUnder (Kernel.Answers K) (fun t _ => L t) Q
      ((Prog.ask (.isExactMount .baseGuard)).bind fun mounted =>
        if mounted = true then (doUnmount pkgfs .base).context msg else Prog.done (.ok ()))
      layers := by
  rcases hlayers with rfl | rfl
  · refine ask_nil hL ?_
    rw [if_neg Bool.false_ne_true]
    exact hok
  · refine ask_mounted (List.cons_ne_nil _ _) (hprobe (List.cons_ne_nil _ _)) hL ?_
    rw [if_pos rfl, Prog.wpUnder_context]
    exact doUnmount_wp pkgfs _ hL rfl hok fun e _ => herr _

theorem stacked_cases (h : layers <:+ fullStack cfg) :
    (layers = [] ∨ layers = [.base]) ∨
      cfg.overlayEnabled = true ∧ layers = [.overlay, .base] := by
  unfold fullStack at h
  cases hov : cfg.overlayEnabled with
  | false =>
      rw [hov] at h
      simp only [Bool.false_eq_true, if_false, List.suffix_cons_iff, List.suffix_nil] at h
      exact Or.inl h.symm
  | true =>
      rw [hov] at h
      simp only [if_true, List.suffix_cons_iff, List.suffix_nil] at h
      rcases h with h | h | h
      · exact Or.inr ⟨rfl, h⟩
      · exact Or.inl (Or.inr h)
      · exact Or.inl (Or.inl h)

theorem base_stacked : [Layer.base] <:+ fullStack cfg := by
  unfold fullStack
  split
  · exact List.suffix_cons _ _
  · exact List.suffix_rfl

/-- Unmounting where the mount table answers leaves nothing, or fails. -/
theorem unmountPkgfs_wp (pkgfs : PackageFsMetadata cfg) (hstacked : layers <:+ fullStack cfg)
    (hprobe : ∀ t, t <:+ layers → t ≠ [] →
      ∀ site k, K t (.isExactMount site) k → k.probe site = true)
    (hL : ∀ t, t <:+ layers → L t) (hok : Q (.ok ()) [])
    (herr : ∀ e t, t <:+ layers → Q (.error e) t) :
    Prog.wpUnder (Kernel.Answers K) (fun t _ => L t) Q (unmountPkgfs pkgfs) layers := by
  have hself : L layers := hL layers List.suffix_rfl
  simp only [unmountPkgfs, Prog.bind_eq, Prog.pure_eq]
  cases hov : cfg.overlayEnabled with
  | false =>
      have hbase : layers = [] ∨ layers = [.base] := by
        rcases stacked_cases hstacked with h | ⟨h, _⟩
        · exact h
        · rw [hov] at h
          exact absurd h Bool.false_ne_true
      rw [if_neg Bool.false_ne_true, Prog.wpUnder_bind, Prog.wpUnder_done, Prog.branch_ok,
        if_neg Bool.false_ne_true]
      exact unmountBase_wp pkgfs _ (hprobe _ List.suffix_rfl · _) hbase
        hself hok fun e => herr e layers List.suffix_rfl
  | true =>
      rw [if_pos rfl]
      cases layers with
      | nil =>
          refine ask_nil hself ?_
          rw [if_neg Bool.false_ne_true]
          exact unmountBase_wp pkgfs _ (fun hne => absurd rfl hne) (Or.inl rfl) hself hok
            fun e => herr e [] List.suffix_rfl
      | cons top rest =>
          have hrest : rest = [] ∨ rest = [.base] := by
            rcases stacked_cases hstacked with (h | h) | ⟨_, h⟩
            · exact absurd h (List.cons_ne_nil _ _)
            · exact Or.inl (List.cons.inj h).2
            · exact Or.inr (List.cons.inj h).2
          have hbelow : rest <:+ top :: rest := List.suffix_cons top rest
          refine ask_mounted (List.cons_ne_nil _ _)
            (hprobe _ List.suffix_rfl (List.cons_ne_nil _ _) _) hself ?_
          rw [if_pos rfl, Prog.wpUnder_bind, Prog.wpUnder_context]
          refine doUnmount_wp pkgfs _ hself rfl ?_ fun e _ => herr _ _ List.suffix_rfl
          -- The topmost layer is gone, and the base's guard asks again.
          exact unmountBase_wp pkgfs _ (hprobe rest hbelow · _) hrest
            (hL rest hbelow) hok fun e => herr e rest hbelow

end Operations

section Answers

/-- A guard and its unmount: the topmost layer is taken away if it is found, or stays
    with an error. -/
theorem eval_guarded (k : Kernel) (pkgfs : PackageFsMetadata cfg) (site : ProbeSite)
    (unmount : UnmountSite) (msg : String) (layers : List Layer) :
    let run := Prog.eval k.serve ((Prog.ask (.isExactMount site)).bind fun mounted =>
      if mounted = true then (doUnmount pkgfs unmount).context msg else Prog.done (.ok ())) layers
    run = (layers.drop (if k.probe site then 1 else 0), .ok ()) ∨
      ∃ e, run = (layers, .error e) ∧ layers ≠ [] := by
  simp only [Prog.eval_bind, Prog.eval_ask, Kernel.serve]
  cases hprobe : k.probe site with
  | false => exact Or.inl rfl
  | true =>
      cases layers with
      | nil => exact Or.inl rfl
      | cons top rest =>
          simp only [Bool.true_and, List.isEmpty_cons, Bool.not_false, if_true, Prog.context,
            doUnmount, Prog.eval_mapError, Prog.eval_try_, Kernel.serve]
          cases k.unmount unmount with
          | ok u => exact Or.inl rfl
          | error e => exact Or.inr ⟨_, rfl, List.cons_ne_nil _ _⟩

/-- An unmount that succeeds has taken away what its guards found, and one that fails
    leaves something mounted. -/
theorem eval_unmountPkgfs (k : Kernel) (pkgfs : PackageFsMetadata cfg) (layers : List Layer) :
    let run := Prog.eval k.serve (unmountPkgfs pkgfs) layers
    run = (layers.drop (k.lookups cfg), .ok ()) ∨ (∃ e, run.2 = .error e) ∧ run.1 ≠ [] := by
  -- What is left to do after the overlay's guard: the base's asks again.
  have hbase : ∀ n rest, layers.drop n = rest →
      let run := Prog.eval k.serve ((Prog.ask (.isExactMount .baseGuard)).bind fun mounted =>
        if mounted = true then
          (doUnmount pkgfs .base).context
            s!"unmount_pkgfs({pkgfs.path}): Failed while unmounting package filesystem"
        else Prog.done (.ok ())) rest
      run = (layers.drop (n + if k.probe .baseGuard then 1 else 0), .ok ()) ∨
        (∃ e, run.2 = .error e) ∧ run.1 ≠ [] := by
    rintro n rest rfl
    rw [← List.drop_drop]
    rcases eval_guarded k pkgfs .baseGuard .base _ (layers.drop n) with hrun | ⟨e, hrun, hne⟩
    · exact Or.inl hrun
    · exact Or.inr ⟨⟨e, congrArg Prod.snd hrun⟩, ne_of_eq_of_ne (congrArg Prod.fst hrun) hne⟩
  simp only [unmountPkgfs, Prog.bind_eq, Prog.pure_eq, Kernel.lookups]
  cases hov : cfg.overlayEnabled with
  | false => exact hbase 0 layers rfl
  | true =>
      cases hprobe : k.probe .overlayGuard with
      | false =>
          simp only [if_true, Prog.eval_bind, Prog.eval_ask, Kernel.serve, hprobe, Bool.false_and]
          exact hbase 0 layers rfl
      | true =>
          cases layers with
          | nil =>
              simp only [if_true, Prog.eval_bind, Prog.eval_ask, Kernel.serve, hprobe]
              exact hbase 1 [] rfl
          | cons top rest =>
              simp only [if_true, Prog.eval_bind, Prog.eval_ask, Kernel.serve, hprobe,
                List.isEmpty_cons, Bool.not_false, Bool.and_self, Prog.context, doUnmount,
                Prog.eval_mapError, Prog.eval_try_]
              cases k.unmount .overlay with
              | ok u => exact hbase 1 rest rfl
              | error e => exact Or.inr ⟨⟨_, rfl⟩, List.cons_ne_nil _ _⟩

/-- An unmount leaves nothing exactly if it succeeds and its guards find every layer. -/
theorem unmountPkgfs_clears_iff (k : Kernel) (pkgfs : PackageFsMetadata cfg)
    (layers : List Layer) :
    let run := Prog.eval k.serve (unmountPkgfs pkgfs) layers
    run.1 = [] ↔ run.2 = .ok () ∧ layers.length ≤ k.lookups cfg := by
  rcases eval_unmountPkgfs k pkgfs layers with hrun | ⟨⟨e, herr⟩, hne⟩
  · simp only [hrun, List.drop_eq_nil_iff, true_and]
  · simp only [herr, hne, reduceCtorEq, false_and]

theorem leavesMounted_error (e : Error) (layers : List Layer) :
    LeavesMounted (.error e) layers := by
  intro h
  exact absurd h (by simp only [reduceCtorEq, not_false_eq_true])

theorem mountDevice_leavesMounted (pkgfs : PackageFsMetadata cfg) (blkdev : String)
    (layers : List Layer) :
    Prog.wpUnder (Kernel.Answers fun _ _ _ => True) (fun _ _ => True) LeavesMounted
      (mountDevice blkdev pkgfs) layers := by
  have hlayer : ∀ layer rest, LeavesMounted (.ok ()) (layer :: rest) :=
    fun layer rest _ => List.cons_ne_nil layer rest
  have herr : ∀ rest e, LeavesMounted (.error e) rest := fun rest e => leavesMounted_error e rest
  simp only [mountDevice, mountDeviceWith, defaultDeviceMountBackend, Prog.bind_eq,
    Prog.wpUnder_bind]
  refine doMount_wp pkgfs _ _ _ _ trivial ?_ (herr _)
  rw [Prog.branch_ok]
  split
  · simp only [Prog.wpUnder_bind, Prog.wpUnder_attempt]
    -- The rollback may do what it will: the mount fails with the overlay.
    refine mountOverlayfs_wp pkgfs trivial (hlayer _ _) fun e => ?_
    simp only [Prog.branch_ok, Prog.wpUnder_bind, Prog.wpUnder_attempt]
    exact Prog.wpUnder_of_forall (fun r rest => herr rest e) _ _
  · exact hlayer _ _

/-- Whatever a mount is answered, it does not succeed without anything mounted. -/
theorem mountPkgfs_leavesMounted (pkgName : String) (pkgfs : PackageFsMetadata cfg)
    (layers : List Layer) :
    Prog.wpUnder (Kernel.Answers fun _ _ _ => True) (fun _ _ => True) LeavesMounted
      (mountPkgfs pkgName pkgfs) layers := by
  have herr : ∀ rest e, LeavesMounted (.error e) rest := fun rest e => leavesMounted_error e rest
  rw [mountPkgfs, Prog.bind_eq, Prog.wpUnder_bind, Prog.wpUnder_ask]
  refine ⟨trivial, ?_⟩
  rintro t found ⟨k, -, hk⟩
  rw [Prog.branch_ok]
  obtain ⟨rfl, rfl⟩ := Prod.mk.inj hk
  cases hfound : (k.probe .gate && !layers.isEmpty) with
  | true =>
      -- The gate is passed only where something is mounted.
      intro _ hnil
      rw [hnil, List.isEmpty_nil, Bool.not_true, Bool.and_false] at hfound
      exact absurd hfound Bool.false_ne_true
  | false =>
      rw [if_neg Bool.false_ne_true, Prog.bind_eq, Prog.wpUnder_bind, Prog.wpUnder_context,
        Prog.wpUnder_try_]
      refine ⟨trivial, fun t r _ => ?_⟩
      cases r with
      | error e => exact herr _ _
      | ok u =>
          rw [Prog.branch_ok, Prog.branch_ok, Prog.bind_eq, Prog.wpUnder_bind, Prog.wpUnder_ask]
          refine ⟨trivial, fun t path _ => ?_⟩
          rw [Prog.branch_ok]
          cases path with
          | none => exact herr _ _
          | some loopDev =>
              simp only [Prog.bind_eq, Prog.wpUnder_bind, Prog.wpUnder_context, Prog.wpUnder_try_]
              refine ⟨trivial, fun t r _ => ?_⟩
              cases r with
              | error e => exact herr _ _
              | ok device =>
                  rw [Prog.branch_ok, Prog.branch_ok, Prog.wpUnder_context]
                  refine Prog.wpUnder_mono (fun _ _ h => h) (fun r rest h => ?_)
                    (mountDevice_leavesMounted pkgfs device t)
                  cases r with
                  | ok u => exact h
                  | error e => exact herr _ _

end Answers

section Runs

variable (pkgName : String) (pkgfs : PackageFsMetadata cfg)

theorem nil_stacked : ([] : List Layer) <:+ fullStack cfg := List.nil_suffix

/-- A call that returns or crashes does what `StackSound` says if the whole call
    does. -/
theorem mountStep_sound_of_wp {s t : MountPoint} {e : MountEvent} (hs : Sound pkgName pkgfs s e)
    (hwp : Prog.wpUnder (Kernel.Answers fun layers c k => k = e.kernel ∧ k.Heeds layers c)
      (fun t _ => t <:+ fullStack cfg)
      (fun r t => t <:+ fullStack cfg ∧ Returned.Kept cfg ⟨e.op, s.layers, r⟩ t)
      (e.op.program pkgName pkgfs) s.layers)
    (hstep : mountStep pkgName pkgfs s e = some t) : StackSound cfg t := by
  rw [← Option.some.inj hstep]
  rcases Prog.cut_of_wpUnder hwp (fun layers c hc => ⟨e.kernel, ⟨rfl, hc⟩, rfl⟩) hs.heeded with
    ⟨r, hr, hstacked, hkept⟩ | ⟨hnone, _, _, h⟩
  · refine ⟨hstacked, fun r' hr' => ?_⟩
    simp only [hr, Option.map_some, Option.mem_def, Option.some.injEq] at hr'
    rw [← hr']
    exact hkept
  · refine ⟨h, fun r' hr' => ?_⟩
    simp only [hnone, Option.map_none, Option.mem_def, reduceCtorEq] at hr'

/-- A sound call keeps the mount point sound. -/
theorem mountStep_sound {s t : MountPoint} {e : MountEvent} (h : StackSound cfg s)
    (hs : Sound pkgName pkgfs s e) (hstep : mountStep pkgName pkgfs s e = some t) :
    StackSound cfg t := by
  refine mountStep_sound_of_wp pkgName pkgfs hs ?_ hstep
  cases hop : e.op with
  | mount =>
      -- A rollback that fails is what the soundness of the step rules out.
      have hleft : ∀ P : Prop,
          (∃ k : Kernel, (k = e.kernel ∧ k.Heeds [.base] (.unmount .rollback)) ∧
            k.unmount .rollback ≠ .ok ()) → P := by
        rintro P ⟨k, ⟨-, hheeds⟩, hne⟩
        exact absurd hheeds hne
      rcases hs.whole hop with hnil | hfull
      · rw [hnil]
        exact mountPkgfs_wp pkgName pkgfs nil_stacked base_stacked ⟨List.suffix_rfl, rfl⟩
          (fun err => ⟨nil_stacked, Nat.le_refl 0⟩) fun err h => hleft _ h
      · -- A full stack is found by the lookup, and nothing is mounted.
        have hne : s.layers ≠ [] := by
          rw [hfull]
          unfold fullStack
          split
          · exact List.cons_ne_nil _ _
          · exact List.cons_ne_nil _ _
        refine mountPkgfs_mounted_wp pkgName pkgfs ?_ hne h.stacked ⟨h.stacked, hfull⟩
        rintro k ⟨-, hheeds⟩
        exact hheeds hne
  | unmount =>
      refine unmountPkgfs_wp pkgfs h.stacked ?_ (fun t ht => ht.trans h.stacked)
        ⟨nil_stacked, rfl⟩ fun err t ht => ⟨ht.trans h.stacked, trivial⟩
      rintro t - hne site k ⟨-, hheeds⟩
      exact hheeds hne

/-- Whatever calls are made and wherever the daemon stops in them: if every call
    is sound, the mount point is sound after each of them. -/
theorem stack_sound {es : List MountEvent}
    (h : Along (mountStep pkgName pkgfs) (Sound pkgName pkgfs) ⟨[], none⟩ es) :
    Always (mountStep pkgName pkgfs) (StackSound cfg) ⟨[], none⟩ es :=
  always_of_along (fun _ _ _ hp hc ht => mountStep_sound pkgName pkgfs hp hc ht)
    ⟨nil_stacked, fun r hr => absurd hr (Option.not_mem_none r)⟩ h

end Runs

/-- Overlays are kept under `/o`. -/
def overlaid : MountConfig where
  packagesOverlayfsRoot := "/o"
  packagesMntRoot := "/m"

def packageA : PackageFsMetadata overlaid where
  path := "/p/a.ssam"
  mountPoint := "/m/a"
  overlayfsRoot := "/o/a"
  fstype := "squashfs"
  pkgfsOffset := 4096
  length := 8192
  rooted := fun _ => by decide

/-- Everything asked of the kernel goes well. -/
def Kernel.fine : Kernel where
  probe _ := true
  attach := .ok ()
  loopPath := some "/dev/loop0"
  verityDevice := .ok "/dev/dm-0"
  targetExists _ := true
  createDirAll _ := .ok ()
  mount _ := .ok ()
  unmount _ := .ok ()

theorem Kernel.fine_heeds {α : Type} (layers : List Layer) (c : Syscall α) :
    Kernel.fine.Heeds layers c := by
  cases c with
  | isExactMount site => exact fun _ => rfl
  | unmount site => cases site <;> first | rfl | trivial
  | _ => trivial

/-- A mount and an unmount that nothing goes wrong in are sound. -/
theorem stack_sound_fine :
    Always (mountStep "a" packageA) (StackSound overlaid) ⟨[], none⟩
      [⟨.mount, .fine, 20⟩, ⟨.unmount, .fine, 20⟩] := by
  refine stack_sound "a" packageA ?_
  rintro s ⟨⟩
  refine ⟨⟨fun _ => Or.inl rfl, Prog.made_of_forall _ Kernel.fine_heeds _ _ _⟩, ?_⟩
  rintro s' ⟨⟩
  refine ⟨⟨fun h => absurd h (by decide), ?_⟩, trivial⟩
  exact Prog.made_of_forall _ Kernel.fine_heeds _ _ _

/-- The daemon stops before the overlay is prepared, and the package is mounted
    again: the base alone is taken for the whole stack. -/
theorem half_mount_reused :
    ¬ Always (mountStep "a" packageA) (StackSound overlaid) ⟨[], none⟩
        [⟨.mount, .fine, 6⟩, ⟨.mount, .fine, 20⟩] := by
  rintro ⟨-, h⟩
  have hsound : StackSound overlaid ⟨[.base], some ⟨.mount, [.base], .ok ()⟩⟩ :=
    always_head ((h _ rfl).2 _ rfl)
  have hkept : [Layer.base] = fullStack overlaid := hsound.kept _ rfl
  exact absurd hkept (by decide)

end Mount

end Ssam
