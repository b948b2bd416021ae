import Ssam.Daemon.Messages
import Ssam.Lib.Run

/-!
# The Daemon over Time

The daemon as a system: it starts, it handles its messages one after another, and it
may be killed at any time.

A program shows every state the daemon goes through between two calls. A daemon killed
in the middle of a message is one whose program was cut short there, and what it has
done to the files and to the data stays.

## Main definitions

* `Action`, `DaemonEvent`: What the daemon does, how its calls are answered, and
  whether it is killed.
* `DaemonState`: The packages, while the daemon runs, and the world.
* `begin`, `daemonStep`: The program of an action, and the step it comes to.
* `stopped`: A daemon that has not been started.

## Theorems

* `states_within`: What an action keeps in all of its states.
* `named_daemonStep`: Data directories go on being named as their packages.
-/

namespace Ssam

namespace Daemon

open Lib Manager Volume Function

/-- What the daemon does. -/
inductive Action (C : Type) where
  /-- It starts, scans the data root, on a file system with quotas or without, and
      reads the package directories. -/
  | start (quota : Bool) (scan : Scan) (bundled downloaded : DirEntries)
  | install (msg : InstallPackage C)
  | remove (msg : RemovePackage)

/-- An action, with how its calls are answered, and before which of them the daemon
    is killed, if it is. -/
structure DaemonEvent (C : Type) where
  action : Action C
  kernel : Nat → CallKernel C
  killed : Option Nat

/-- The packages, while the daemon runs, and what it works on. -/
structure DaemonState (C F B : Type) where
  store : Option (PackageStore F)
  world : World C B

variable {C F V B : Type}

/-- A daemon that has not been started. -/
def stopped (files : Files C) (disk : Disk B) : DaemonState C F B :=
  ⟨none, files, disk, ⟨⟨false, ∅⟩, ∅⟩, 0⟩

variable [LE V] [DecidableLE V] [ToString V] (env : DaemonEnv C F V)

/-- The world an action begins in, and its program. A daemon that starts knows no
    volume, and one that does not run handles no message. -/
def begin (d : DaemonState C F B) :
    Action C → Option (World C B × DaemonProg C F (PackageStore F))
  | .start quota scan bundled downloaded =>
      let volumes : VolumeManager := ⟨.new quota env.dataRoot d.world.disk.root scan, ∅⟩
      some ({ d.world with volumes := volumes },
        reloadPackages env.toEnv d.world.files bundled downloaded)
  | .install msg => d.store.map fun store => (d.world, do
      let handled ← handleInstallPackage env.toEnv store msg
      pure handled.1)
  | .remove msg => d.store.map fun store => (d.world, do
      let handled ← handleRemovePackage env.toEnv store msg
      pure handled.1)

def daemonStep (d : DaemonState C F B) (e : DaemonEvent C) : Option (DaemonState C F B) :=
  (begin env d e.action).map fun (w, program) =>
    match e.killed with
    | none =>
        let run := program.eval (serve e.kernel env) w
        ⟨run.2.toOption, run.1⟩
    | some n => ⟨none, (program.cut (serve e.kernel env) n w).1⟩

/-- The package an action is about. -/
def Action.packageName : Action C → Option String
  | .start _ _ _ _ => none
  | .install msg => some (packageNameOf env.toEnv msg)
  | .remove msg => some msg.packageName

variable {env}

/-- Whatever holds in all states of an action holds after the step. -/
theorem step_of_states {P : World C B → Prop} {d d' : DaemonState C F B} {e : DaemonEvent C}
    {w : World C B} {program : DaemonProg C F (PackageStore F)}
    (hbegin : begin env d e.action = some (w, program))
    (h : Prog.wp (serve e.kernel env) (fun s _ => P s) (fun _ s => P s) program w)
    (hstep : daemonStep env d e = some d') : P d'.world := by
  rw [daemonStep, hbegin, Option.map_some] at hstep
  rw [← Option.some.inj hstep]
  dsimp only
  split
  · exact Prog.eval_of_wp _ h
  · exact (Prog.forall_cut_iff _).mpr h _

variable (env) in
/-- An action begins with the data as it is, and makes calls within its package. -/
theorem begin_cases {d : DaemonState C F B} {a : Action C} {w : World C B}
    {program : DaemonProg C F (PackageStore F)} (h : begin env d a = some (w, program)) :
    w.disk = d.world.disk ∧ (Named env.dataRoot d.world.volumes →
      Named env.dataRoot w.volumes) ∧ ∃ p, program.Only (within env.dataRoot p fun _ => True) := by
  cases a with
  | start quota scan bundled downloaded =>
      have hw := Option.some.inj h
      rw [Prod.mk.injEq] at hw
      rw [← hw.1, ← hw.2]
      -- A start knows no volume yet.
      refine ⟨rfl, fun _ n dir hget => absurd hget.symm (Option.some_ne_none _), "", ?_⟩
      exact Prog.only_mono within_of_addsData (only_reloadPackages env _ _ _)
  | install msg =>
      rcases Option.map_eq_some_iff.mp h with ⟨store, -, hw⟩
      rw [Prod.mk.injEq] at hw
      rw [← hw.1, ← hw.2]
      exact ⟨rfl, id, _, Prog.only_bind
        (only_handleInstallPackage env store msg trivial fun _ _ => trivial) fun _ => trivial⟩
  | remove msg =>
      rcases Option.map_eq_some_iff.mp h with ⟨store, -, hw⟩
      rw [Prod.mk.injEq] at hw
      rw [← hw.1, ← hw.2]
      exact ⟨rfl, id, _, Prog.only_bind (only_handleRemovePackage env store msg)
        fun _ => trivial⟩

omit [LE V] [DecidableLE V] [ToString V] in
/-- A program within a package keeps the names, and what is in the directories of the
    others, in all of its states. -/
theorem states_within (k : Nat → CallKernel C) {w : World C B} {α : Type} {p : String}
    {dirs : String → Prop} {program : DaemonProg C F α}
    (h : program.Only (within env.dataRoot p dirs)) (hnamed : Named env.dataRoot w.volumes)
    (hp : dirs (joinPath env.dataRoot p)) :
    Prog.wp (serve k env) (fun s _ => Named env.dataRoot s.volumes ∧
        ∀ path rel node, ¬ dirs path → w.disk.nodeAt path rel = some node →
          s.disk.nodeAt path rel = some node)
      (fun _ s => Named env.dataRoot s.volumes ∧
        ∀ path rel node, ¬ dirs path → w.disk.nodeAt path rel = some node →
          s.disk.nodeAt path rel = some node) program w := by
  refine Prog.wp_of_only _ (I := fun s : World C B => Named env.dataRoot s.volumes ∧
    ∀ path rel node, ¬ dirs path → w.disk.nodeAt path rel = some node →
      s.disk.nodeAt path rel = some node) ?_ h ⟨hnamed, fun _ _ _ _ hnode => hnode⟩
  rintro β s c hc ⟨hnamed, hkeeps⟩
  rcases keeps_of_within k env s hc hnamed hp with ⟨hnamed', hkeeps'⟩
  exact ⟨hnamed', fun path rel node hpath hnode =>
    hkeeps' path rel node hpath (hkeeps path rel node hpath hnode)⟩

/-- Data directories go on being named as their packages. -/
theorem named_daemonStep {d d' : DaemonState C F B} {e : DaemonEvent C}
    (hnamed : Named env.dataRoot d.world.volumes) (hstep : daemonStep env d e = some d') :
    Named env.dataRoot d'.world.volumes := by
  cases hbegin : begin env d e.action with
  | none =>
      rw [daemonStep, hbegin] at hstep
      exact absurd hstep.symm (Option.some_ne_none d')
  | some begun =>
      rcases begun with ⟨w, program⟩
      rcases begin_cases env hbegin with ⟨-, hnames, p, honly⟩
      have hstates := states_within e.kernel honly (hnames hnamed) trivial
      exact step_of_states hbegin
        (Prog.wp_mono _ (fun _ _ h => h.1) (fun _ _ h => h.1) hstates) hstep

theorem named_stopped (dataRoot : String) (files : Files C) (disk : Disk B) :
    Named dataRoot (stopped files disk : DaemonState C F B).world.volumes :=
  fun _ _ hget => absurd hget.symm (Option.some_ne_none _)

/-- The daemon in an environment in which all works but for what `build` says. -/
def plainDaemon (build : String × Nat → Except Error Unit) :
    DaemonEnv (String × Nat) (String × Nat) Nat where
  toEnv := { plainEnv build with
    volumeMetadata := packageVolumeMetadata "/data" Prod.fst
      ⟨fun _ _ => .ok (), fun _ => none, fun _ => none⟩ }
  dataRoot := "/data"
  info := ⟨fun _ _ => .ok (), fun _ => none, fun _ => none⟩
  volumeMetadata_eq := rfl

/-- The daemon starts, without quotas, where the downloaded directory has this file. -/
def startWith (fileName : String) : DaemonEvent (String × Nat) :=
  ⟨.start false ⟨.ok (), [], fun _ => true⟩ none (some [.ok fileName]),
    fun _ => .fine ("", 0), none⟩

/-- A disk with one data directory that has one file in it. -/
def diskWith (path : String) : Disk Nat :=
  update (fun _ => none) path (some ⟨⟨false, 0⟩, AList.insert "f" (.file 7) ∅⟩)

end Daemon

end Ssam
