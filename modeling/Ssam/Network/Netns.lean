import Ssam.Lib.Serial
import Ssam.Network.Actor
import Ssam.Utils

/-!
# Named Network Namespaces

The namespace of a package is pinned by a mount over a file in a directory of the daemon,
where it outlives the daemon. The actor makes and deletes it one message at a time, with
calls of which each may fail, and may die before any of them.

What the files and mounts stand for is a `Registry` of who holds which namespace. A message
does to it what it is for or nothing, even where the daemon dies at it: a file that is left
without a mount stands for no namespace, and the next message clears it away. What may be
taken for such a file is a namespace that cannot be looked at, and then it is lost.

## Main definitions

* `createNamedNetns`, `deleteNamedNetns`, `verifyIsNetns`: The calls that are made.
* `NsHost`, `NsHost.Served`: The files and mounts, and what the calls do to them.
* `Registry`: Who holds which namespace.
* `Registry.Step`: What a message is for.
* `Loses`: A namespace cannot always be looked at.

## Theorems

* `meets_handle`: The calls carry out what the messages are for.
* `registry_of_run`: A run of messages and deaths is one of the registry.
* `namespaces_kept_iff`: Exactly when every namespace is kept until it is deleted.
* `settled_after_run`: Each message does its work after any run before it.
-/

namespace Ssam

namespace Network

open Lib Prog Function

section Calls

/-- What a system call fails with, as far as it is told apart. -/
inductive NsErrno where
  | inval
  | noent
  | other (text : String)

inductive NsIoError where
  | notFound
  | other (e : Error)

/-- A namespace as its file in nsfs shows it: its type, and a number of its own. -/
structure Nsfs where
  nsType : Int32
  ino : Nat

def cloneNewNet : Int32 := 0x40000000

/-- The calls about a target, with the types of their answers. -/
inductive NsCall : Type → Type where
  | pathExists (path : String) : NsCall Bool
  /-- Answered with the namespace that is mounted there, if one is. -/
  | openTarget (path : String) : NsCall (Except Error (Option Nsfs))
  | nsGetNsType (fd : Option Nsfs) : NsCall (Except Error Int32)
  | unmount (path : String) : NsCall (Except NsErrno Unit)
  | removeFile (path : String) : NsCall (Except NsIoError Unit)
  | createTarget (path : String) : NsCall (Except Error Unit)
  /-- The thread is spawned. Answered with whether it panics. -/
  | spawn : NsCall Bool
  /-- Answered with the namespace the thread has from then on. -/
  | unshare : NsCall (Except Error Nsfs)
  | mountBind (ns : Nsfs) (path : String) : NsCall (Except Error Unit)

/-- Verify that `path` is an existing network namespace. -/
def verifyIsNetns (path : String) : Prog NsCall Error Unit := do
  let fd ← (try_ (.openTarget path)).context s!"Failed to open {path.quote}"
  let nsType ← (try_ (.nsGetNsType fd)).context s!"NS_GET_NSTYPE ioctl failed on {path.quote}"
  if nsType = cloneNewNet then pure ()
  else
    let hex := String.ofList (Nat.toDigits 16 nsType.toUInt32.toNat)
    fail [s!"{path.quote} is not a network namespace (NS_GET_NSTYPE returned 0x{hex})"]

/-- Remove the target. An absent one is not an error. -/
def removeTarget (path : String) : Prog NsCall Error Unit := do
  match ← ask (.removeFile path) with
  | .ok () => pure ()
  | .error .notFound => pure ()
  | .error (.other e) => fail (s!"Failed to remove netns target {path}" :: e)

/-- Delete a persistent named network namespace at `path`. -/
def deleteNamedNetns (path : String) : Prog NsCall Error Unit := do
  match ← ask (.unmount path) with
  | .error (.other text) => fail [s!"Failed to unmount netns {path}", text]
  -- Not mounted or absent are expected and ignored.
  | _ => removeTarget path

/-- What the thread does: a fresh namespace of its own, pinned to the path. -/
def netnsWorker (path : String) : Prog NsCall Error Unit := do
  if ← ask .spawn then fail ["netns worker thread panicked"]
  else
    let ns ← (try_ .unshare).context "Failed to unshare network namespace"
    (try_ (.mountBind ns path)).context s!"Failed to bind-mount net namespace to {path}"

/-- The target file, and the namespace on it. A file without one is removed again. -/
def makeNetns (path : String) : Prog NsCall Error Unit := do
  (try_ (.createTarget path)).context s!"Failed to create netns target {path}"
  (netnsWorker path).onError (ask (.removeFile path))

/-- Create a persistent named network namespace at `path`. -/
def createNamedNetns (path : String) : Prog NsCall Error Unit := do
  if ← ask (.pathExists path) then
    match ← (verifyIsNetns path).attempt with
    | .ok () => pure ()
    | .error _ => do
        (deleteNamedNetns path).context s!"Failed to clear stale netns target {path}"
        makeNetns path
  else makeNetns path

variable (tempDir : String) (pkgHash10 : String → String)

def netnsDir : String := joinPath (joinPath tempDir "ssam") "netns"

/-- Named network namespace identifier for a package. -/
def netnsName (pkg : String) : String := "ssam-" ++ pkgHash10 pkg

def netnsPath (name : String) : String := joinPath (netnsDir tempDir) name

/-- What the actor is asked for. -/
inductive NetnsMessage where
  | createNetns (pkg : String)
  | destroyNetns (pkg : String)

def handleCreateNetns (pkg : String) : Prog NsCall Error Unit :=
  createNamedNetns (netnsPath tempDir (netnsName pkgHash10 pkg))

def handleDestroyNetns (pkg : String) : Prog NsCall Error Unit :=
  deleteNamedNetns (netnsPath tempDir (netnsName pkgHash10 pkg))

def NetnsMessage.handle : NetnsMessage → Prog NsCall Error Unit
  | .createNetns pkg => handleCreateNetns tempDir pkgHash10 pkg
  | .destroyNetns pkg => handleDestroyNetns tempDir pkgHash10 pkg

end Calls

/-- The targets of the directory, and the namespaces there have been. -/
structure NsHost where
  /-- What is mounted over the target that is there, the last mount first. -/
  target : String → Option (List Nsfs)
  /-- No namespace has had this number or a higher one. -/
  fresh : Nat

/-- A call that may fail where it could do its work. -/
inductive NsFault where
  | openTarget
  | nsGetNsType
  | unmount
  | removeFile
  | createTarget
  | spawn
  | unshare
  | mountBind

namespace NsHost

def setTarget (s : NsHost) (path : String) (mounts : Option (List Nsfs)) : NsHost :=
  { s with target := update s.target path mounts }

@[simp] theorem setTarget_self (s : NsHost) (path : String) (mounts : Option (List Nsfs)) :
    (s.setTarget path mounts).target path = mounts := update_self ..

theorem setTarget_of_ne (s : NsHost) {path other : String} (h : other ≠ path)
    (mounts : Option (List Nsfs)) : (s.setTarget path mounts).target other = s.target other :=
  update_of_ne h ..

@[simp] theorem setTarget_setTarget (s : NsHost) (path : String)
    (mounts mounts' : Option (List Nsfs)) :
    (s.setTarget path mounts).setTarget path mounts' = s.setTarget path mounts' := by
  rw [setTarget, setTarget, setTarget, update_idem]

@[simp] theorem setTarget_fresh (s : NsHost) (path : String) (mounts : Option (List Nsfs)) :
    (s.setTarget path mounts).fresh = s.fresh := rfl

/-- How a call is answered, and what it leaves. A call with one of the faults may fail at
    any time, and does nothing then. Whether a path is there is always told rightly. A target
    that is made where there is one leaves it as it is, mounts and all. -/
def Served (faults : NsFault → Prop) {β : Type} (s : NsHost) : NsCall β → NsHost × β → Prop
  | .pathExists path, (t, there) => t = s ∧ there = (s.target path).isSome
  | .openTarget path, (t, .ok fd) => t = s ∧ ∃ mounts, s.target path = some mounts ∧
      fd = mounts.head?
  | .openTarget path, (t, .error _) => t = s ∧ (faults .openTarget ∨ s.target path = none)
  | .nsGetNsType fd, (t, .ok nsType) => t = s ∧ ∃ ns, fd = some ns ∧ nsType = ns.nsType
  | .nsGetNsType fd, (t, .error _) => t = s ∧ (faults .nsGetNsType ∨ fd = none)
  | .unmount path, (t, .ok ()) => ∃ ns mounts, s.target path = some (ns :: mounts) ∧
      t = s.setTarget path (some mounts)
  | .unmount path, (t, .error .inval) => t = s ∧ s.target path = some []
  | .unmount path, (t, .error .noent) => t = s ∧ s.target path = none
  | .unmount _, (t, .error (.other _)) => t = s ∧ faults .unmount
  | .removeFile path, (t, .ok ()) => s.target path = some [] ∧ t = s.setTarget path none
  | .removeFile path, (t, .error .notFound) => t = s ∧ s.target path = none
  -- What something is mounted over is busy.
  | .removeFile path, (t, .error (.other _)) => t = s ∧
      (faults .removeFile ∨ ∃ ns mounts, s.target path = some (ns :: mounts))
  | .createTarget path, (t, .ok ()) =>
      t = if (s.target path).isSome then s else s.setTarget path (some [])
  | .createTarget _, (t, .error _) => t = s ∧ faults .createTarget
  | .spawn, (t, panics) => t = s ∧ (panics = true → faults .spawn)
  | .unshare, (t, .ok ns) => ns = ⟨cloneNewNet, s.fresh⟩ ∧ t = { s with fresh := s.fresh + 1 }
  | .unshare, (t, .error _) => t = s ∧ faults .unshare
  | .mountBind ns path, (t, .ok ()) => ∃ mounts, s.target path = some mounts ∧
      t = s.setTarget path (some (ns :: mounts))
  | .mountBind _ path, (t, .error _) => t = s ∧ (faults .mountBind ∨ s.target path = none)

/-- Every call is answered. -/
theorem exists_served (faults : NsFault → Prop) {β : Type} (s : NsHost) (c : NsCall β) :
    ∃ run, Served faults s c run := by
  cases c with
  | pathExists path => exact ⟨(s, _), rfl, rfl⟩
  | openTarget path =>
      cases htarget : s.target path with
      | none => exact ⟨(s, .error []), rfl, Or.inr htarget⟩
      | some mounts => exact ⟨(s, .ok mounts.head?), rfl, mounts, htarget, rfl⟩
  | nsGetNsType fd =>
      cases fd with
      | none => exact ⟨(s, .error []), rfl, Or.inr rfl⟩
      | some ns => exact ⟨(s, .ok ns.nsType), rfl, ns, rfl, rfl⟩
  | unmount path =>
      cases htarget : s.target path with
      | none => exact ⟨(s, .error .noent), rfl, htarget⟩
      | some mounts =>
          cases mounts with
          | nil => exact ⟨(s, .error .inval), rfl, htarget⟩
          | cons ns mounts => exact ⟨(_, .ok ()), ns, mounts, htarget, rfl⟩
  | removeFile path =>
      cases htarget : s.target path with
      | none => exact ⟨(s, .error .notFound), rfl, htarget⟩
      | some mounts =>
          cases mounts with
          | nil => exact ⟨(_, .ok ()), htarget, rfl⟩
          | cons ns mounts => exact ⟨(s, .error (.other [])), rfl, Or.inr ⟨ns, mounts, htarget⟩⟩
  | createTarget path => exact ⟨(_, .ok ()), rfl⟩
  | spawn => exact ⟨(s, false), rfl, nofun⟩
  | unshare => exact ⟨(_, .ok _), rfl, rfl⟩
  | mountBind ns path =>
      cases htarget : s.target path with
      | none => exact ⟨(s, .error []), rfl, Or.inr htarget⟩
      | some mounts => exact ⟨(_, .ok ()), mounts, htarget, rfl⟩

end NsHost

/-- Who holds which namespace, by the paths of the targets. -/
structure Registry where
  held : String → Option Nat
  /-- Every namespace there has been is below. -/
  seen : Nat
  held_lt : ∀ {path ns}, held path = some ns → ns < seen
  distinct : ∀ {path other ns}, held path = some ns → held other = some ns → path = other

namespace Registry

/-- A namespace has been, and nobody has it. -/
def see (a : Registry) : Registry where
  held := a.held
  seen := a.seen + 1
  held_lt h := Nat.lt_succ_of_lt (a.held_lt h)
  distinct := a.distinct

/-- Nobody has the namespace of the path any longer. -/
def give (a : Registry) (path : String) : Registry where
  held := update a.held path none
  seen := a.seen
  held_lt {p ns} h := by
    by_cases hp : p = path
    · rw [hp, update_self] at h
      cases h
    · rw [update_of_ne hp] at h
      exact a.held_lt h
  distinct {p q ns} hp hq := by
    by_cases hpath : p = path
    · rw [hpath, update_self] at hp
      cases hp
    · by_cases hpath' : q = path
      · rw [hpath', update_self] at hq
        cases hq
      · rw [update_of_ne hpath] at hp
        rw [update_of_ne hpath'] at hq
        exact a.distinct hp hq

/-- The path has a namespace that has never been before. -/
def take (a : Registry) (path : String) : Registry where
  held := update a.held path (some a.seen)
  seen := a.seen + 1
  held_lt {p ns} h := by
    by_cases hp : p = path
    · rw [hp, update_self] at h
      cases h
      exact Nat.lt_succ_self _
    · rw [update_of_ne hp] at h
      exact Nat.lt_succ_of_lt (a.held_lt h)
  distinct {p q ns} hp hq := by
    by_cases hpath : p = path
    · by_cases hpath' : q = path
      · rw [hpath, hpath']
      · rw [hpath, update_self] at hp
        rw [update_of_ne hpath'] at hq
        cases hp
        exact absurd (a.held_lt hq) (Nat.lt_irrefl _)
    · rw [update_of_ne hpath] at hp
      by_cases hpath' : q = path
      · rw [hpath', update_self] at hq
        cases hq
        exact absurd (a.held_lt hp) (Nat.lt_irrefl _)
      · rw [update_of_ne hpath'] at hq
        exact a.distinct hp hq

@[simp] theorem see_held (a : Registry) : a.see.held = a.held := rfl

@[simp] theorem give_held_self (a : Registry) (path : String) : (a.give path).held path = none :=
  update_self ..

theorem give_held_of_ne (a : Registry) {path other : String} (h : other ≠ path) :
    (a.give path).held other = a.held other := update_of_ne h ..

@[simp] theorem take_held_self (a : Registry) (path : String) :
    (a.take path).held path = some a.seen := update_self ..

theorem take_held_of_ne (a : Registry) {path other : String} (h : other ≠ path) :
    (a.take path).held other = a.held other := update_of_ne h ..

/-- What it is for to create a namespace: the path has one, which is the one it has had or
    has never been. It may lose the one it has had where namespaces are lost. -/
inductive Creates (loses : Prop) (path : String) :
    Option (Except Error Unit) → Registry → Registry → Prop where
  | kept {r a} (h : r = some (.ok ()) → a.held path ≠ none) : Creates loses path r a a
  | unshared {r a} (h : r ≠ some (.ok ())) : Creates loses path r a a.see
  | taken {a} (h : a.held path = none) :
      Creates loses path (some (.ok ())) a (a.take path)
  | lost {r a b} (hloses : loses) (h : Creates loses path r (a.give path) b) :
      Creates loses path r a b

/-- What it is for to delete one. -/
inductive Deletes (path : String) : Option (Except Error Unit) → Registry → Registry → Prop where
  | given {r a} : Deletes path r a (a.give path)
  | kept {r a} (h : r ≠ some (.ok ())) : Deletes path r a a

/-- What a message is for. -/
def Step (loses : Prop) (path : String → String) :
    NetnsMessage → Option (Except Error Unit) → Registry → Registry → Prop
  | .createNetns pkg => Creates loses (path pkg)
  | .destroyNetns pkg => Deletes (path pkg)

end Registry

section Stands

/-- The targets are as the registry says. One that is there with nothing mounted over it is
    no namespace. -/
structure NsHost.Stands (s : NsHost) (a : Registry) : Prop where
  fresh : s.fresh = a.seen
  free : ∀ path, a.held path = none → s.target path = none ∨ s.target path = some []
  pinned : ∀ path ns, a.held path = some ns → s.target path = some [⟨cloneNewNet, ns⟩]

namespace NsHost.Stands

variable {s : NsHost} {a : Registry} {path : String} {mounts : Option (List Nsfs)}

theorem give (h : s.Stands a) (hmounts : mounts = none ∨ mounts = some []) :
    (s.setTarget path mounts).Stands (a.give path) := by
  refine ⟨h.fresh, fun p hp => ?_, fun p ns hp => ?_⟩
  · by_cases hpath : p = path
    · rw [hpath, setTarget_self]
      exact hmounts
    · rw [setTarget_of_ne s hpath]
      rw [a.give_held_of_ne hpath] at hp
      exact h.free p hp
  · by_cases hpath : p = path
    · rw [hpath, a.give_held_self] at hp
      cases hp
    · rw [setTarget_of_ne s hpath]
      rw [a.give_held_of_ne hpath] at hp
      exact h.pinned p ns hp

theorem setTarget (h : s.Stands a) (hfree : a.held path = none)
    (hmounts : mounts = none ∨ mounts = some []) : (s.setTarget path mounts).Stands a := by
  refine ⟨h.fresh, fun p hp => ?_, fun p ns hp => ?_⟩
  · by_cases hpath : p = path
    · rw [hpath, setTarget_self]
      exact hmounts
    · rw [setTarget_of_ne s hpath]
      exact h.free p hp
  · have hpath : p ≠ path := by
      rintro rfl
      rw [hfree] at hp
      cases hp
    rw [setTarget_of_ne s hpath]
    exact h.pinned p ns hp

theorem see (h : s.Stands a) : NsHost.Stands { s with fresh := s.fresh + 1 } a.see :=
  ⟨congrArg (· + 1) h.fresh, h.free, h.pinned⟩

theorem take (h : s.Stands a) :
    (NsHost.setTarget { s with fresh := s.fresh + 1 } path
      (some [⟨cloneNewNet, s.fresh⟩])).Stands (a.take path) := by
  refine ⟨congrArg (· + 1) h.fresh, fun p hp => ?_, fun p ns hp => ?_⟩
  · by_cases hpath : p = path
    · rw [hpath, a.take_held_self] at hp
      cases hp
    · rw [setTarget_of_ne _ hpath]
      rw [a.take_held_of_ne hpath] at hp
      exact h.free p hp
  · by_cases hpath : p = path
    · rw [hpath, a.take_held_self] at hp
      cases hp
      rw [hpath, setTarget_self, h.fresh]
    · rw [setTarget_of_ne _ hpath]
      rw [a.take_held_of_ne hpath] at hp
      exact h.pinned p ns hp

end NsHost.Stands

end Stands

section Meets

variable {faults : NsFault → Prop} {path : String} {s : NsHost} {a : Registry}

/-- Looking at a target changes nothing, and what is found to be a namespace is one. -/
theorem verifyIsNetns_spec {S : NsHost → Prop} {Q : Except Error Unit → NsHost → Prop} (hs : S s)
    (hok : ∀ ns mounts, s.target path = some (ns :: mounts) → ns.nsType = cloneNewNet →
      Q (.ok ()) s)
    (herr : ∀ e, (∀ ns, s.target path = some [ns] → ns.nsType = cloneNewNet →
      faults .openTarget ∨ faults .nsGetNsType) → Q (.error e) s) :
    wpUnder (NsHost.Served faults) (fun t _ => S t) Q (verifyIsNetns path) s := by
  simp only [verifyIsNetns, bind_eq, wpUnder_bind, wpUnder_context, wpUnder_try_]
  refine ⟨hs, fun t fd hfd => ?_⟩
  cases fd with
  | error e =>
      rcases hfd with ⟨rfl, hfd⟩
      refine herr _ fun ns hns _ => hfd.imp_right fun hnone => ?_
      rw [hns] at hnone
      cases hnone
  | ok fd =>
      rcases hfd with ⟨rfl, mounts, hmounts, rfl⟩
      simp only [branch_ok, wpUnder_bind, wpUnder_context, wpUnder_try_]
      refine ⟨hs, fun t nsType htype => ?_⟩
      cases nsType with
      | error e =>
          rcases htype with ⟨rfl, htype⟩
          refine herr _ fun ns hns _ => ?_
          rw [hns] at hmounts
          cases hmounts
          rcases htype with hfault | hnone
          · exact Or.inr hfault
          · cases hnone
      | ok nsType =>
          rcases htype with ⟨rfl, ns, hns, rfl⟩
          cases mounts with
          | nil => cases hns
          | cons ns' mounts =>
              cases hns
              simp only [branch_ok]
              by_cases hnet : ns.nsType = cloneNewNet
              · rw [if_pos hnet]
                exact hok ns mounts hmounts hnet
              · rw [if_neg hnet]
                refine herr _ fun ns' hns' hnet' => ?_
                rw [hmounts] at hns'
                cases hns'
                exact absurd hnet' hnet

/-- A target with nothing mounted over it stands for no namespace. -/
theorem NsHost.Stands.give_of_free (h : s.Stands a)
    (hfree : s.target path = none ∨ s.target path = some []) : s.Stands (a.give path) := by
  have hsame : s.setTarget path (s.target path) = s := by
    rw [NsHost.setTarget, update_eq_self]
  rw [← hsame]
  exact h.give hfree

theorem removeTarget_spec (h : s.Stands a) (hfree : s.target path = none ∨ s.target path = some [])
    (hheld : a.held path = none) :
    wpUnder (NsHost.Served faults) (fun t _ => t.Stands a)
      (branch (fun _ t => t.Stands a ∧ t.target path = none)
        fun _ t => faults .removeFile ∧ t.Stands a) (removeTarget path) s := by
  simp only [removeTarget, bind_eq, wpUnder_bind, wpUnder_ask]
  refine ⟨h, fun t r hr => ?_⟩
  cases r with
  | ok u =>
      rcases hr with ⟨-, ht⟩
      rw [ht]
      exact ⟨h.setTarget hheld (Or.inl rfl), s.setTarget_self path none⟩
  | error e =>
      cases e with
      | notFound =>
          rcases hr with ⟨ht, hnone⟩
          rw [ht]
          exact ⟨h, hnone⟩
      | other e =>
          rcases hr with ⟨ht, hfault⟩
          rw [ht]
          refine ⟨hfault.resolve_right ?_, h⟩
          rintro ⟨ns, mounts, hmounts⟩
          rw [hmounts] at hfree
          simp only [reduceCtorEq, Option.some.injEq, or_self] at hfree

/-- The target and the namespace on it go. On an error, or before the end, the namespace may
    have gone and the target not. -/
theorem deleteNamedNetns_spec (hs : s.Stands a) :
    wpUnder (NsHost.Served faults) (fun t _ => t.Stands a ∨ t.Stands (a.give path))
      (branch (fun _ t => t.Stands (a.give path) ∧ t.target path = none)
        fun _ t => (faults .unmount ∨ faults .removeFile) ∧
          (t.Stands a ∨ t.Stands (a.give path)))
      (deleteNamedNetns path) s := by
  have hremove {t : NsHost} (ht : t.Stands (a.give path))
      (hfree : t.target path = none ∨ t.target path = some []) :
      wpUnder (NsHost.Served faults) (fun t _ => t.Stands a ∨ t.Stands (a.give path))
        (branch (fun _ t => t.Stands (a.give path) ∧ t.target path = none)
          fun _ t => (faults .unmount ∨ faults .removeFile) ∧
            (t.Stands a ∨ t.Stands (a.give path))) (removeTarget path) t := by
    refine wpUnder_mono (fun _ _ h => Or.inr h) (fun r u h => ?_)
      (removeTarget_spec ht hfree (a.give_held_self path))
    cases r with
    | ok u => exact h
    | error e => exact ⟨Or.inr h.1, Or.inr h.2⟩
  simp only [deleteNamedNetns, bind_eq, wpUnder_bind, wpUnder_ask]
  refine ⟨Or.inl hs, fun t r hr => ?_⟩
  cases r with
  | ok u =>
      rcases hr with ⟨ns, mounts, hmounts, ht⟩
      have hnil : mounts = [] := by
        cases hheld : a.held path with
        | none =>
            rcases hs.free path hheld with hnone | hempty
            · rw [hnone] at hmounts
              cases hmounts
            · rw [hempty] at hmounts
              cases hmounts
        | some ino =>
            rw [hs.pinned path ino hheld] at hmounts
            cases hmounts
            rfl
      have htarget : t.target path = some [] := by
        rw [ht, s.setTarget_self, hnil]
      refine hremove ?_ (Or.inr htarget)
      rw [ht, hnil]
      exact hs.give (Or.inr rfl)
  | error e =>
      cases e with
      | inval =>
          rcases hr with ⟨ht, hempty⟩
          rw [ht]
          exact hremove (hs.give_of_free (Or.inr hempty)) (Or.inr hempty)
      | noent =>
          rcases hr with ⟨ht, hnone⟩
          rw [ht]
          exact hremove (hs.give_of_free (Or.inl hnone)) (Or.inl hnone)
      | other text =>
          rcases hr with ⟨ht, hfault⟩
          rw [ht]
          exact ⟨Or.inl hfault, Or.inl hs⟩

/-- A namespace that has never been is pinned. On an error, or before the end, one may have
    been that is not. -/
theorem netnsWorker_spec (hs : s.Stands a) (hempty : s.target path = some []) :
    wpUnder (NsHost.Served faults)
      (fun t _ => (t.Stands a ∨ t.Stands a.see) ∧ t.target path = some [])
      (branch (fun _ t => t.Stands (a.take path))
        fun _ t => (∃ f, faults f) ∧ (t.Stands a ∨ t.Stands a.see) ∧ t.target path = some [])
      (netnsWorker path) s := by
  simp only [netnsWorker, bind_eq, wpUnder_bind, wpUnder_ask]
  refine ⟨⟨Or.inl hs, hempty⟩, fun t panics hpanics => ?_⟩
  rcases hpanics with ⟨rfl, hpanics⟩
  rw [branch_ok]
  cases panics with
  | true => exact ⟨⟨_, hpanics rfl⟩, Or.inl hs, hempty⟩
  | false =>
      simp only [Bool.false_eq_true, if_false, wpUnder_bind, wpUnder_context, wpUnder_try_]
      refine ⟨⟨Or.inl hs, hempty⟩, fun u r hr => ?_⟩
      cases r with
      | error e =>
          rcases hr with ⟨hu, hfault⟩
          rw [hu]
          exact ⟨⟨_, hfault⟩, Or.inl hs, hempty⟩
      | ok ns =>
          rcases hr with ⟨hns, hu⟩
          have hsee : u.Stands a.see := by
            rw [hu]
            exact hs.see
          have hempty' : u.target path = some [] := by
            rw [hu]
            exact hempty
          simp only [branch_ok, wpUnder_context, wpUnder_try_]
          refine ⟨⟨Or.inr hsee, hempty'⟩, fun v r hr => ?_⟩
          cases r with
          | error e =>
              rcases hr with ⟨hv, hfault⟩
              rw [hv]
              refine ⟨⟨.mountBind, hfault.resolve_right fun hnone => ?_⟩, Or.inr hsee, hempty'⟩
              rw [hempty'] at hnone
              cases hnone
          | ok u =>
              rcases hr with ⟨mounts, hmounts, hv⟩
              rw [hempty'] at hmounts
              cases hmounts
              rw [branch_ok, branch_ok, hv, hns, hu]
              exact hs.take

theorem makeNetns_spec (hs : s.Stands a) (hheld : a.held path = none) :
    wpUnder (NsHost.Served faults) (fun t _ => t.Stands a ∨ t.Stands a.see)
      (branch (fun _ t => t.Stands (a.take path))
        fun _ t => (∃ f, faults f) ∧ (t.Stands a ∨ t.Stands a.see)) (makeNetns path) s := by
  simp only [makeNetns, bind_eq, wpUnder_bind, wpUnder_context, wpUnder_try_]
  refine ⟨Or.inl hs, fun t r hr => ?_⟩
  cases r with
  | error e =>
      rcases hr with ⟨ht, hfault⟩
      rw [ht]
      exact ⟨⟨_, hfault⟩, Or.inl hs⟩
  | ok u =>
      have htarget : t.Stands a ∧ t.target path = some [] := by
        rw [show t = _ from hr]
        rcases hs.free path hheld with hnone | hempty
        · rw [hnone, if_neg (by decide)]
          exact ⟨hs.setTarget hheld (Or.inr rfl), s.setTarget_self path _⟩
        · rw [hempty, if_pos (by rfl)]
          exact ⟨hs, hempty⟩
      simp only [branch_ok, wpUnder_onError]
      refine wpUnder_mono (fun _ _ h => h.1) (fun r u h => ?_)
        (netnsWorker_spec htarget.1 htarget.2)
      cases r with
      | ok v => exact h
      | error e =>
          rcases h with ⟨hfault, hu, hempty⟩
          rw [branch_error, wpUnder_ask]
          refine ⟨hu, fun v r hr => ⟨hfault, ?_⟩⟩
          cases r with
          | ok u =>
              rcases hr with ⟨-, hv⟩
              rw [hv]
              exact hu.imp (fun h => h.setTarget hheld (Or.inl rfl))
                fun h => h.setTarget hheld (Or.inl rfl)
          | error e =>
              cases e with
              | notFound =>
                  rcases hr with ⟨hv, -⟩
                  rw [hv]
                  exact hu
              | other e =>
                  rcases hr with ⟨hv, -⟩
                  rw [hv]
                  exact hu

/-- A namespace that is there cannot always be looked at. -/
def Loses (faults : NsFault → Prop) : Prop := faults .openTarget ∨ faults .nsGetNsType

theorem Registry.give_of_none (h : a.held path = none) : a.give path = a := by
  have hheld : update a.held path none = a.held := by
    rw [← h, update_eq_self]
  cases a
  simp only [give, Registry.mk.injEq, and_true]
  exact hheld

/-- What follows once the path has no namespace is what may follow before. -/
theorem Registry.Creates.of_give {loses : Prop} {r : Option (Except Error Unit)} {b : Registry}
    (hloses : a.held path ≠ none → loses) (h : Creates loses path r (a.give path) b) :
    Creates loses path r a b := by
  by_cases hheld : a.held path = none
  · rwa [a.give_of_none hheld] at h
  · exact .lost (hloses hheld) h

/-- How a namespace is made where the path has none. -/
theorem makeNetns_creates (hs : s.Stands a) (hheld : a.held path = none) (loses : Prop) :
    wpUnder (NsHost.Served faults)
      (fun t _ => ∃ b, Registry.Creates loses path none a b ∧ t.Stands b)
      (fun r t => (∃ b, Registry.Creates loses path (some r) a b ∧ t.Stands b) ∧
        ∀ e, r = .error e → ∃ f, faults f) (makeNetns path) s := by
  have hnot {r : Option (Except Error Unit)} {t : NsHost} (hr : r ≠ some (.ok ()))
      (ht : t.Stands a ∨ t.Stands a.see) : ∃ b, Registry.Creates loses path r a b ∧ t.Stands b := by
    rcases ht with ht | ht
    · exact ⟨a, .kept fun h => absurd h hr, ht⟩
    · exact ⟨a.see, .unshared hr, ht⟩
  refine wpUnder_mono (fun _ _ h => hnot (Option.some_ne_none _).symm h) (fun r t h => ?_)
    (makeNetns_spec hs hheld)
  cases r with
  | ok u => exact ⟨⟨_, .taken hheld, h⟩, nofun⟩
  | error e => exact ⟨hnot nofun h.2, fun _ _ => h.1⟩

theorem createNamedNetns_spec (hs : s.Stands a) :
    wpUnder (NsHost.Served faults)
      (fun t _ => ∃ b, Registry.Creates (Loses faults) path none a b ∧ t.Stands b)
      (fun r t => (∃ b, Registry.Creates (Loses faults) path (some r) a b ∧ t.Stands b) ∧
        ∀ e, r = .error e → ∃ f, faults f) (createNamedNetns path) s := by
  have hstays {r : Option (Except Error Unit)} (hr : r ≠ some (.ok ())) :
      ∃ b, Registry.Creates (Loses faults) path r a b ∧ s.Stands b :=
    ⟨a, .kept fun h => absurd h hr, hs⟩
  simp only [createNamedNetns, bind_eq, wpUnder_bind, wpUnder_ask]
  refine ⟨hstays (Option.some_ne_none _).symm, fun t there hthere => ?_⟩
  rcases hthere with ⟨rfl, rfl⟩
  rw [branch_ok]
  cases htarget : t.target path with
  | none =>
      have hheld : a.held path = none := by
        cases h : a.held path with
        | none => rfl
        | some ino =>
            rw [hs.pinned path ino h] at htarget
            cases htarget
      exact makeNetns_creates hs hheld _
  | some mounts =>
      simp only [Option.isSome_some, if_true, wpUnder_bind, wpUnder_attempt]
      refine verifyIsNetns_spec (hstays (Option.some_ne_none _).symm)
        (fun ns rest hns _ => ?_) fun e hlook => ?_
      · -- There is a namespace.
        refine ⟨⟨a, .kept fun _ hheld => ?_, hs⟩, fun _ h => by cases h⟩
        rcases hs.free path hheld with hnone | hempty
        · rw [hnone] at hns
          cases hns
        · rw [hempty] at hns
          cases hns
      · -- There is none, or it cannot be looked at.
        have hloses (hheld : a.held path ≠ none) : Loses faults := by
          rcases Option.ne_none_iff_exists'.mp hheld with ⟨ino, hino⟩
          exact hlook _ (hs.pinned path ino hino) rfl
        have hgone {r : Option (Except Error Unit)} {u : NsHost} (hr : r ≠ some (.ok ()))
            (hu : u.Stands a ∨ u.Stands (a.give path)) :
            ∃ b, Registry.Creates (Loses faults) path r a b ∧ u.Stands b := by
          rcases hu with hu | hu
          · exact ⟨a, .kept fun h => absurd h hr, hu⟩
          · exact ⟨_, .of_give hloses (.kept fun h => absurd h hr), hu⟩
        simp only [branch_ok, wpUnder_bind, wpUnder_context]
        refine wpUnder_mono (fun _ _ h => hgone (Option.some_ne_none _).symm h)
          (fun r u h => ?_) (deleteNamedNetns_spec hs)
        cases r with
        | error e => exact ⟨hgone (by simp) h.2, fun _ _ => h.1.elim (⟨_, ·⟩) (⟨_, ·⟩)⟩
        | ok v =>
            refine wpUnder_mono (fun _ _ h => h.imp fun _ h => ⟨.of_give hloses h.1, h.2⟩)
              (fun r v h => ?_) (makeNetns_creates h.1 (a.give_held_self path) (Loses faults))
            rcases h with ⟨⟨b, hb, hv⟩, hfault⟩
            exact ⟨⟨b, .of_give hloses hb, hv⟩, hfault⟩

variable (faults) (tempDir : String) (pkgHash10 : String → String)

/-- The path of the target for a package. -/
def targetPath (pkg : String) : String := netnsPath tempDir (netnsName pkgHash10 pkg)

/-- The actor carries out what its messages are for. -/
theorem meets_handle (m : NetnsMessage) :
    Meets (NsHost.Served faults) (Registry.Step (Loses faults) (targetPath tempDir pkgHash10) m)
      NsHost.Stands (m.handle tempDir pkgHash10) := by
  intro s a hs
  cases m with
  | createNetns pkg =>
      exact wpUnder_mono (fun _ _ h => h) (fun _ _ h => h.1) (createNamedNetns_spec hs)
  | destroyNetns pkg =>
      refine wpUnder_mono (fun _ _ h => ?_) (fun r t h => ?_) (deleteNamedNetns_spec hs)
      · rcases h with h | h
        · exact ⟨a, .kept nofun, h⟩
        · exact ⟨_, .given, h⟩
      · cases r with
        | ok u => exact ⟨_, .given, h.1⟩
        | error e =>
            rcases h.2 with h | h
            · exact ⟨a, .kept nofun, h⟩
            · exact ⟨_, .given, h⟩

end Meets

section Runs

variable (tempDir : String) (pkgHash10 : String → String)

/-- Messages one after the other, of which the daemon may die at any. -/
abbrev NetnsRun (faults : NsFault → Prop) :
    List (NetnsMessage × Option (Except Error Unit)) → NsHost → NsHost → Prop :=
  Serial (carried (NsHost.Served faults) (NetnsMessage.handle tempDir pkgHash10))

variable {tempDir pkgHash10} {faults : NsFault → Prop}
variable {es : List (NetnsMessage × Option (Except Error Unit))} {s t : NsHost} {a : Registry}

/-- What has a namespace keeps it while it is created, if none is lost. -/
theorem Registry.Creates.held {loses : Prop} (hkeeps : ¬ loses) {path other : String}
    {r : Option (Except Error Unit)} {a b : Registry} (h : Creates loses path r a b) {ns : Nat}
    (hheld : a.held other = some ns) : b.held other = some ns := by
  cases h with
  | kept => exact hheld
  | unshared => exact hheld
  | taken hfree =>
      have hne : other ≠ path := by
        rintro rfl
        rw [hfree] at hheld
        cases hheld
      rwa [a.take_held_of_ne hne]
  | lost hloses => exact absurd hloses hkeeps

theorem Registry.Deletes.held {path other : String} (hne : other ≠ path)
    {r : Option (Except Error Unit)} {a b : Registry} (h : Deletes path r a b) {ns : Nat}
    (hheld : a.held other = some ns) : b.held other = some ns := by
  cases h with
  | given => rwa [a.give_held_of_ne hne]
  | kept => exact hheld

/-- Over a run that does not delete it, a namespace is kept, if none is lost. -/
theorem Registry.held_of_serial {loses : Prop} (hkeeps : ¬ loses) {path : String → String}
    {b : Registry} (hrun : Serial (Step loses path) es a b) {p : String} {ns : Nat}
    (hheld : a.held p = some ns) (hnot : ∀ q r, (.destroyNetns q, r) ∈ es → p ≠ path q) :
    b.held p = some ns := by
  refine hrun.invariant (P := fun a => a.held p = some ns) (fun m r a b hm ha hstep => ?_) hheld
  cases m with
  | createNetns q => exact Creates.held hkeeps hstep ha
  | destroyNetns q => exact Deletes.held (hnot q r hm) hstep ha

theorem NsHost.Stands.held_of_target (hs : s.Stands a) {path : String} {ns : Nat}
    (h : s.target path = some [⟨cloneNewNet, ns⟩]) : a.held path = some ns := by
  cases hheld : a.held path with
  | none =>
      rcases hs.free path hheld with hnone | hempty
      · rw [hnone] at h
        cases h
      · rw [hempty] at h
        cases h
  | some ino =>
      rw [hs.pinned path ino hheld] at h
      cases h
      rfl

/-- A namespace that cannot be looked at is replaced. -/
theorem exists_replaced (hloses : Loses faults) {path : String} {ns : Nat}
    (hs : s.target path = some [⟨cloneNewNet, ns⟩]) :
    ∃ t, (createNamedNetns path).Comes (NsHost.Served faults) s (some (.ok ())) t ∧
      t.target path = some [⟨cloneNewNet, s.fresh⟩] := by
  -- Looking at it fails, one way or the other.
  have hlook : ∃ e, ((verifyIsNetns path).attempt : Prog NsCall Error _).Comes
      (NsHost.Served faults) s (some (.ok (.error e))) s := by
    rcases hloses with hfault | hfault
    · have hopen : NsHost.Served faults s (.openTarget path) (s, .error []) :=
        ⟨rfl, Or.inl hfault⟩
      exact ⟨_, .goesOn hopen .ended⟩
    · have hopen : NsHost.Served faults s (.openTarget path) (s, .ok (some ⟨cloneNewNet, ns⟩)) :=
        ⟨rfl, _, hs, rfl⟩
      have htype : NsHost.Served faults s (.nsGetNsType (some ⟨cloneNewNet, ns⟩)) (s, .error []) :=
        ⟨rfl, Or.inl hfault⟩
      exact ⟨_, .goesOn hopen (.goesOn htype .ended)⟩
  rcases hlook with ⟨e, hlook⟩
  have hexists : NsHost.Served faults s (.pathExists path) (s, true) := by
    refine ⟨rfl, ?_⟩
    rw [hs]
    rfl
  let empty := s.setTarget path (some [])
  have hunmount : NsHost.Served faults s (.unmount path) (empty, .ok ()) := ⟨_, _, hs, rfl⟩
  let gone := empty.setTarget path none
  have hgone : gone.target path = none := empty.setTarget_self path _
  have hremove : NsHost.Served faults empty (.removeFile path) (gone, .ok ()) :=
    ⟨s.setTarget_self path _, rfl⟩
  let made := gone.setTarget path (some [])
  have hcreate : NsHost.Served faults gone (.createTarget path) (made, .ok ()) := by
    rw [NsHost.Served, hgone]
    rfl
  have hspawn : NsHost.Served faults made .spawn (made, false) := ⟨rfl, nofun⟩
  let fresh : NsHost := { made with fresh := s.fresh + 1 }
  have hunshare : NsHost.Served faults made .unshare (fresh, .ok ⟨cloneNewNet, s.fresh⟩) :=
    ⟨rfl, rfl⟩
  have hbind : NsHost.Served faults fresh (.mountBind ⟨cloneNewNet, s.fresh⟩ path)
      (fresh.setTarget path (some [⟨cloneNewNet, s.fresh⟩]), .ok ()) :=
    ⟨[], gone.setTarget_self path _, rfl⟩
  exact ⟨_, .goesOn hexists (hlook.bind (.goesOn hunmount (.goesOn hremove (.goesOn hcreate
    (.goesOn hspawn (.goesOn hunshare (.goesOn hbind .ended))))))), fresh.setTarget_self path _⟩

/-- No targets, and no namespaces yet. -/
def NsHost.blank : NsHost := ⟨fun _ => none, 0⟩

def Registry.blank : Registry := ⟨fun _ => none, 0, nofun, nofun⟩

theorem stands_blank : NsHost.blank.Stands Registry.blank :=
  ⟨rfl, fun _ _ => Or.inl rfl, nofun⟩

/-- The daemon dies once it has made the target for `a`. -/
theorem netnsRun_bare : NetnsRun "/tmp" (fun _ => "00") (fun _ => False) [(.createNetns "a", none)]
    NsHost.blank (NsHost.blank.setTarget "/tmp/ssam/netns/ssam-00" (some [])) := by
  let bare := NsHost.blank.setTarget "/tmp/ssam/netns/ssam-00" (some [])
  have hexists : NsHost.Served (fun _ => False) NsHost.blank
      (.pathExists "/tmp/ssam/netns/ssam-00") (NsHost.blank, false) := ⟨rfl, rfl⟩
  have hcreate : NsHost.Served (fun _ => False) NsHost.blank
      (.createTarget "/tmp/ssam/netns/ssam-00") (bare, .ok ()) := rfl
  have hcomes : (createNamedNetns "/tmp/ssam/netns/ssam-00").Comes (NsHost.Served fun _ => False)
      NsHost.blank none bare := .goesOn hexists (.goesOn hcreate .stopped)
  have hpath : targetPath "/tmp" (fun _ => "00") "a" = "/tmp/ssam/netns/ssam-00" := by decide
  refine .cons ?_ .nil
  rw [← hpath] at hcomes
  exact hcomes

/-- Messages and deaths of the daemon do to the namespaces what the messages are for, and
    nothing else. -/
theorem registry_of_run (hs : s.Stands a) (hrun : NetnsRun tempDir pkgHash10 faults es s t) :
    ∃ b, Serial (Registry.Step (Loses faults) (targetPath tempDir pkgHash10)) es a b ∧
      t.Stands b :=
  hrun.simulates_of_meets (meets_handle faults tempDir pkgHash10) hs

theorem registry_of_bare : ∃ b,
    Serial (Registry.Step (Loses fun _ => False) (targetPath "/tmp" fun _ => "00"))
      [(.createNetns "a", none)] Registry.blank b ∧
    (NsHost.blank.setTarget "/tmp/ssam/netns/ssam-00" (some [])).Stands b :=
  registry_of_run stands_blank netnsRun_bare

/-- Every package keeps the namespace it has, over every run of messages and deaths that does
    not delete it, exactly when a namespace that is there can always be looked at. -/
theorem namespaces_kept_iff (tempDir : String) (pkgHash10 : String → String)
    (faults : NsFault → Prop) :
    (∀ s a es t, s.Stands a → NetnsRun tempDir pkgHash10 faults es s t → ∀ pkg ns,
      s.target (targetPath tempDir pkgHash10 pkg) = some [⟨cloneNewNet, ns⟩] →
      (∀ q r, (.destroyNetns q, r) ∈ es →
        targetPath tempDir pkgHash10 pkg ≠ targetPath tempDir pkgHash10 q) →
      t.target (targetPath tempDir pkgHash10 pkg) = some [⟨cloneNewNet, ns⟩]) ↔
    ¬ Loses faults := by
  constructor
  · intro h hloses
    let path := targetPath tempDir pkgHash10 ""
    let s := NsHost.setTarget { NsHost.blank with fresh := 1 } path (some [⟨cloneNewNet, 0⟩])
    have hs : s.target path = some [⟨cloneNewNet, 0⟩] := NsHost.setTarget_self ..
    rcases exists_replaced hloses hs with ⟨t, hcomes, ht⟩
    have hnone (q : String) (r : Option (Except Error Unit)) :
        (NetnsMessage.destroyNetns q, r) ∈ [(NetnsMessage.createNetns "", some (.ok ()))] →
        path ≠ targetPath tempDir pkgHash10 q := by
      intro hmem
      cases List.mem_singleton.mp hmem
    have hrun : NetnsRun tempDir pkgHash10 faults [(.createNetns "", some (.ok ()))] s t :=
      .cons hcomes .nil
    have hkept := h s _ _ t stands_blank.take hrun "" 0 hs hnone
    rw [ht] at hkept
    cases hkept
  · intro hkeeps s a es t hs hrun pkg ns htarget hnot
    rcases hrun.simulates_of_meets (meets_handle faults tempDir pkgHash10) hs with ⟨b, hb, ht⟩
    exact ht.pinned _ ns
      (Registry.held_of_serial hkeeps hb (hs.held_of_target htarget) hnot)

/-- Whatever messages and deaths have left, where no call fails each message does its work:
    the package has a namespace, the one it had if it had one, or its target is gone. -/
theorem settled_after_run (hs : s.Stands a) (hrun : NetnsRun tempDir pkgHash10 faults es s t)
    (pkg : String) :
    (handleCreateNetns tempDir pkgHash10 pkg).Ensures (NsHost.Served fun _ => False) t
      (fun r u => r = .ok () ∧ ∃ ns,
        u.target (targetPath tempDir pkgHash10 pkg) = some [⟨cloneNewNet, ns⟩] ∧
        ∀ ns', t.target (targetPath tempDir pkgHash10 pkg) = some [⟨cloneNewNet, ns'⟩] →
          ns' = ns) ∧
    (handleDestroyNetns tempDir pkgHash10 pkg).Ensures (NsHost.Served fun _ => False) t
      (fun r u => r = .ok () ∧ u.target (targetPath tempDir pkgHash10 pkg) = none) := by
  rcases hrun.simulates_of_meets (meets_handle faults tempDir pkgHash10) hs with ⟨b, -, ht⟩
  have hkeeps : ¬ Loses fun _ => False := fun h => h.elim id id
  constructor
  · have hspec := @createNamedNetns_spec (fun _ => False) (targetPath tempDir pkgHash10 pkg) t b ht
    refine ensures_of_wpUnder (NsHost.exists_served _)
      (wpUnder_mono (fun _ _ h => h) (fun r u h => ?_) hspec)
    rcases h with ⟨⟨c, hc, hu⟩, hfault⟩
    cases r with
    | error e => exact absurd (hfault e rfl) (fun ⟨_, h⟩ => h)
    | ok v =>
        refine ⟨rfl, ?_⟩
        cases hc with
        | kept hheld =>
            rcases Option.ne_none_iff_exists'.mp (hheld rfl) with ⟨ns, hns⟩
            refine ⟨ns, hu.pinned _ ns hns, fun ns' hns' => ?_⟩
            rw [ht.pinned _ ns hns] at hns'
            cases hns'
            rfl
        | unshared h => exact absurd rfl h
        | taken hfree =>
            refine ⟨b.seen, hu.pinned _ _ (b.take_held_self _), fun ns' hns' => ?_⟩
            rw [ht.held_of_target hns'] at hfree
            cases hfree
        | lost hloses => exact absurd hloses hkeeps
  · refine ensures_of_wpUnder (NsHost.exists_served _)
      (wpUnder_mono (fun _ _ h => h) (fun r u h => ?_) (deleteNamedNetns_spec ht))
    cases r with
    | error e => exact (h.1.elim id id).elim
    | ok v => exact ⟨rfl, h.2⟩

/-- The target that is left of `a` is cleared away. -/
theorem settled_after_bare :
    (handleCreateNetns "/tmp" (fun _ => "00") "a").Ensures (NsHost.Served fun _ => False)
      (NsHost.blank.setTarget "/tmp/ssam/netns/ssam-00" (some []))
      (fun r u => r = .ok () ∧ ∃ ns,
        u.target (targetPath "/tmp" (fun _ => "00") "a") = some [⟨cloneNewNet, ns⟩] ∧
        ∀ ns', (NsHost.blank.setTarget "/tmp/ssam/netns/ssam-00" (some [])).target
          (targetPath "/tmp" (fun _ => "00") "a") = some [⟨cloneNewNet, ns'⟩] → ns' = ns) ∧
    (handleDestroyNetns "/tmp" (fun _ => "00") "a").Ensures (NsHost.Served fun _ => False)
      (NsHost.blank.setTarget "/tmp/ssam/netns/ssam-00" (some []))
      (fun r u => r = .ok () ∧ u.target (targetPath "/tmp" (fun _ => "00") "a") = none) :=
  settled_after_run stands_blank netnsRun_bare "a"

end Runs

end Network

end Ssam
