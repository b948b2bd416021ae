import Mathlib.Logic.Function.Basic
import Mathlib.Logic.Relation
import Ssam.Lib.Calls

/-!
# Programs Side by Side

Programs that run as tasks over one shared state. A step is a call of one of the
tasks, or something that no task does. Which task makes the next call is left open,
so the calls come in any order, and a task may be killed between two of its calls.

A task relies on some of the state to stay as it is while others make their steps. A
`Discipline` is an invariant of the shared state and what each task relies on. `guarded`
says of one program alone that it keeps the discipline with each of its calls, where
between any two of them anything may happen that it can rely on. Its rules follow the
program. The programs are put together once, in `Pool.sound_of_reaches`: if each of
them keeps the discipline alone, all of them keep it in every run.

## Main definitions

* `Shared`: How the calls of the tasks are served, and what else happens.
* `Discipline`: An invariant, and what a task relies on.
* `Discipline.guarded`: A program that keeps it.
* `Discipline.Triple`: The same from every state under a condition.
* `Discipline.Carried`: The triple of a program over calls that are programs.
* `Pool`: The tasks and the state they share.

## Theorems

* `Triple.bind`: Two programs in sequence meet in a middle condition.
* `Triple.of_only`: A condition that each of the calls keeps.
* `Carried.bind`, `Carried.of_only`: Calls that are carried out by programs.
* `Pool.sound_of_reaches`: A run of tasks that keep the discipline.
-/

namespace Lib

variable {ι : Type} {κ κ' : Type → Type} {ε ε' σ τ α β : Type}

open Prog

/-- How the calls of a task are served, what a task that is killed leaves behind, and
    what happens beside the tasks. -/
structure Shared (ι : Type) (κ : Type → Type) (σ : Type) where
  served : {β : Type} → ι → σ → κ β → σ × β → Prop
  killed : ι → σ → σ → Prop
  beside : σ → σ → Prop

/-- An invariant of the shared state, and what a task relies on that others leave as it
    is. -/
structure Discipline (S : Shared ι κ σ) where
  inv : σ → Prop
  rely : ι → σ → σ → Prop
  rely_refl : ∀ i s, rely i s s
  rely_trans : ∀ {i s t u}, rely i s t → rely i t u → rely i s u
  rely_of_killed : ∀ {i j s t}, S.killed i s t → i ≠ j → rely j s t
  rely_of_beside : ∀ {i s t}, S.beside s t → rely i s t
  inv_of_killed : ∀ {i s t}, S.killed i s t → inv s → inv t
  inv_of_beside : ∀ {s t}, S.beside s t → inv s → inv t

/-- Calls that are served as calls of a wider kind. -/
def Shared.comap (f : {β : Type} → κ β → κ' β) (S : Shared ι κ' σ) : Shared ι κ σ where
  served i s c := S.served i s (f c)
  killed := S.killed
  beside := S.beside

namespace Discipline

def comap (f : {β : Type} → κ β → κ' β) {S : Shared ι κ' σ} (D : Discipline S) :
    Discipline (S.comap f) where
  inv := D.inv
  rely := D.rely
  rely_refl := D.rely_refl
  rely_trans := D.rely_trans
  rely_of_killed := D.rely_of_killed
  rely_of_beside := D.rely_of_beside
  inv_of_killed := D.inv_of_killed
  inv_of_beside := D.inv_of_beside

variable {S : Shared ι κ σ} (D : Discipline S) (i : ι)

/-- A step of the task: the invariant is kept, and so is what the others rely on. -/
structure Keeps (s t : σ) : Prop where
  inv : D.inv t
  rely : ∀ j, j ≠ i → D.rely j s t

theorem keeps_refl {s : σ} (h : D.inv s) : D.Keeps i s s := ⟨h, fun j _ => D.rely_refl j s⟩

/-- The task keeps the discipline with each of its calls, and `Q` holds of how it ends.
    Before each call and after the last one the others may have made steps. -/
def guarded (Q : Except ε α → σ → Prop) : Prog κ ε α → σ → Prop
  | done r, s => ∀ t, D.rely i s t → D.inv t → Q r t
  | call c next, s => ∀ t, D.rely i s t → D.inv t → ∀ u a, S.served i t c (u, a) →
      D.Keeps i t u ∧ guarded Q (next a) u

/-- What the task knows does not change while others make their steps. -/
def Stable (P : σ → Prop) : Prop := ∀ s t, P s → D.rely i s t → D.inv t → P t

/-- From every state under `P` the program keeps the discipline, and it ends under `Q`. -/
structure Triple (P : σ → Prop) (p : Prog κ ε α) (Q : Except ε α → σ → Prop) : Prop where
  run : ∀ s, P s → D.guarded i Q p s

variable {D i} {P P' : σ → Prop} {Q Q' : Except ε α → σ → Prop}

theorem guarded_of_rely {p : Prog κ ε α} {s t : σ} (h : D.guarded i Q p s) (hst : D.rely i s t) :
    D.guarded i Q p t := by
  cases p with
  | done r => exact fun u htu => h u (D.rely_trans hst htu)
  | call c next => exact fun u htu => h u (D.rely_trans hst htu)

/-- A program that starts after steps of others. -/
theorem guarded_of_later {p : Prog κ ε α} {s : σ}
    (h : ∀ t, D.rely i s t → D.inv t → D.guarded i Q p t) : D.guarded i Q p s := by
  cases p with
  | done r => exact fun t hst ht => h t hst ht t (D.rely_refl i t) ht
  | call c next => exact fun t hst ht => h t hst ht t (D.rely_refl i t) ht

theorem guarded_mono (hQ : ∀ r s, Q r s → Q' r s) {p : Prog κ ε α} {s : σ}
    (h : D.guarded i Q p s) : D.guarded i Q' p s := by
  induction p generalizing s with
  | done r => exact fun t hst ht => hQ r t (h t hst ht)
  | call c next ih =>
      intro t hst ht u a hu
      rcases h t hst ht u a hu with ⟨hkeeps, hnext⟩
      exact ⟨hkeeps, ih a hnext⟩

theorem guarded_bind {f : α → Prog κ ε β} {Q : Except ε β → σ → Prop} {p : Prog κ ε α} {s : σ}
    (h : D.guarded i (branch (fun a => D.guarded i Q (f a)) fun e => Q (.error e)) p s) :
    D.guarded i Q (p.bind f) s := by
  induction p generalizing s with
  | done r =>
      cases r with
      | ok a => exact guarded_of_later h
      | error e => exact h
  | call c next ih =>
      intro t hst ht u a hu
      rcases h t hst ht u a hu with ⟨hkeeps, hnext⟩
      exact ⟨hkeeps, ih a hnext⟩

theorem guarded_attempt {Q : Except ε' (Except ε α) → σ → Prop} {p : Prog κ ε α} {s : σ}
    (h : D.guarded i (fun r => Q (.ok r)) p s) : D.guarded i Q p.attempt s := by
  induction p generalizing s with
  | done r => exact h
  | call c next ih =>
      intro t hst ht u a hu
      rcases h t hst ht u a hu with ⟨hkeeps, hnext⟩
      exact ⟨hkeeps, ih a hnext⟩

theorem guarded_mapError {f : ε → ε'} {Q : Except ε' α → σ → Prop} {p : Prog κ ε α} {s : σ}
    (h : D.guarded i (branch (fun a => Q (.ok a)) fun e => Q (.error (f e))) p s) :
    D.guarded i Q (p.mapError f) s := by
  induction p generalizing s with
  | done r => cases r <;> exact h
  | call c next ih =>
      intro t hst ht u a hu
      rcases h t hst ht u a hu with ⟨hkeeps, hnext⟩
      exact ⟨hkeeps, ih a hnext⟩

theorem Stable.comap {f : {β : Type} → κ β → κ' β} {S : Shared ι κ' σ} {D : Discipline S}
    (h : D.Stable i P) : (D.comap f).Stable i P := h

namespace Triple

theorem mono (hP : ∀ s, P' s → P s) (hQ : ∀ r s, Q r s → Q' r s) {p : Prog κ ε α}
    (h : D.Triple i P p Q) : D.Triple i P' p Q' :=
  ⟨fun s hs => guarded_mono hQ (h.run s (hP s hs))⟩

/-- What is known of no state in particular. -/
theorem of_imp {φ : Prop} {p : Prog κ ε α} (h : φ → D.Triple i P p Q) :
    D.Triple i (fun s => φ ∧ P s) p Q := ⟨fun s hs => (h hs.1).run s hs.2⟩

theorem done (hP : D.Stable i P) {r : Except ε α} (h : ∀ s, P s → Q r s) :
    D.Triple i P (Prog.done r) Q :=
  ⟨fun s hs t hst ht => h t (hP s t hs hst ht)⟩

/-- A call is made under `P`, and its answer decides on what holds after it. -/
theorem call (hP : D.Stable i P) {c : κ β} {next : β → Prog κ ε α} {M : β → σ → Prop}
    (hc : ∀ s u a, P s → D.inv s → S.served i s c (u, a) → D.Keeps i s u ∧ M a u)
    (hnext : ∀ a, D.Triple i (M a) (next a) Q) : D.Triple i P (Prog.call c next) Q := by
  refine ⟨fun s hs t hst ht u a hu => ?_⟩
  rcases hc t u a (hP s t hs hst ht) ht hu with ⟨hkeeps, hM⟩
  exact ⟨hkeeps, (hnext a).run u hM⟩

theorem ask (hP : D.Stable i P) {c : κ α} (hQ : ∀ a, D.Stable i (Q (.ok a)))
    (hc : ∀ s u a, P s → D.inv s → S.served i s c (u, a) → D.Keeps i s u ∧ Q (.ok a) u) :
    D.Triple i P (Prog.ask c) Q :=
  call hP hc fun a => done (hQ a) fun _ h => h

theorem try_ (hP : D.Stable i P) {c : κ (Except ε α)} (hQ : ∀ r, D.Stable i (Q r))
    (hc : ∀ s u r, P s → D.inv s → S.served i s c (u, r) → D.Keeps i s u ∧ Q r u) :
    D.Triple i P (Prog.try_ c) Q :=
  call hP hc fun r => done (hQ r) fun _ h => h

theorem bind {M : α → σ → Prop} {f : α → Prog κ ε β} {Q : Except ε β → σ → Prop}
    {p : Prog κ ε α} (hp : D.Triple i P p (branch M fun e => Q (.error e)))
    (hf : ∀ a, D.Triple i (M a) (f a) Q) : D.Triple i P (p.bind f) Q := by
  refine ⟨fun s hs => guarded_bind (guarded_mono (fun r t ht => ?_) (hp.run s hs))⟩
  cases r with
  | ok a => exact (hf a).run t ht
  | error e => exact ht

/-- A sequence that begins with a call. -/
theorem bind_ask (hP : D.Stable i P) {c : κ α} {M : α → σ → Prop} {f : α → Prog κ ε β}
    {Q : Except ε β → σ → Prop}
    (hc : ∀ s u a, P s → D.inv s → S.served i s c (u, a) → D.Keeps i s u ∧ M a u)
    (hf : ∀ a, D.Triple i (M a) (f a) Q) : D.Triple i P ((Prog.ask c).bind f) Q :=
  call hP hc hf

theorem attempt {Q : Except ε' (Except ε α) → σ → Prop} {p : Prog κ ε α}
    (hp : D.Triple i P p fun r => Q (.ok r)) : D.Triple i P p.attempt Q :=
  ⟨fun s hs => guarded_attempt (hp.run s hs)⟩

theorem mapError {f : ε → ε'} {Q : Except ε' α → σ → Prop} {p : Prog κ ε α}
    (hp : D.Triple i P p (branch (fun a => Q (.ok a)) fun e => Q (.error (f e)))) :
    D.Triple i P (p.mapError f) Q :=
  ⟨fun s hs => guarded_mapError (hp.run s hs)⟩

theorem context {msg : String} {Q : Except Error α → σ → Prop} {p : Prog κ Error α}
    (hp : D.Triple i P p (branch (fun a => Q (.ok a)) fun e => Q (.error (msg :: e)))) :
    D.Triple i P (p.context msg) Q := mapError hp

theorem onError {M : ε → σ → Prop} {p : Prog κ ε α} {cleanup : Prog κ ε β}
    (hok : ∀ a, D.Stable i (Q (.ok a))) (herror : ∀ e, D.Stable i (Q (.error e)))
    (hp : D.Triple i P p (branch (fun a => Q (.ok a)) M))
    (hcleanup : ∀ e, D.Triple i (M e) cleanup fun _ => Q (.error e)) :
    D.Triple i P (p.onError cleanup) Q := by
  refine bind (M := branch (fun a => Q (.ok a)) M) (attempt hp) fun r => ?_
  cases r with
  | ok a => exact done (hok a) fun _ h => h
  | error e =>
      exact bind (M := fun _ => Q (.error e)) (attempt (hcleanup e)) fun _ =>
        done (herror e) fun _ h => h

/-- A program over calls of a wider kind. -/
theorem lift {S' : Shared ι κ' σ} {D : Discipline S'} {f : {β : Type} → κ β → κ' β}
    {p : Prog κ ε α} (h : (D.comap f).Triple i P p Q) : D.Triple i P (p.lift f) Q := by
  refine ⟨fun s hs => ?_⟩
  have hp := h.run s hs
  clear h hs
  induction p generalizing s with
  | done r => exact hp
  | call c next ih =>
      intro t hst ht u a hu
      rcases hp t hst ht u a hu with ⟨hkeeps, hnext⟩
      exact ⟨⟨hkeeps.inv, hkeeps.rely⟩, ih a u hnext⟩

/-- A condition that each of the calls keeps. -/
theorem of_only (hP : D.Stable i P) {A : {β : Type} → κ β → Prop}
    (hA : ∀ {β : Type} (c : κ β), A c → ∀ s u a, P s → D.inv s → S.served i s c (u, a) →
      D.Keeps i s u ∧ P u) {p : Prog κ ε α} (hp : p.Only A) :
    D.Triple i P p fun _ => P := by
  induction p with
  | done r => exact done hP fun _ h => h
  | call c next ih => exact call hP (hA c hp.1) fun a => ih a (hp.2 a)

end Triple

/-- The triple of a program whose calls are carried out by programs. What is known may
    depend on the state these share, and none of them fails. -/
def Carried (D : Discipline S) (i : ι) (f : {β : Type} → τ → κ' β → Prog κ ε' (β × τ))
    (P : σ → Prop) (p : Prog κ' ε α) (t : τ) (Q : Except ε α → τ → σ → Prop) : Prop :=
  D.Triple i P (p.expand f t) (branch (fun run => Q run.1 run.2) fun _ _ => False)

namespace Carried

variable {f : {β : Type} → τ → κ' β → Prog κ ε' (β × τ)} {t : τ}
  {Q : Except ε α → τ → σ → Prop}

theorem of_imp {φ : Prop} {p : Prog κ' ε α} (h : φ → Carried D i f P p t Q) :
    Carried D i f (fun s => φ ∧ P s) p t Q := Triple.of_imp h

theorem mono {Q' : Except ε α → τ → σ → Prop} {p : Prog κ' ε α}
    (h : Carried D i f P p t Q) (hQ : ∀ r t' s, Q r t' s → Q' r t' s) :
    Carried D i f P p t Q' := by
  refine Triple.mono (fun _ hs => hs) (fun run s hs => ?_) h
  cases run with
  | ok run => exact hQ run.1 run.2 s hs
  | error e => exact hs

theorem done (hP : D.Stable i P) {r : Except ε α} (h : ∀ s, P s → Q r t s) :
    Carried D i f P (Prog.done r) t Q := Triple.done hP h

theorem call {c : κ' β} {next : β → Prog κ' ε α} {M : β → τ → σ → Prop}
    (hc : D.Triple i P (f t c) (branch (fun run => M run.1 run.2) fun _ _ => False))
    (hnext : ∀ a t', Carried D i f (M a t') (next a) t' Q) :
    Carried D i f P (Prog.call c next) t Q :=
  Triple.bind hc fun run => hnext run.1 run.2

theorem bind_ask {c : κ' α} {g : α → Prog κ' ε β} {M : α → τ → σ → Prop}
    {Q : Except ε β → τ → σ → Prop}
    (hc : D.Triple i P (f t c) (branch (fun run => M run.1 run.2) fun _ _ => False))
    (hg : ∀ a t', Carried D i f (M a t') (g a) t' Q) :
    Carried D i f P ((Prog.ask c).bind g) t Q := call hc hg

theorem try_ {c : κ' (Except ε α)} (hQ : ∀ r t', D.Stable i (Q r t'))
    (hc : D.Triple i P (f t c) (branch (fun run => Q run.1 run.2) fun _ _ => False)) :
    Carried D i f P (Prog.try_ c) t Q :=
  call hc fun r t' => done (hQ r t') fun _ h => h

theorem bind {M : α → τ → σ → Prop} {g : α → Prog κ' ε β} {Q : Except ε β → τ → σ → Prop}
    {p : Prog κ' ε α} (hQ : ∀ e t', D.Stable i (Q (.error e) t'))
    (hp : Carried D i f P p t fun r t' =>
      branch (fun a => M a t') (fun e => Q (.error e) t') r)
    (hg : ∀ a t', Carried D i f (M a t') (g a) t' Q) : Carried D i f P (p.bind g) t Q := by
  rw [Carried, expand_bind]
  refine Triple.bind hp fun run => ?_
  rcases run with ⟨e | a, t'⟩
  · exact Triple.done (hQ e t') fun _ h => h
  · exact hg a t'

theorem attempt {Q : Except ε (Except ε α) → τ → σ → Prop} {p : Prog κ' ε α}
    (hQ : ∀ r t', D.Stable i (Q (.ok r) t'))
    (hp : Carried D i f P p t fun r => Q (.ok r)) : Carried D i f P p.attempt t Q := by
  rw [Carried, expand_attempt]
  exact Triple.bind hp fun run => Triple.done (hQ run.1 run.2) fun _ h => h

theorem mapError {f' : ε → ε} {p : Prog κ' ε α} (hQ : ∀ r t', D.Stable i (Q r t'))
    (hp : Carried D i f P p t fun r t' =>
      branch (fun a => Q (.ok a) t') (fun e => Q (.error (f' e)) t') r) :
    Carried D i f P (p.mapError f') t Q := by
  rw [Carried, expand_mapError]
  refine Triple.bind hp fun run => ?_
  rcases run with ⟨e | a, t'⟩
  · exact Triple.done (hQ _ t') fun _ h => h
  · exact Triple.done (hQ _ t') fun _ h => h

/-- A condition that each of the calls keeps, without a change of what they share. -/
theorem of_only (hP : D.Stable i P) {A : {β : Type} → κ' β → Prop}
    (hA : ∀ {β : Type} (c : κ' β), A c →
      D.Triple i P (f t c) (branch (fun run s => run.2 = t ∧ P s) fun _ _ => False))
    {p : Prog κ' ε α} (hp : p.Only A) :
    Carried D i f P p t fun _ t' s => t' = t ∧ P s := by
  induction p with
  | done r => exact done hP fun _ h => ⟨rfl, h⟩
  | call c next ih =>
      refine call (M := fun _ t' s => t' = t ∧ P s) (hA c hp.1) fun a t' => ⟨fun s hs => ?_⟩
      rcases hs with ⟨rfl, hs⟩
      exact (ih a (hp.2 a)).run s hs

end Carried

end Discipline

/-- A way of the task to its end, where no other makes a step in between. -/
inductive Shared.Ends (S : Shared ι κ σ) (i : ι) :
    Prog κ ε α → σ → Except ε α → σ → Prop where
  | done {r s} : Ends S i (done r) s r s
  | call {β : Type} {c : κ β} {next s t a r u} (hc : S.served i s c (t, a))
      (hnext : Ends S i (next a) t r u) : Ends S i (call c next) s r u

namespace Shared.Ends

variable {S : Shared ι κ σ} {i : ι} {s t u : σ}

theorem bind {p : Prog κ ε α} {f : α → Prog κ ε β} {a : α} {r : Except ε β}
    (hp : S.Ends i p s (.ok a) t) (hf : S.Ends i (f a) t r u) : S.Ends i (p.bind f) s r u := by
  generalize hok : Except.ok a = r' at hp
  induction hp with
  | done =>
      subst hok
      exact hf
  | call hc _ ih => exact call hc (ih hf hok)

theorem attempt {p : Prog κ ε α} {r : Except ε α} (hp : S.Ends i p s r t) :
    S.Ends i (p.attempt : Prog κ ε' (Except ε α)) s (.ok r) t := by
  induction hp with
  | done => exact done
  | call hc _ ih => exact call hc ih

theorem mapError {f : ε → ε'} {p : Prog κ ε α} {r : Except ε α} (hp : S.Ends i p s r t) :
    S.Ends i (p.mapError f) s (r.mapError f) t := by
  induction hp with
  | @done r s => cases r <;> exact done
  | call hc _ ih => exact call hc ih

theorem lift {S' : Shared ι κ' σ} {f : {β : Type} → κ β → κ' β} {p : Prog κ ε α}
    {r : Except ε α} (hp : (S'.comap f).Ends i p s r t) : S'.Ends i (p.lift f) s r t := by
  induction hp with
  | done => exact done
  | call hc _ ih => exact call hc ih

end Shared.Ends

/-- Where a task is. -/
inductive Stage (κ : Type → Type) (ε α : Type) where
  | fresh
  | running (rest : Prog κ ε α)
  | ended (r : Except ε α)
  | killed

/-- The tasks and the state they share. -/
structure Pool (ι : Type) (κ : Type → Type) (ε α σ : Type) where
  state : σ
  task : ι → Stage κ ε α

namespace Pool

variable {S : Shared ι κ σ}

section Step

variable [DecidableEq ι]

/-- One step of a task, or one beside the tasks. A task may be started as one of the
    programs that `starts` gives it. -/
inductive Step (S : Shared ι κ σ) (starts : ι → Prog κ ε α → Prop) :
    Pool ι κ ε α σ → Pool ι κ ε α σ → Prop where
  | start {P i p} (hfresh : P.task i = .fresh) (hp : starts i p) :
      Step S starts P { P with task := Function.update P.task i (.running p) }
  | call {P : Pool ι κ ε α σ} {i} {β : Type} {c : κ β} {next t a}
      (hrun : P.task i = .running (.call c next)) (hc : S.served i P.state c (t, a)) :
      Step S starts P ⟨t, Function.update P.task i (.running (next a))⟩
  | finish {P i r} (hrun : P.task i = .running (.done r)) :
      Step S starts P { P with task := Function.update P.task i (.ended r) }
  | kill {P : Pool ι κ ε α σ} {i p t} (hrun : P.task i = .running p)
      (ht : S.killed i P.state t) :
      Step S starts P ⟨t, Function.update P.task i .killed⟩
  | beside {P : Pool ι κ ε α σ} {t} (ht : S.beside P.state t) :
      Step S starts P { P with state := t }

/-- A run of the tasks. -/
def Reaches (S : Shared ι κ σ) (starts : ι → Prog κ ε α → Prop) :
    Pool ι κ ε α σ → Pool ι κ ε α σ → Prop := Relation.ReflTransGen (Step S starts)

end Step

section Ends

variable [DecidableEq ι] {starts : ι → Prog κ ε α → Prop} {task : ι → Stage κ ε α} {i : ι}
  {r : Except ε α} {s t : σ}

/-- A task goes its way from where it is to the end. -/
theorem reaches_of_running {rest : Prog κ ε α} (hends : S.Ends i rest s r t) :
    Reaches S starts ⟨s, Function.update task i (.running rest)⟩
      ⟨t, Function.update task i (.ended r)⟩ := by
  induction hends with
  | @done r s =>
      have hstep : Step S starts _ _ := Step.finish (P := ⟨s, Function.update task i
        (.running (Prog.done r))⟩) (Function.update_self ..)
      rw [Function.update_idem] at hstep
      exact Relation.ReflTransGen.single hstep
  | @call _ c next s t a r u hc _ ih =>
      have hstep : Step S starts _ _ := Step.call (P := ⟨s, Function.update task i
        (.running (Prog.call c next))⟩) (Function.update_self ..) hc
      rw [Function.update_idem] at hstep
      exact Relation.ReflTransGen.head hstep ih

theorem reaches_of_ends {p : Prog κ ε α} (hfresh : task i = .fresh) (hp : starts i p)
    (hends : S.Ends i p s r t) :
    Reaches S starts ⟨s, task⟩ ⟨t, Function.update task i (.ended r)⟩ :=
  Relation.ReflTransGen.head (Step.start hfresh hp) (reaches_of_running hends)

end Ends

/-- What is known of a task, by the stage it is in. -/
def Known (D : Discipline S) (idle : ι → σ → Prop) (Q : ι → Except ε α → σ → Prop) (i : ι)
    (s : σ) : Stage κ ε α → Prop
  | .fresh => idle i s
  | .running rest => D.guarded i (Q i) rest s
  | .ended r => Q i r s
  | .killed => True

/-- The invariant holds, and what is known of each task. -/
structure Sound (D : Discipline S) (idle : ι → σ → Prop) (Q : ι → Except ε α → σ → Prop)
    (P : Pool ι κ ε α σ) : Prop where
  inv : D.inv P.state
  known : ∀ i, Known D idle Q i P.state (P.task i)

variable {D : Discipline S} {idle : ι → σ → Prop} {Q : ι → Except ε α → σ → Prop}
  {starts : ι → Prog κ ε α → Prop}

/-- Steps of others change nothing in what is known of a task. -/
theorem known_of_rely (hidle : ∀ i, D.Stable i (idle i)) (hQ : ∀ i r, D.Stable i (Q i r))
    {i : ι} {s t : σ} {stage : Stage κ ε α} (h : Known D idle Q i s stage) (hst : D.rely i s t)
    (ht : D.inv t) : Known D idle Q i t stage := by
  cases stage with
  | fresh => exact hidle i s t h hst ht
  | running rest => exact Discipline.guarded_of_rely h hst
  | ended r => exact hQ i r s t h hst ht
  | killed => trivial

variable [DecidableEq ι]

/-- A step of one task, seen by all of them. -/
theorem Sound.update (hidle : ∀ i, D.Stable i (idle i)) (hQ : ∀ i r, D.Stable i (Q i r))
    {P : Pool ι κ ε α σ} (h : Sound D idle Q P) {i : ι} {t : σ} {stage : Stage κ ε α}
    (hinv : D.inv t) (hrely : ∀ j, j ≠ i → D.rely j P.state t)
    (hstage : Known D idle Q i t stage) :
    Sound D idle Q ⟨t, Function.update P.task i stage⟩ := by
  refine ⟨hinv, fun j => ?_⟩
  by_cases hj : j = i
  · subst hj
    dsimp only
    rw [Function.update_self]
    exact hstage
  · dsimp only
    rw [Function.update_of_ne hj]
    exact known_of_rely hidle hQ (h.known j) (hrely j hj) hinv

/-- A step of a pool of tasks that keep the discipline, each alone. -/
theorem Sound.step (hidle : ∀ i, D.Stable i (idle i)) (hQ : ∀ i r, D.Stable i (Q i r))
    (hstarts : ∀ i p, starts i p → D.Triple i (idle i) p (Q i)) {P P' : Pool ι κ ε α σ}
    (h : Sound D idle Q P) (hstep : Step S starts P P') : Sound D idle Q P' := by
  cases hstep with
  | @start i p hfresh hp =>
      have hknown := h.known i
      rw [hfresh] at hknown
      exact h.update hidle hQ h.inv (fun j _ => D.rely_refl j _) ((hstarts i p hp).run _ hknown)
  | @call i _ c next t a hrun hc =>
      have hknown := h.known i
      rw [hrun] at hknown
      rcases hknown _ (D.rely_refl i _) h.inv t a hc with ⟨hkeeps, hnext⟩
      exact h.update hidle hQ hkeeps.inv hkeeps.rely hnext
  | @finish i r hrun =>
      have hknown := h.known i
      rw [hrun] at hknown
      exact h.update hidle hQ h.inv (fun j _ => D.rely_refl j _)
        (hknown _ (D.rely_refl i _) h.inv)
  | @kill i p t hrun ht =>
      exact h.update hidle hQ (D.inv_of_killed ht h.inv)
        (fun j hj => D.rely_of_killed ht (Ne.symm hj)) trivial
  | @beside t ht =>
      exact ⟨D.inv_of_beside ht h.inv,
        fun i => known_of_rely hidle hQ (h.known i) (D.rely_of_beside ht)
          (D.inv_of_beside ht h.inv)⟩

/-- Tasks that keep the discipline, each alone, keep it in every run of all of them. -/
theorem Sound.reaches (hidle : ∀ i, D.Stable i (idle i)) (hQ : ∀ i r, D.Stable i (Q i r))
    (hstarts : ∀ i p, starts i p → D.Triple i (idle i) p (Q i)) {P P' : Pool ι κ ε α σ}
    (h : Sound D idle Q P) (hrun : Reaches S starts P P') : Sound D idle Q P' := by
  induction hrun with
  | refl => exact h
  | tail _ hstep ih => exact ih.step hidle hQ hstarts hstep

/-- No task has been started. -/
def initial (s : σ) : Pool ι κ ε α σ := ⟨s, fun _ => .fresh⟩

theorem sound_of_reaches (hidle : ∀ i, D.Stable i (idle i)) (hQ : ∀ i r, D.Stable i (Q i r))
    (hstarts : ∀ i p, starts i p → D.Triple i (idle i) p (Q i)) {s : σ} {P : Pool ι κ ε α σ}
    (hinv : D.inv s) (hs : ∀ i, idle i s) (hrun : Reaches S starts (initial s) P) :
    Sound D idle Q P :=
  Sound.reaches hidle hQ hstarts (P := initial s) ⟨hinv, hs⟩ hrun

end Pool

end Lib
