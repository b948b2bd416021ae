import Ssam.Lib.Prog

/-!
# Operations One after the Other

Operations that are carried out one at a time, each by a program that ends or is stopped
on its way. What was made of the state stays, and the next operation finds it.

An operation is for something else than what its program does: a relation between the
states of a simpler system, and how the operation ends. If from every state that stands
for a simple one the program comes to a state that stands for one in that relation, then a
whole run stands for a run of the simple system. A program that is stopped is asked for
this too, with no way it ends, so where a relation leaves nothing in between, the operation
is done or not done wherever its program is stopped.

## Main definitions

* `Prog.Comes`: Where a program comes to, at its end or where it is stopped.
* `Prog.Ensures`: It comes to its end, and what holds there.
* `carried`: The operation as its program carries it out.
* `Serial`: Operations one after the other.
* `Meets`: A program carries out what its operation is for.

## Theorems

* `comes_of_wpUnder`: What is known at the end and wherever a program is stopped.
* `exists_comes`: Every program comes to an end.
* `Serial.simulates`: A run stands for one of the simple system.
* `Serial.invariant`: A condition that each operation of the run keeps.
-/

namespace Lib

open Prog

variable {ω ρ σ τ : Type} {κ : Type → Type} {ε α : Type}

section Comes

variable (served : {β : Type} → σ → κ β → σ × β → Prop)

/-- The program comes from one state to another, where it has ended, or where it is stopped
    before a call. -/
inductive Prog.Comes : Prog κ ε α → σ → Option (Except ε α) → σ → Prop where
  | ended {r s} : Comes (done r) s (some r) s
  | stopped {β : Type} {c : κ β} {next s} : Comes (call c next) s none s
  | goesOn {β : Type} {c : κ β} {next s t a r u} (hc : served s c (t, a))
      (hrest : Comes (next a) t r u) : Comes (call c next) s r u

/-- An operation as its program carries it out. -/
def carried (program : ω → Prog κ ε α) (o : ω) (r : Option (Except ε α)) (s t : σ) : Prop :=
  (program o).Comes served s r t

variable {served}

theorem comes_of_wpUnder {S : σ → Prop} {Q : Except ε α → σ → Prop} {p : Prog κ ε α} {s t : σ}
    {r : Option (Except ε α)} (h : wpUnder served (fun s _ => S s) Q p s)
    (hcomes : p.Comes served s r t) : r.elim (S t) fun r => Q r t := by
  induction hcomes with
  | ended => exact h
  | stopped => exact h.1
  | goesOn hc _ ih => exact ih (h.2 _ _ hc)

theorem Prog.Comes.bind {β : Type} {p : Prog κ ε α} {f : α → Prog κ ε β} {s t u : σ} {a : α}
    {r : Option (Except ε β)} (hp : p.Comes served s (some (.ok a)) t)
    (hf : (f a).Comes served t r u) : (p.bind f).Comes served s r u := by
  generalize hok : some (Except.ok a) = r' at hp
  induction hp with
  | ended =>
      cases hok
      exact hf
  | stopped => cases hok
  | goesOn hc _ ih => exact .goesOn hc (ih hf hok)

/-- The program comes to its end from the state, and `Q` holds wherever it does. -/
def Prog.Ensures (served : {β : Type} → σ → κ β → σ × β → Prop) (p : Prog κ ε α) (s : σ)
    (Q : Except ε α → σ → Prop) : Prop :=
  (∃ r t, p.Comes served s (some r) t) ∧ ∀ r t, p.Comes served s (some r) t → Q r t

/-- Where every call is answered, every program comes to its end. -/
theorem exists_comes (hserved : ∀ {β : Type} s (c : κ β), ∃ run, served s c run)
    (p : Prog κ ε α) (s : σ) : ∃ r t, p.Comes served s (some r) t := by
  induction p generalizing s with
  | done r => exact ⟨r, s, .ended⟩
  | call c next ih =>
      rcases hserved s c with ⟨⟨t, a⟩, hc⟩
      rcases ih a t with ⟨r, u, hrest⟩
      exact ⟨r, u, .goesOn hc hrest⟩

theorem ensures_of_wpUnder (hserved : ∀ {β : Type} s (c : κ β), ∃ run, served s c run)
    {S : σ → Prop} {Q : Except ε α → σ → Prop} {p : Prog κ ε α} {s : σ}
    (h : wpUnder served (fun s _ => S s) Q p s) : p.Ensures served s Q :=
  ⟨exists_comes hserved p s, fun _ _ hcomes => comes_of_wpUnder h hcomes⟩

end Comes

section Serial

variable {step : ω → ρ → σ → σ → Prop} {simple : ω → ρ → τ → τ → Prop}

/-- Operations one after the other, with how each of them ends. -/
inductive Serial (step : ω → ρ → σ → σ → Prop) : List (ω × ρ) → σ → σ → Prop where
  | nil {s} : Serial step [] s s
  | cons {o r es s t u} (hstep : step o r s t) (hrest : Serial step es t u) :
      Serial step ((o, r) :: es) s u

namespace Serial

/-- A run of operations stands for one of the simple system, if each of them does. -/
theorem simulates {R : σ → τ → Prop}
    (hsim : ∀ o r s t a, R s a → step o r s t → ∃ b, simple o r a b ∧ R t b)
    {es : List (ω × ρ)} {s t : σ} {a : τ} (hrun : Serial step es s t) (ha : R s a) :
    ∃ b, Serial simple es a b ∧ R t b := by
  induction hrun generalizing a with
  | nil => exact ⟨a, .nil, ha⟩
  | cons hstep _ ih =>
      rcases hsim _ _ _ _ a ha hstep with ⟨b, hb, hR⟩
      rcases ih hR with ⟨c, hc, hR'⟩
      exact ⟨c, .cons hb hc, hR'⟩

theorem invariant {P : σ → Prop} {es : List (ω × ρ)} {s t : σ}
    (hP : ∀ o r s t, (o, r) ∈ es → P s → step o r s t → P t) (hrun : Serial step es s t)
    (hs : P s) : P t := by
  induction hrun with
  | nil => exact hs
  | cons hstep _ ih =>
      exact ih (fun o r s t hmem => hP o r s t (List.mem_cons_of_mem _ hmem))
        (hP _ _ _ _ List.mem_cons_self hs hstep)

end Serial

end Serial

section Meets

variable {served : {β : Type} → σ → κ β → σ × β → Prop} {program : ω → Prog κ ε α}
variable {simple : ω → Option (Except ε α) → τ → τ → Prop} {R : σ → τ → Prop}

/-- From a state that stands for `a`, the program comes to a state that stands for one the
    operation leads to, where it ends and wherever it may be stopped. -/
def Meets (served : {β : Type} → σ → κ β → σ × β → Prop)
    (simple : Option (Except ε α) → τ → τ → Prop) (R : σ → τ → Prop) (p : Prog κ ε α) : Prop :=
  ∀ s a, R s a → wpUnder served (fun t _ => ∃ b, simple none a b ∧ R t b)
    (fun r t => ∃ b, simple (some r) a b ∧ R t b) p s

theorem Meets.comes {simple : Option (Except ε α) → τ → τ → Prop} {p : Prog κ ε α}
    (h : Meets served simple R p) {s t : σ} {a : τ} {r : Option (Except ε α)} (ha : R s a)
    (hcomes : p.Comes served s r t) : ∃ b, simple r a b ∧ R t b := by
  have hend := comes_of_wpUnder (h s a ha) hcomes
  cases r with
  | none => exact hend
  | some r => exact hend

/-- Operations whose programs carry them out stand for a run of what they are for. -/
theorem Serial.simulates_of_meets (h : ∀ o, Meets served (simple o) R (program o))
    {es : List (ω × Option (Except ε α))} {s t : σ} {a : τ}
    (hrun : Serial (carried served program) es s t) (ha : R s a) :
    ∃ b, Serial simple es a b ∧ R t b := by
  refine hrun.simulates (fun o r s t a hR hcomes => ?_) ha
  exact (h o).comes hR hcomes

end Meets

end Lib
