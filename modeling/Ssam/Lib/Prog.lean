import Mathlib.Tactic.Basic
import Ssam.Lib.Error

/-!
# Programs that may be Cut Short

A program as the calls it makes to what lies outside it, each with what the
program does on the call's answer. It ends with a value or with an error, and it
may be cut short between any two calls.

What answers the calls is a function `serve` from the state the call meets and
the call to the state it leaves and its answer. A run is thus fixed by `serve`
and the state, so whatever may go wrong with a call is a choice of `serve`.

`wp` is the pre- and postcondition logic of these programs. Beside the condition
at the end it carries one that every call is made under, which is what is known
of the state when the program is cut short. Its rules follow the program, and
`eval_of_wp` and `cut_of_wpUnder` read the conclusion off a whole run and a cut one.

## Main definitions

* `Prog`: A program over the calls `κ`, with errors in `ε`.
* `Prog.attempt`: The program, with an error as a value.
* `Prog.onError`: The program, with a clean-up after an error.
* `eval`: What the program leaves and how it ends.
* `cut`: The same, stopped before a given number of further calls.
* `Made`: A condition on the calls that are made before that.
* `wp`: Every call meets `G`, and the end meets `Q`.
* `wpUnder`: The same, in whichever of the ways it may be each call is served.

## Theorems

* `wp_bind`: Two programs in sequence meet in a middle condition.
* `wp_mono`: Weaker conditions are met as well.
* `eval_of_wp`: The postcondition holds at the end.
* `eval_of_wpUnder`: The postcondition at the end, seen through a view of the state.
* `cut_of_wpUnder`: A program cut short, where the calls that are made may be served so.
* `forall_cut_iff`: What holds wherever a program may be cut short.
* `eval_bind`: A sequence runs its first program and then the second.
* `eval_congr`: A run depends on the answers alone.
-/

namespace Lib

/-- A program that makes calls, goes on with their answers, and ends. A call in
    `κ β` is answered by a `β`. -/
inductive Prog (κ : Type → Type) (ε α : Type) : Type 1 where
  /-- The program has ended. -/
  | done (r : Except ε α)
  /-- Make the call and go on with its answer. -/
  | call {β : Type} (c : κ β) (next : β → Prog κ ε α)

namespace Prog

variable {κ : Type → Type} {ε ε' σ α β : Type}

/-- Run `f` on the value of `p`. An error of `p` ends both. -/
def bind : Prog κ ε α → (α → Prog κ ε β) → Prog κ ε β
  | done (.ok a), f => f a
  | done (.error e), _ => done (.error e)
  | call c next, f => call c fun a => (next a).bind f

instance : Monad (Prog κ ε) where
  pure a := done (.ok a)
  bind := bind

/-- End with the error `e`. -/
def fail (e : ε) : Prog κ ε α := done (.error e)

/-- Make a call and return its answer. -/
def ask (c : κ β) : Prog κ ε β := call c fun a => done (.ok a)

/-- Make a call that may fail. -/
def try_ (c : κ (Except ε α)) : Prog κ ε α := call c fun r => done r

/-- The program, with the way it ends as its value. -/
def attempt : Prog κ ε α → Prog κ ε' (Except ε α)
  | done r => done (.ok r)
  | call c next => call c fun a => (next a).attempt

/-- The program, with its error changed by `f`. -/
def mapError (f : ε → ε') : Prog κ ε α → Prog κ ε' α
  | done (.ok a) => done (.ok a)
  | done (.error e) => done (.error (f e))
  | call c next => call c fun a => (next a).mapError f

/-- The program, with a clean-up where it ends with an error. How the clean-up ends
    is not looked at. -/
def onError (p : Prog κ ε α) (cleanup : Prog κ ε β) : Prog κ ε α :=
  p.attempt.bind fun
    | .ok a => done (.ok a)
    | .error e => cleanup.attempt.bind fun _ => done (.error e)

/-- Put a message in front of the program's error. -/
def context (msg : String) : Prog κ Error α → Prog κ Error α := mapError (msg :: ·)

@[simp] theorem pure_eq (a : α) : (pure a : Prog κ ε α) = done (.ok a) := rfl

@[simp] theorem bind_eq (p : Prog κ ε α) (f : α → Prog κ ε β) : p >>= f = p.bind f := rfl

theorem bind_bind {γ : Type} (p : Prog κ ε α) (f : α → Prog κ ε β) (g : β → Prog κ ε γ) :
    (p.bind f).bind g = p.bind fun a => (f a).bind g := by
  induction p with
  | done r => cases r <;> rfl
  | call c next ih => exact congrArg (call c) (funext ih)

/-- One condition for a value and one for an error. -/
def branch (ok : α → σ → Prop) (err : ε → σ → Prop) : Except ε α → σ → Prop
  | .ok a => ok a
  | .error e => err e

@[simp] theorem branch_ok (ok : α → σ → Prop) (err : ε → σ → Prop) (a : α) (s : σ) :
    branch ok err (.ok a) s ↔ ok a s := Iff.rfl

@[simp] theorem branch_error (ok : α → σ → Prop) (err : ε → σ → Prop) (e : ε) (s : σ) :
    branch ok err (.error e) s ↔ err e s := Iff.rfl

section Run

variable (serve : {β : Type} → σ → κ β → σ × β)

/-- Run the program to its end. -/
def eval : Prog κ ε α → σ → σ × Except ε α
  | done r, s => (s, r)
  | call c next, s => eval (next (serve s c).2) (serve s c).1

/-- Run the program and stop it if it is about to make one call more than `n`. -/
def cut : Nat → Prog κ ε α → σ → σ × Option (Except ε α)
  | _, done r, s => (s, some r)
  | 0, call _ _, s => (s, none)
  | n + 1, call c next, s => cut n (next (serve s c).2) (serve s c).1

/-- Of the calls the program makes from `s` on, the first `n` are made under `C`. -/
def Made (C : {β : Type} → σ → κ β → Prop) : Nat → Prog κ ε α → σ → Prop
  | _, done _, _ => True
  | 0, call _ _, _ => True
  | n + 1, call c next, s => C s c ∧ Made C n (next (serve s c).2) (serve s c).1

/-- Every call the program makes from `s` on is made under `G`, and `Q` holds of
    how it ends and of the state it leaves. -/
def wp (G : {β : Type} → σ → κ β → Prop) (Q : Except ε α → σ → Prop) : Prog κ ε α → σ → Prop
  | done r, s => Q r s
  | call c next, s => G s c ∧ wp G Q (next (serve s c).2) (serve s c).1

variable {G : {β : Type} → σ → κ β → Prop} {Q : Except ε α → σ → Prop}

@[simp] theorem wp_done (r : Except ε α) (s : σ) :
    wp serve G Q (done r : Prog κ ε α) s ↔ Q r s := Iff.rfl

@[simp] theorem wp_call (c : κ β) (next : β → Prog κ ε α) (s : σ) :
    wp serve G Q (call c next) s ↔
      G s c ∧ wp serve G Q (next (serve s c).2) (serve s c).1 := Iff.rfl

@[simp] theorem wp_fail (e : ε) (s : σ) :
    wp serve G Q (fail e : Prog κ ε α) s ↔ Q (.error e) s := Iff.rfl

@[simp] theorem wp_ask (c : κ α) (s : σ) :
    wp serve G Q (ask c : Prog κ ε α) s ↔ G s c ∧ Q (.ok (serve s c).2) (serve s c).1 := Iff.rfl

@[simp] theorem wp_try_ (c : κ (Except ε α)) (s : σ) :
    wp serve G Q (try_ c) s ↔ G s c ∧ Q (serve s c).2 (serve s c).1 := Iff.rfl

/-- A sequence is met by a condition in the middle: of an error it asks the
    postcondition, of a value what the second program needs. -/
@[simp] theorem wp_bind (p : Prog κ ε α) (f : α → Prog κ ε β) {Q : Except ε β → σ → Prop}
    (s : σ) :
    wp serve G Q (p.bind f) s ↔
      wp serve G (branch (fun a => wp serve G Q (f a)) fun e => Q (.error e)) p s := by
  induction p generalizing s with
  | done r => cases r <;> exact Iff.rfl
  | call c next ih => exact and_congr_right fun _ => ih _ _

@[simp] theorem wp_attempt (p : Prog κ ε α) {Q : Except ε' (Except ε α) → σ → Prop} (s : σ) :
    wp serve G Q p.attempt s ↔ wp serve G (fun r => Q (.ok r)) p s := by
  induction p generalizing s with
  | done r => exact Iff.rfl
  | call c next ih => exact and_congr_right fun _ => ih _ _

@[simp] theorem wp_onError (p : Prog κ ε α) (cleanup : Prog κ ε β) (s : σ) :
    wp serve G Q (p.onError cleanup) s ↔
      wp serve G (branch (fun a => Q (.ok a)) fun e => wp serve G (fun _ => Q (.error e)) cleanup)
        p s := by
  induction p generalizing s with
  | done r =>
      cases r with
      | ok a => exact Iff.rfl
      | error e =>
          have hrun : (done (.error e) : Prog κ ε α).onError cleanup =
              cleanup.attempt.bind fun _ => done (.error e) := rfl
          rw [hrun, wp_bind, wp_attempt]
          exact Iff.rfl
  | call c next ih => exact and_congr_right fun _ => ih _ _

@[simp] theorem wp_mapError (f : ε → ε') (p : Prog κ ε α) {Q : Except ε' α → σ → Prop} (s : σ) :
    wp serve G Q (p.mapError f) s ↔
      wp serve G (branch (fun a => Q (.ok a)) fun e => Q (.error (f e))) p s := by
  induction p generalizing s with
  | done r => cases r <;> exact Iff.rfl
  | call c next ih => exact and_congr_right fun _ => ih _ _

@[simp] theorem wp_context (msg : String) (p : Prog κ Error α) {Q : Except Error α → σ → Prop}
    (s : σ) :
    wp serve G Q (p.context msg) s ↔
      wp serve G (branch (fun a => Q (.ok a)) fun e => Q (.error (msg :: e))) p s :=
  wp_mapError serve (msg :: ·) p s

theorem wp_mono {G' : {β : Type} → σ → κ β → Prop} {Q' : Except ε α → σ → Prop}
    (hG : ∀ {β : Type} s (c : κ β), G s c → G' s c) (hQ : ∀ r s, Q r s → Q' r s)
    {p : Prog κ ε α} {s : σ} (h : wp serve G Q p s) : wp serve G' Q' p s := by
  induction p generalizing s with
  | done r => exact hQ r s h
  | call c next ih => exact ⟨hG s c h.1, ih _ h.2⟩

/-- The postcondition holds where the program ends. -/
theorem eval_of_wp {p : Prog κ ε α} {s : σ} (h : wp serve G Q p s) :
    Q (eval serve p s).2 (eval serve p s).1 := by
  induction p generalizing s with
  | done r => exact h
  | call c next ih => exact ih _ h.2

/-- A condition that every call meets is met by those that are made. -/
theorem made_of_forall {C : {β : Type} → σ → κ β → Prop}
    (h : ∀ {β : Type} s (c : κ β), C s c) (n : Nat) (p : Prog κ ε α) (s : σ) :
    Made serve C n p s := by
  induction n generalizing p s with
  | zero => cases p <;> trivial
  | succ n ih =>
      cases p with
      | done r => trivial
      | call c next => exact ⟨h s c, ih _ _⟩

/-- Stopped before its second call a program has made the first. -/
theorem cut_one (c : κ β) (next : β → Prog κ ε α) (s : σ) :
    (cut serve 1 (call c next) s).1 = (serve s c).1 := by
  rw [cut]
  cases next (serve s c).2 <;> rfl

/-- A condition on all states of a run holds in the first. -/
theorem head_of_wp {P : σ → Prop} {p : Prog κ ε α} {s : σ}
    (h : wp serve (fun s _ => P s) (fun _ s => P s) p s) : P s := by
  cases p with
  | done r => exact h
  | call c next => exact h.1

/-- A condition holds wherever the program may be cut short exactly if every call
    and the end meet it. -/
theorem forall_cut_iff {P : σ → Prop} {p : Prog κ ε α} {s : σ} :
    (∀ n, P (cut serve n p s).1) ↔ wp serve (fun s _ => P s) (fun _ s => P s) p s := by
  induction p generalizing s with
  | done r =>
      refine ⟨fun h => h 0, fun h n => ?_⟩
      cases n <;> exact h
  | call c next ih =>
      rw [wp_call, ← ih]
      constructor
      · exact fun h => ⟨h 0, fun n => h (n + 1)⟩
      · rintro ⟨hs, h⟩ n
        cases n with
        | zero => exact hs
        | succ n => exact h n

@[simp] theorem eval_done (r : Except ε α) (s : σ) :
    eval serve (done r : Prog κ ε α) s = (s, r) := rfl

@[simp] theorem eval_fail (e : ε) (s : σ) :
    eval serve (fail e : Prog κ ε α) s = (s, .error e) := rfl

@[simp] theorem eval_ask (c : κ α) (s : σ) :
    eval serve (ask c : Prog κ ε α) s = ((serve s c).1, .ok (serve s c).2) := rfl

@[simp] theorem eval_try_ (c : κ (Except ε α)) (s : σ) :
    eval serve (try_ c) s = serve s c := rfl

/-- A sequence runs the first program, and the second on its value. -/
@[simp] theorem eval_bind (p : Prog κ ε α) (f : α → Prog κ ε β) (s : σ) :
    eval serve (p.bind f) s =
      match (eval serve p s).2 with
      | .ok a => eval serve (f a) (eval serve p s).1
      | .error e => ((eval serve p s).1, .error e) := by
  induction p generalizing s with
  | done r => cases r <;> rfl
  | call c next ih => exact ih _ _

@[simp] theorem eval_attempt (p : Prog κ ε α) (s : σ) :
    eval serve (p.attempt : Prog κ ε' (Except ε α)) s =
      ((eval serve p s).1, .ok (eval serve p s).2) := by
  induction p generalizing s with
  | done r => rfl
  | call c next ih => exact ih _ _

@[simp] theorem eval_mapError (f : ε → ε') (p : Prog κ ε α) (s : σ) :
    eval serve (p.mapError f) s = ((eval serve p s).1, (eval serve p s).2.mapError f) := by
  induction p generalizing s with
  | done r => cases r <;> rfl
  | call c next ih => exact ih _ _

/-- The clean-up runs after an error, and changes nothing about it. -/
@[simp] theorem eval_onError (p : Prog κ ε α) (cleanup : Prog κ ε β) (s : σ) :
    eval serve (p.onError cleanup) s =
      match (eval serve p s).2 with
      | .ok a => ((eval serve p s).1, .ok a)
      | .error e => ((eval serve cleanup (eval serve p s).1).1, .error e) := by
  rw [onError, eval_bind, eval_attempt]
  dsimp only
  generalize eval serve p s = run
  rcases run with ⟨s', e | a⟩
  · dsimp only
    rw [eval_bind, eval_attempt]
    rfl
  · rfl

/-- What answers each call alike runs the program alike. -/
theorem eval_congr {serve' : {β : Type} → σ → κ β → σ × β}
    (h : ∀ {β : Type} s (c : κ β), serve s c = serve' s c) (p : Prog κ ε α) (s : σ) :
    eval serve p s = eval serve' p s := by
  induction p generalizing s with
  | done r => rfl
  | call c next ih => rw [eval, eval, h, ih]

end Run

section Under

variable (served : {β : Type} → σ → κ β → σ × β → Prop)

/-- Every call the program makes from `s` on is made under `G`, and `Q` holds of how it
    ends, whichever of the ways it may be each of its calls is served. -/
def wpUnder (G : {β : Type} → σ → κ β → Prop) (Q : Except ε α → σ → Prop) :
    Prog κ ε α → σ → Prop
  | done r, s => Q r s
  | call c next, s => G s c ∧ ∀ t a, served s c (t, a) → wpUnder G Q (next a) t

variable {G : {β : Type} → σ → κ β → Prop} {Q : Except ε α → σ → Prop}

@[simp] theorem wpUnder_done (r : Except ε α) (s : σ) :
    wpUnder served G Q (done r : Prog κ ε α) s ↔ Q r s := Iff.rfl

@[simp] theorem wpUnder_ask (c : κ α) (s : σ) :
    wpUnder served G Q (ask c : Prog κ ε α) s ↔
      G s c ∧ ∀ t a, served s c (t, a) → Q (.ok a) t := Iff.rfl

@[simp] theorem wpUnder_try_ (c : κ (Except ε α)) (s : σ) :
    wpUnder served G Q (try_ c) s ↔ G s c ∧ ∀ t r, served s c (t, r) → Q r t := Iff.rfl

@[simp] theorem wpUnder_bind (p : Prog κ ε α) (f : α → Prog κ ε β) {Q : Except ε β → σ → Prop}
    (s : σ) :
    wpUnder served G Q (p.bind f) s ↔
      wpUnder served G (branch (fun a => wpUnder served G Q (f a)) fun e => Q (.error e)) p s := by
  induction p generalizing s with
  | done r => cases r <;> exact Iff.rfl
  | call c next ih =>
      exact and_congr_right fun _ => forall_congr' fun t => forall_congr' fun a =>
        imp_congr_right fun _ => ih a t

@[simp] theorem wpUnder_attempt (p : Prog κ ε α) {Q : Except ε' (Except ε α) → σ → Prop}
    (s : σ) :
    wpUnder served G Q p.attempt s ↔ wpUnder served G (fun r => Q (.ok r)) p s := by
  induction p generalizing s with
  | done r => exact Iff.rfl
  | call c next ih =>
      exact and_congr_right fun _ => forall_congr' fun t => forall_congr' fun a =>
        imp_congr_right fun _ => ih a t

@[simp] theorem wpUnder_onError (p : Prog κ ε α) (cleanup : Prog κ ε β) (s : σ) :
    wpUnder served G Q (p.onError cleanup) s ↔
      wpUnder served G (branch (fun a => Q (.ok a))
        fun e => wpUnder served G (fun _ => Q (.error e)) cleanup) p s := by
  induction p generalizing s with
  | done r =>
      cases r with
      | ok a => exact Iff.rfl
      | error e =>
          have hrun : (done (.error e) : Prog κ ε α).onError cleanup =
              cleanup.attempt.bind fun _ => done (.error e) := rfl
          rw [hrun, wpUnder_bind, wpUnder_attempt]
          exact Iff.rfl
  | call c next ih =>
      exact and_congr_right fun _ => forall_congr' fun t => forall_congr' fun a =>
        imp_congr_right fun _ => ih a t

@[simp] theorem wpUnder_mapError (f : ε → ε') (p : Prog κ ε α) {Q : Except ε' α → σ → Prop}
    (s : σ) :
    wpUnder served G Q (p.mapError f) s ↔
      wpUnder served G (branch (fun a => Q (.ok a)) fun e => Q (.error (f e))) p s := by
  induction p generalizing s with
  | done r => cases r <;> exact Iff.rfl
  | call c next ih =>
      exact and_congr_right fun _ => forall_congr' fun t => forall_congr' fun a =>
        imp_congr_right fun _ => ih a t

@[simp] theorem wpUnder_context (msg : String) (p : Prog κ Error α)
    {Q : Except Error α → σ → Prop} (s : σ) :
    wpUnder served G Q (p.context msg) s ↔
      wpUnder served G (branch (fun a => Q (.ok a)) fun e => Q (.error (msg :: e))) p s :=
  wpUnder_mapError served (msg :: ·) p s

variable {served}

theorem wpUnder_mono {G' : {β : Type} → σ → κ β → Prop} {Q' : Except ε α → σ → Prop}
    (hG : ∀ {β : Type} s (c : κ β), G s c → G' s c) (hQ : ∀ r s, Q r s → Q' r s)
    {p : Prog κ ε α} {s : σ} (h : wpUnder served G Q p s) : wpUnder served G' Q' p s := by
  induction p generalizing s with
  | done r => exact hQ r s h
  | call c next ih => exact ⟨hG s c h.1, fun t a ha => ih a (h.2 t a ha)⟩

/-- A postcondition of every end is met. -/
theorem wpUnder_of_forall (hQ : ∀ r s, Q r s) (p : Prog κ ε α) (s : σ) :
    wpUnder served (fun _ _ => True) Q p s := by
  induction p generalizing s with
  | done r => exact hQ r s
  | call c next ih => exact ⟨trivial, fun t a _ => ih a t⟩

/-- The postcondition holds at the end of a run of a larger system, seen through `view`,
    if what it does to a call is one of the ways the call may be served. -/
theorem eval_of_wpUnder {τ : Type} {serve : {β : Type} → τ → κ β → τ × β} (view : τ → σ)
    (hserve : ∀ {β : Type} s (c : κ β), served (view s) c (view (serve s c).1, (serve s c).2))
    {p : Prog κ ε α} {s : τ} (h : wpUnder served G Q p (view s)) :
    Q (eval serve p s).2 (view (eval serve p s).1) := by
  induction p generalizing s with
  | done r => exact h
  | call c next ih => exact ih _ (h.2 _ _ (hserve s c))

/-- Where the calls that are made are served in one of the ways they may be, a program
    cut short has ended under `Q`, or was about to make a call under `G`. -/
theorem cut_of_wpUnder {serve : {β : Type} → σ → κ β → σ × β} {p : Prog κ ε α} {s : σ}
    (h : wpUnder served G Q p s) {C : {β : Type} → σ → κ β → Prop}
    (hserve : ∀ {β : Type} s (c : κ β), C s c → served s c (serve s c)) {n : Nat}
    (hmade : Made serve C n p s) :
    (∃ r, (cut serve n p s).2 = some r ∧ Q r (cut serve n p s).1) ∨
      (cut serve n p s).2 = none ∧ ∃ (β : Type) (c : κ β), G (cut serve n p s).1 c := by
  induction n generalizing p s with
  | zero =>
      cases p with
      | done r => exact Or.inl ⟨r, rfl, h⟩
      | call c next => exact Or.inr ⟨rfl, _, c, h.1⟩
  | succ n ih =>
      cases p with
      | done r => exact Or.inl ⟨r, rfl, h⟩
      | call c next => exact ih (h.2 _ _ (hserve s c hmade.1)) hmade.2

/-- A condition on all states of a run holds in the first. -/
theorem head_of_wpUnder {P : σ → Prop} {p : Prog κ ε α} {s : σ}
    (h : wpUnder served (fun s _ => P s) (fun _ s => P s) p s) : P s := by
  cases p with
  | done r => exact h
  | call c next => exact h.1

end Under

end Prog

end Lib
