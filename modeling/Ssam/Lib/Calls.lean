import Ssam.Lib.Prog

/-!
# The Calls a Program Makes

What is known of a program by the calls it may make.

`Only A` says that every call of a program is one of `A`, whatever the answers are. A
condition on the state that those calls keep then holds in every state of a run
(`wp_of_only`), and what else the program does is of no matter. `Returns P` says the same
of the values it may end with. `lift` makes the calls of a program calls of a wider kind,
and `expand` carries each of them out by a program of its own.

## Main definitions

* `Prog.Only`: Every call of the program is one of `A`.
* `Prog.Returns`: Every value the program may end with satisfies `P`.
* `Prog.lift`: The program over other calls.
* `Prog.expand`: The program with its calls carried out by programs.
* `Prog.Safe`: From a state under `I` every call meets `G`, and `I` holds at the end.

## Theorems

* `expand_bind`: A sequence whose calls are carried out by programs.
* `only_bind`, `only_onError`: The calls of a program put together of others.
* `wp_of_only`: A condition that the calls keep holds all the way.
* `eval_of_only`: It holds at the end.
* `wp_lift`: A program over other calls meets the same conditions.
* `wp_iff_eval`: The end of a run apart from its calls.
* `wp_bind_of_keeps`: A second program that is of no matter.
* `safe_bind`, `safe_onError`: Safe programs put together.
* `safe_of_only`: A program is safe by the calls it makes.
* `eval_sim`: A run seen through a map of the states.
-/

namespace Lib

namespace Prog

variable {κ κ' : Type → Type} {ε ε' σ τ α β : Type}

/-- Every call of the program is one of `A`, whatever the answers. -/
def Only (A : {β : Type} → κ β → Prop) : Prog κ ε α → Prop
  | done _ => True
  | call c next => A c ∧ ∀ a, (next a).Only A

/-- The program with its calls taken for calls of another kind. -/
def lift (f : {β : Type} → κ β → κ' β) : Prog κ ε α → Prog κ' ε α
  | done r => done r
  | call c next => call (f c) fun a => (next a).lift f

/-- Every value the program may end with satisfies `P`, whatever the answers. -/
def Returns (P : α → Prop) : Prog κ ε α → Prop
  | done (.ok a) => P a
  | done (.error _) => True
  | call _ next => ∀ a, (next a).Returns P

/-- A computation without calls. -/
def ofExcept (r : Except ε α) : Prog κ ε α := done r

/-- The program with each of its calls carried out by a program of its own. These share a
    state that no other program sees. -/
def expand (f : {β : Type} → τ → κ β → Prog κ' ε' (β × τ)) :
    Prog κ ε α → τ → Prog κ' ε' (Except ε α × τ)
  | done r, t => done (.ok (r, t))
  | call c next, t => (f t c).bind fun run => (next run.1).expand f run.2

theorem expand_bind (f : {β : Type} → τ → κ β → Prog κ' ε' (β × τ)) (p : Prog κ ε α)
    (g : α → Prog κ ε β) (t : τ) :
    (p.bind g).expand f t = (p.expand f t).bind fun run =>
      match run.1 with
      | .ok a => (g a).expand f run.2
      | .error e => done (.ok (.error e, run.2)) := by
  induction p generalizing t with
  | done r => cases r <;> rfl
  | call c next ih =>
      rw [bind, expand, expand, bind_bind]
      exact congrArg _ (funext fun run => ih run.1 run.2)

theorem expand_attempt (f : {β : Type} → τ → κ β → Prog κ' ε' (β × τ)) (p : Prog κ ε α) (t : τ) :
    (p.attempt : Prog κ ε (Except ε α)).expand f t =
      (p.expand f t).bind fun run => done (.ok (.ok run.1, run.2)) := by
  induction p generalizing t with
  | done r => rfl
  | call c next ih =>
      rw [attempt, expand, expand, bind_bind]
      exact congrArg _ (funext fun run => ih run.1 run.2)

theorem expand_mapError (f : {β : Type} → τ → κ β → Prog κ' ε' (β × τ)) (g : ε → ε)
    (p : Prog κ ε α) (t : τ) :
    (p.mapError g).expand f t =
      (p.expand f t).bind fun run => done (.ok (run.1.mapError g, run.2)) := by
  induction p generalizing t with
  | done r => cases r <;> rfl
  | call c next ih =>
      rw [mapError, expand, expand, bind_bind]
      exact congrArg _ (funext fun run => ih run.1 run.2)

section Only

variable {A : {β : Type} → κ β → Prop}

@[simp] theorem only_done (r : Except ε α) : (done r : Prog κ ε α).Only A := trivial

@[simp] theorem only_fail (e : ε) : (fail e : Prog κ ε α).Only A := trivial

theorem only_ask {c : κ α} (h : A c) : (ask c : Prog κ ε α).Only A := ⟨h, fun _ => trivial⟩

theorem only_try_ {c : κ (Except ε α)} (h : A c) : (try_ c).Only A := ⟨h, fun _ => trivial⟩

theorem only_bind {p : Prog κ ε α} {f : α → Prog κ ε β} (hp : p.Only A)
    (hf : ∀ a, (f a).Only A) : (p.bind f).Only A := by
  induction p with
  | done r =>
      cases r with
      | ok a => exact hf a
      | error e => trivial
  | call c next ih => exact ⟨hp.1, fun a => ih a (hp.2 a)⟩

theorem only_attempt {p : Prog κ ε α} (hp : p.Only A) :
    (p.attempt : Prog κ ε' (Except ε α)).Only A := by
  induction p with
  | done r => trivial
  | call c next ih => exact ⟨hp.1, fun a => ih a (hp.2 a)⟩

theorem only_mapError {f : ε → ε'} {p : Prog κ ε α} (hp : p.Only A) :
    (p.mapError f).Only A := by
  induction p with
  | done r => cases r <;> trivial
  | call c next ih => exact ⟨hp.1, fun a => ih a (hp.2 a)⟩

theorem only_context {msg : String} {p : Prog κ Error α} (hp : p.Only A) :
    (p.context msg).Only A := only_mapError hp

theorem only_onError {p : Prog κ ε α} {cleanup : Prog κ ε β} (hp : p.Only A)
    (hcleanup : cleanup.Only A) : (p.onError cleanup).Only A := by
  refine only_bind (only_attempt hp) fun r => ?_
  cases r with
  | ok a => trivial
  | error e => exact only_bind (only_attempt hcleanup) fun _ => trivial

theorem lift_bind (f : {β : Type} → κ β → κ' β) (p : Prog κ ε α) (g : α → Prog κ ε β) :
    (p.bind g).lift f = (p.lift f).bind fun a => (g a).lift f := by
  induction p with
  | done r => cases r <;> rfl
  | call c next ih => exact congrArg (call (f c)) (funext ih)

theorem only_lift {f : {β : Type} → κ β → κ' β} {A' : {β : Type} → κ' β → Prop}
    (hf : ∀ {β : Type} (c : κ β), A c → A' (f c)) {p : Prog κ ε α} (hp : p.Only A) :
    (p.lift f).Only A' := by
  induction p with
  | done r => trivial
  | call c next ih => exact ⟨hf c hp.1, fun a => ih a (hp.2 a)⟩

theorem only_mono {A' : {β : Type} → κ β → Prop} (h : ∀ {β : Type} (c : κ β), A c → A' c)
    {p : Prog κ ε α} (hp : p.Only A) : p.Only A' := by
  induction p with
  | done r => trivial
  | call c next ih => exact ⟨h c hp.1, fun a => ih a (hp.2 a)⟩

/-- One program after another for each element of a list. -/
theorem only_foldlM {f : β → α → Prog κ ε β} (hf : ∀ b a, (f b a).Only A) (l : List α) (b : β) :
    (l.foldlM f b).Only A := by
  induction l generalizing b with
  | nil => trivial
  | cons a l ih => exact only_bind (hf b a) ih

end Only

/-- What a sequence ends with is what its second program ends with. -/
theorem returns_bind {P : β → Prop} (p : Prog κ ε α) {f : α → Prog κ ε β}
    (hf : ∀ a, (f a).Returns P) : (p.bind f).Returns P := by
  induction p with
  | done r =>
      cases r with
      | ok a => exact hf a
      | error e => trivial
  | call c next ih => exact fun a => ih a

theorem returns_onError {P : α → Prop} {p : Prog κ ε α} (hp : p.Returns P)
    (cleanup : Prog κ ε β) : (p.onError cleanup).Returns P := by
  induction p with
  | done r =>
      cases r with
      | ok a => exact hp
      | error e =>
          have hrun : (done (.error e) : Prog κ ε α).onError cleanup =
              cleanup.attempt.bind fun _ => done (.error e) := rfl
          rw [hrun]
          exact returns_bind _ fun _ => trivial
  | call c next ih => exact fun a => ih a (hp a)

/-- The second program of a sequence is run on a value of the first. -/
theorem only_bind_of_returns {A : {β : Type} → κ β → Prop} {P : α → Prop} {p : Prog κ ε α}
    {f : α → Prog κ ε β} (hp : p.Only A) (hr : p.Returns P) (hf : ∀ a, P a → (f a).Only A) :
    (p.bind f).Only A := by
  induction p with
  | done r =>
      cases r with
      | ok a => exact hf a hr
      | error e => trivial
  | call c next ih => exact ⟨hp.1, fun a => ih a (hp.2 a) (hr a)⟩

section Run

variable (serve : {β : Type} → σ → κ β → σ × β)
  {G : {β : Type} → σ → κ β → Prop}

/-- A condition that the calls of a program keep holds in every state of its run. -/
theorem wp_of_only {A : {β : Type} → κ β → Prop} {I : σ → Prop}
    (hI : ∀ {β : Type} s (c : κ β), A c → I s → I (serve s c).1) {p : Prog κ ε α}
    (hp : p.Only A) {s : σ} (hs : I s) :
    wp serve (fun s _ => I s) (fun _ s => I s) p s := by
  induction p generalizing s with
  | done r => exact hs
  | call c next ih => exact ⟨hs, ih _ (hp.2 _) (hI s c hp.1 hs)⟩

/-- What holds of its calls in any state holds of those it makes. -/
theorem wp_of_only_calls {A : {β : Type} → κ β → Prop}
    (hA : ∀ {β : Type} s (c : κ β), A c → G s c) {p : Prog κ ε α} (hp : p.Only A) (s : σ) :
    wp serve G (fun _ _ => True) p s := by
  induction p generalizing s with
  | done r => trivial
  | call c next ih => exact ⟨hA s c hp.1, ih _ (hp.2 _) _⟩

/-- It holds at the end. -/
theorem eval_of_only {A : {β : Type} → κ β → Prop} {I : σ → Prop}
    (hI : ∀ {β : Type} s (c : κ β), A c → I s → I (serve s c).1) {p : Prog κ ε α}
    (hp : p.Only A) {s : σ} (hs : I s) : I (eval serve p s).1 :=
  eval_of_wp serve (wp_of_only serve hI hp hs)

theorem eval_of_returns {P : α → Prop} {p : Prog κ ε α} (hp : p.Returns P) {s : σ} {a : α}
    (h : (eval serve p s).2 = .ok a) : P a := by
  induction p generalizing s with
  | done r =>
      have hr : r = .ok a := h
      rw [hr] at hp
      exact hp
  | call c next ih => exact ih _ (hp _) h

@[simp] theorem wp_lift {serve : {β : Type} → σ → κ' β → σ × β}
    {G : {β : Type} → σ → κ' β → Prop} {Q : Except ε α → σ → Prop}
    (f : {β : Type} → κ β → κ' β) (p : Prog κ ε α) (s : σ) :
    wp serve G Q (p.lift f) s ↔ wp (fun s c => serve s (f c)) (fun s c => G s (f c)) Q p s := by
  induction p generalizing s with
  | done r => exact Iff.rfl
  | call c next ih => exact and_congr_right fun _ => ih _ _

@[simp] theorem eval_lift {serve : {β : Type} → σ → κ' β → σ × β} (f : {β : Type} → κ β → κ' β)
    (p : Prog κ ε α) (s : σ) :
    eval serve (p.lift f) s = eval (fun s c => serve s (f c)) p s := by
  induction p generalizing s with
  | done r => rfl
  | call c next ih => exact ih _ _

/-- How a run ends is a matter of its own beside the calls it makes. -/
theorem wp_iff_eval {Q : Except ε α → σ → Prop} (p : Prog κ ε α) (s : σ) :
    wp serve G Q p s ↔
      wp serve G (fun _ _ => True) p s ∧ Q (eval serve p s).2 (eval serve p s).1 := by
  induction p generalizing s with
  | done r => exact ⟨fun h => ⟨trivial, h⟩, fun h => h.2⟩
  | call c next ih => rw [wp_call, wp_call, ih, and_assoc, eval]

/-- The calls of a sequence are also those of its second program, on the value of the
    first. -/
theorem wp_second {p : Prog κ ε α} {f : α → Prog κ ε β} {s s₁ : σ} {a : α}
    (h : wp serve G (fun _ _ => True) (p.bind f) s) (ha : eval serve p s = (s₁, .ok a)) :
    wp serve G (fun _ _ => True) (f a) s₁ := by
  rw [wp_bind, wp_iff_eval, ha] at h
  exact h.2

/-- The calls of a clean-up, after an error. -/
theorem wp_cleanup {p : Prog κ ε α} {cleanup : Prog κ ε β} {s s₁ : σ} {e : ε}
    (h : wp serve G (fun _ _ => True) (p.onError cleanup) s)
    (he : eval serve p s = (s₁, .error e)) :
    wp serve G (fun _ _ => True) cleanup s₁ := by
  rw [wp_onError, wp_iff_eval, he] at h
  exact h.2

/-- A sequence that ends with a value has come by a value of its first program. -/
theorem eval_bind_eq_ok {p : Prog κ ε α} {f : α → Prog κ ε β} {s s' : σ} {b : β} :
    eval serve (p.bind f) s = (s', .ok b) ↔
      ∃ s₁ a, eval serve p s = (s₁, .ok a) ∧ eval serve (f a) s₁ = (s', .ok b) := by
  rw [eval_bind]
  generalize eval serve p s = run
  rcases run with ⟨s₁, e | a⟩
  · constructor
    · exact fun h => absurd (congrArg Prod.snd h) (by simp only [reduceCtorEq, not_false_eq_true])
    · rintro ⟨_, _, h, -⟩
      exact absurd (congrArg Prod.snd h) (by simp only [reduceCtorEq, not_false_eq_true])
  · constructor
    · exact fun h => ⟨s₁, a, rfl, h⟩
    · rintro ⟨_, _, h, h'⟩
      rw [Prod.mk.injEq, Except.ok.injEq] at h
      rw [h.1, h.2]
      exact h'

/-- One that ends with an error has it of its first program or of its second. -/
theorem eval_bind_eq_error {p : Prog κ ε α} {f : α → Prog κ ε β} {s s' : σ} {e : ε} :
    eval serve (p.bind f) s = (s', .error e) ↔ eval serve p s = (s', .error e) ∨
      ∃ s₁ a, eval serve p s = (s₁, .ok a) ∧ eval serve (f a) s₁ = (s', .error e) := by
  rw [eval_bind]
  generalize eval serve p s = run
  rcases run with ⟨s₁, e' | a⟩
  · simp only [Prod.mk.injEq, Except.error.injEq, reduceCtorEq, and_false, false_and,
      exists_false, or_false]
  · constructor
    · exact fun h => Or.inr ⟨s₁, a, rfl, h⟩
    · rintro (h | ⟨_, _, h, h'⟩)
      · exact absurd (congrArg Prod.snd h) (by simp only [reduceCtorEq, not_false_eq_true])
      · rw [Prod.mk.injEq, Except.ok.injEq] at h
        rw [h.1, h.2]
        exact h'

theorem eval_onError_eq_error {p : Prog κ ε α} {cleanup : Prog κ ε β} {s s' : σ} {e : ε} :
    eval serve (p.onError cleanup) s = (s', .error e) ↔
      ∃ s₁, eval serve p s = (s₁, .error e) ∧ (eval serve cleanup s₁).1 = s' := by
  rw [eval_onError]
  generalize eval serve p s = run
  rcases run with ⟨s₁, e' | a⟩
  · simp only [Prod.mk.injEq, Except.error.injEq]
    constructor
    · rintro ⟨hs, he⟩
      exact ⟨s₁, ⟨rfl, he⟩, hs⟩
    · rintro ⟨s₂, ⟨hs₂, he⟩, hs⟩
      rw [← hs₂] at hs
      exact ⟨hs, he⟩
  · simp only [Prod.mk.injEq, reduceCtorEq, and_false, false_and, exists_false]

theorem eval_onError_eq_ok {p : Prog κ ε α} {cleanup : Prog κ ε β} {s s' : σ} {a : α} :
    eval serve (p.onError cleanup) s = (s', .ok a) ↔ eval serve p s = (s', .ok a) := by
  rw [eval_onError]
  generalize eval serve p s = run
  rcases run with ⟨s₁, e | a⟩
  · simp only [Prod.mk.injEq, reduceCtorEq, and_false]
  · exact Iff.rfl

theorem eval_mapError_eq_ok {f : ε → ε'} {p : Prog κ ε α} {s s' : σ} {a : α} :
    eval serve (p.mapError f) s = (s', .ok a) ↔ eval serve p s = (s', .ok a) := by
  rw [eval_mapError]
  generalize eval serve p s = run
  rcases run with ⟨s₁, e | a⟩
  · simp only [mapError_error, Prod.mk.injEq, reduceCtorEq, and_false]
  · simp only [mapError_ok, Prod.mk.injEq, Except.ok.injEq]

theorem wp_first {p : Prog κ ε α} {f : α → Prog κ ε β} {s : σ}
    (h : wp serve G (fun _ _ => True) (p.bind f) s) :
    wp serve G (fun _ _ => True) p s := by
  rw [wp_bind, wp_iff_eval] at h
  exact h.1

/-- A second program that keeps the condition is of no matter for a sequence. -/
theorem wp_bind_of_keeps {P : σ → Prop} (p : Prog κ ε α) {f : α → Prog κ ε β}
    (hf : ∀ a s, P s → wp serve (fun s _ => P s) (fun _ s => P s) (f a) s) (s : σ) :
    wp serve (fun s _ => P s) (fun _ s => P s) (p.bind f) s ↔
      wp serve (fun s _ => P s) (fun _ s => P s) p s := by
  rw [wp_bind]
  constructor
  · refine wp_mono serve (fun _ _ h => h) fun r s h => ?_
    cases r with
    | ok a => exact head_of_wp serve h
    | error e => exact h
  · refine wp_mono serve (fun _ _ h => h) fun r s h => ?_
    cases r with
    | ok a => exact hf a s h
    | error e => exact h

/-- A condition on every state there is. -/
theorem wp_of_forall {P : σ → Prop} (h : ∀ s, P s) (p : Prog κ ε α) (s : σ) :
    wp serve (fun s _ => P s) (fun _ s => P s) p s := by
  induction p generalizing s with
  | done r => exact h s
  | call c next ih => exact ⟨h s, ih _ _⟩

section Safe

variable (G : {β : Type} → σ → κ β → Prop) (I : σ → Prop)

/-- From a state under `I` every call of the program meets `G`, and `I` holds where it
    ends. -/
def Safe (p : Prog κ ε α) : Prop := ∀ s, I s → wp serve G (fun _ s => I s) p s

variable {G I}

theorem safe_done (r : Except ε α) : Safe serve G I (done r) := fun _ hs => hs

theorem safe_bind {p : Prog κ ε α} {f : α → Prog κ ε β} (hp : Safe serve G I p)
    (hf : ∀ a, Safe serve G I (f a)) : Safe serve G I (p.bind f) := by
  intro s hs
  rw [wp_bind]
  refine wp_mono serve (fun _ _ hc => hc) (fun r s' hs' => ?_) (hp s hs)
  cases r with
  | ok a => exact hf a s' hs'
  | error e => exact hs'

theorem safe_attempt {p : Prog κ ε α} (hp : Safe serve G I p) :
    Safe serve G I (p.attempt : Prog κ ε' (Except ε α)) := by
  intro s hs
  rw [wp_attempt]
  exact hp s hs

theorem safe_mapError {f : ε → ε'} {p : Prog κ ε α} (hp : Safe serve G I p) :
    Safe serve G I (p.mapError f) := by
  intro s hs
  rw [wp_mapError]
  refine wp_mono serve (fun _ _ hc => hc) (fun r s' hs' => ?_) (hp s hs)
  cases r <;> exact hs'

theorem safe_context {msg : String} {p : Prog κ Error α} (hp : Safe serve G I p) :
    Safe serve G I (p.context msg) := safe_mapError serve hp

theorem safe_onError {p : Prog κ ε α} {cleanup : Prog κ ε β} (hp : Safe serve G I p)
    (hcleanup : Safe serve G I cleanup) : Safe serve G I (p.onError cleanup) := by
  refine safe_bind serve (safe_attempt serve hp) fun r => ?_
  cases r with
  | ok a => exact safe_done serve _
  | error e => exact safe_bind serve (safe_attempt serve hcleanup) fun _ => safe_done serve _

theorem safe_lift {serve : {β : Type} → σ → κ' β → σ × β} {G : {β : Type} → σ → κ' β → Prop}
    (f : {β : Type} → κ β → κ' β) {p : Prog κ ε α}
    (hp : Safe (fun s c => serve s (f c)) (fun s c => G s (f c)) I p) :
    Safe serve G I (p.lift f) :=
  fun s hs => (wp_lift f p s).mpr (hp s hs)

/-- Calls that meet `G` and keep `I` make a program safe. -/
theorem safe_of_only {A : {β : Type} → κ β → Prop}
    (hA : ∀ {β : Type} s (c : κ β), A c → I s → G s c ∧ I (serve s c).1) {p : Prog κ ε α}
    (hp : p.Only A) : Safe serve G I p := by
  induction p with
  | done r => exact safe_done serve r
  | call c next ih =>
      intro s hs
      rcases hA s c hp.1 hs with ⟨hG, hI⟩
      exact ⟨hG, ih _ (hp.2 _) _ hI⟩

end Safe

/-- Where a map of the states goes along with the calls, it goes along with a run. -/
theorem eval_sim {serve' : {β : Type} → τ → κ β → τ × β} (f : σ → τ)
    (h : ∀ {β : Type} s (c : κ β), (f (serve s c).1, (serve s c).2) = serve' (f s) c)
    (p : Prog κ ε α) (s : σ) :
    (f (eval serve p s).1, (eval serve p s).2) = eval serve' p (f s) := by
  induction p generalizing s with
  | done r => rfl
  | call c next ih =>
      have hcall := h s c
      rw [eval, eval, ← hcall]
      exact ih _ _

end Run

end Prog

end Lib
