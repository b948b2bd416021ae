import Mathlib.Tactic.Basic

/-!
# Errors with Context

An error as the chain of messages a report prints: each layer a failure passes
through may put its own message in front of what went wrong below it.

## Main definitions

* `Error`: The messages, outermost first.
* `Error.text`: The messages on one line.
* `ensure`: Fail with a message unless a condition holds.
* `context`: Wrap a failure in one more message.

## Theorems

* `except_bind_eq_ok`: A sequence succeeds when both of its parts do.
* `ensure_eq_ok`: A check passes exactly when its condition holds.
* `ensure_bind_eq_ok`: What follows a check runs when it passes.
* `context_eq_ok`: Wrapping a failure changes no success.
-/

namespace Lib

/-- The messages of an error, outermost first. -/
abbrev Error := List String

/-- The messages on one line, as `{:#}` prints a chain. -/
def Error.text (e : Error) : String := String.intercalate ": " e

/-- Succeed if the condition holds, else fail with the message. -/
def ensure (cond : Bool) (msg : String) : Except Error Unit :=
  if cond then .ok () else .error [msg]

/-- Put a message in front of whatever went wrong. -/
def context {α : Type*} (msg : String) : Except Error α → Except Error α
  | .ok a => .ok a
  | .error e => .error (msg :: e)

/-- A sequence succeeds when its first part does and the second on its value. -/
theorem except_bind_eq_ok {ε α β : Type} {x : Except ε α} {f : α → Except ε β} {b : β} :
    (x >>= f) = .ok b ↔ ∃ a, x = .ok a ∧ f a = .ok b := by
  cases x with
  | ok a => exact ⟨fun h => ⟨a, rfl, h⟩, fun ⟨_, ha, h⟩ => Except.ok.inj ha ▸ h⟩
  | error e =>
      constructor
      · intro h
        cases h
      · rintro ⟨a, ha, -⟩
        cases ha

theorem ensure_eq_ok {cond : Bool} {msg : String} :
    ensure cond msg = .ok () ↔ cond = true := by
  unfold ensure
  cases cond with
  | true => simp only [if_true]
  | false => simp only [Bool.false_eq_true, if_false, reduceCtorEq]

/-- A computation after a check succeeds when the check passes and it does. -/
theorem ensure_bind_eq_ok {α : Type} {cond : Bool} {msg : String}
    {r : Unit → Except Error α} {a : α} :
    (ensure cond msg >>= r) = .ok a ↔ cond = true ∧ r () = .ok a := by
  unfold ensure
  cases cond with
  | true => exact (and_iff_right rfl).symm
  | false => simp only [Bool.false_eq_true, if_false, false_and, bind, Except.bind, reduceCtorEq]

theorem context_eq_ok {α : Type*} {msg : String} {r : Except Error α} {a : α} :
    context msg r = .ok a ↔ r = .ok a := by
  cases r with
  | ok b => rfl
  | error e => simp only [context, reduceCtorEq]

theorem toOption_eq_some {ε α : Type} {r : Except ε α} {a : α} :
    r.toOption = some a ↔ r = .ok a := by
  cases r with
  | ok b => simp only [Except.toOption, Option.some.injEq, Except.ok.injEq]
  | error e => simp only [Except.toOption, reduceCtorEq]

theorem mapError_ok {ε ε' α : Type} (f : ε → ε') (a : α) :
    (Except.ok a : Except ε α).mapError f = .ok a := rfl

theorem mapError_error {ε ε' α : Type} (f : ε → ε') (e : ε) :
    (Except.error e : Except ε α).mapError f = .error (f e) := rfl

theorem mapError_eq_ok {ε ε' α : Type} {f : ε → ε'} {r : Except ε α} {a : α} :
    r.mapError f = .ok a ↔ r = .ok a := by
  cases r with
  | ok b => simp only [mapError_ok, Except.ok.injEq]
  | error e => simp only [mapError_error, reduceCtorEq]

end Lib
