import Mathlib.Data.List.Forall2

/-!
# Values of a Document of Tables

What a document says once it is read: text, numbers, truth values and times, arrays
of values, and tables of values under their keys.

Values of one kind can still differ in what they hold. `alike` is finer: two arrays
are alike when whatever they hold is, so an array that is alike to itself holds
values that are alike among each other. Tables are alike whatever they hold, since
what they hold is described table by table. The entries of a table are compared with
a list in their order, one by one.

## Main definitions

* `Value`: A value of a document.
* `Kind`: The kinds of values.
* `alike`: The values can have one type.

## Theorems

* `Value.induct`: Induction over the elements of arrays and the entries of tables.
* `alike_array`: Arrays are alike when their elements are.
* `forall₂_trans`: Entries compared by way of a list between.
* `eq_flatMap_of_cons`: Collecting from the entries one by one.
* `exists_mem_of_forall₂`: Every entry has its counterpart.
-/

namespace Lib

namespace Toml

/-- A value of a document. The entries of a table come in the order of their keys. What
    is no text, integer or truth value is held as it is written. -/
inductive Value where
  | string (s : String)
  | integer (n : Int)
  | float (literal : String)
  | boolean (b : Bool)
  | datetime (literal : String)
  | array (elems : List Value)
  | table (entries : List (String × Value))

/-- The kinds of values. -/
inductive Kind where
  | string | integer | float | boolean | datetime | array | table
  deriving DecidableEq

namespace Value

def kind : Value → Kind
  | .string _ => .string
  | .integer _ => .integer
  | .float _ => .float
  | .boolean _ => .boolean
  | .datetime _ => .datetime
  | .array _ => .array
  | .table _ => .table

/-- Induction over the elements of arrays and the entries of tables. -/
@[elab_as_elim, induction_eliminator]
theorem induct {motive : Value → Prop}
    (string : ∀ s, motive (.string s)) (integer : ∀ n, motive (.integer n))
    (float : ∀ l, motive (.float l)) (boolean : ∀ b, motive (.boolean b))
    (datetime : ∀ l, motive (.datetime l))
    (array : ∀ elems, (∀ v ∈ elems, motive v) → motive (.array elems))
    (table : ∀ entries, (∀ e ∈ entries, motive e.2) → motive (.table entries)) :
    ∀ v, motive v
  | .string s => string s
  | .integer n => integer n
  | .float l => float l
  | .boolean b => boolean b
  | .datetime l => datetime l
  | .array elems => array elems fun v hv =>
      have := List.sizeOf_lt_of_mem hv
      induct string integer float boolean datetime array table v
  | .table entries => table entries fun e he =>
      have : sizeOf e.2 < sizeOf entries := by
        have hmem := List.sizeOf_lt_of_mem he
        have hsnd : sizeOf e = 1 + sizeOf e.1 + sizeOf e.2 := rfl
        omega
      induct string integer float boolean datetime array table e.2
termination_by v => v

mutual

/-- The values can have one type. -/
def alike : Value → Value → Bool
  | .string _, .string _ => true
  | .integer _, .integer _ => true
  | .boolean _, .boolean _ => true
  | .array vs, .array ws => alikeAll vs ws
  | .table _, .table _ => true
  | _, _ => false

/-- The first values are all alike to the second. -/
def alikeAll : List Value → List Value → Bool
  | [], _ => true
  | v :: vs, ws => ws.all (alike v) && alikeAll vs ws

end

theorem alikeAll_iff {vs ws : List Value} :
    alikeAll vs ws = true ↔ ∀ v ∈ vs, ∀ w ∈ ws, alike v w = true := by
  induction vs with
  | nil => simp only [alikeAll, List.not_mem_nil, false_implies, implies_true]
  | cons v vs ih => rw [alikeAll, Bool.and_eq_true, List.all_eq_true, ih, List.forall_mem_cons]

@[simp] theorem alike_array {vs ws : List Value} :
    alike (.array vs) (.array ws) = true ↔ ∀ v ∈ vs, ∀ w ∈ ws, alike v w = true := by
  rw [alike, alikeAll_iff]

end Value

section Entries

variable {α β γ : Type*}

/-- Entries that go with those of a list between go with each other. -/
theorem forall₂_trans {R : α → β → Prop} {S : β → γ → Prop} {Q : α → γ → Prop}
    {l : List α} {m : List β} {r : List γ} (hR : List.Forall₂ R l m) (hS : List.Forall₂ S m r)
    (h : ∀ a ∈ l, ∀ b c, R a b → S b c → Q a c) : List.Forall₂ Q l r := by
  induction hR generalizing r with
  | nil =>
      cases hS
      exact .nil
  | cons hab _ ih =>
      cases hS with
      | cons hbc hS =>
          exact .cons (h _ List.mem_cons_self _ _ hab hbc)
            (ih hS fun a ha => h a (List.mem_cons_of_mem _ ha))

/-- What is collected from a list one by one is collected from each of its entries. -/
theorem eq_flatMap_of_cons {f : List α → List β} {g : α → List β} (hnil : f [] = [])
    (hcons : ∀ a l, f (a :: l) = g a ++ f l) (l : List α) : f l = l.flatMap g := by
  induction l with
  | nil => exact hnil
  | cons a l ih => rw [hcons, ih, List.flatMap_cons]

/-- An entry of the first list has its counterpart in the second. -/
theorem exists_mem_of_forall₂ {R : α → β → Prop} {l : List α} {m : List β}
    (h : List.Forall₂ R l m) : ∀ a ∈ l, ∃ b ∈ m, R a b := by
  induction h with
  | nil => exact fun a ha => absurd ha List.not_mem_nil
  | cons hab _ ih =>
      intro a ha
      rcases List.mem_cons.mp ha with rfl | ha
      · exact ⟨_, List.mem_cons_self, hab⟩
      · rcases ih a ha with ⟨b, hb, hR⟩
        exact ⟨b, List.mem_cons_of_mem _ hb, hR⟩

end Entries

end Toml

end Lib
