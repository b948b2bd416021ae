import Mathlib.Data.List.Basic

/-!
# Vectors with a Capacity

A growable array: its elements, and the room it has for them. What is put into it is
a matter of the elements alone, but the room can be asked for, and a caller that
resizes a vector to its capacity makes the one depend on the other.

Room that is asked for exactly is given exactly. Otherwise the room at least doubles
where it does not suffice.

## Main definitions

* `Vec`: The elements and the capacity.
* `reserve`, `reserveExact`: Room for more.
* `extend`, `push`, `resize`: More elements.

## Theorems

* `capacity_extend_of_le`, `capacity_extend_of_lt`: The room after adding elements.
* `resize_of_le`: A vector that is resized to more keeps what it holds.
-/

namespace Lib

/-- A growable array. -/
structure Vec (α : Type) where
  data : List α
  capacity : Nat
  length_le : data.length ≤ capacity

namespace Vec

variable {α : Type}

/-- An empty vector without any room. -/
def new : Vec α := ⟨[], 0, Nat.le_refl 0⟩

/-- An empty vector with room for `n`. -/
def withCapacity (n : Nat) : Vec α := ⟨[], n, Nat.zero_le n⟩

/-- Room for `n` more elements. If there is too little of it, it at least doubles. -/
def reserve (v : Vec α) (n : Nat) : Vec α where
  data := v.data
  capacity :=
    if v.data.length + n ≤ v.capacity then v.capacity
    else max (2 * v.capacity) (v.data.length + n)
  length_le := by
    have h := v.length_le
    split <;> omega

/-- Room for `n` more elements, and no more than that. -/
def reserveExact (v : Vec α) (n : Nat) : Vec α where
  data := v.data
  capacity := if v.data.length + n ≤ v.capacity then v.capacity else v.data.length + n
  length_le := by
    have h := v.length_le
    split <;> omega

/-- The elements of `xs` at the end. -/
def extend (v : Vec α) (xs : List α) : Vec α where
  data := v.data ++ xs
  capacity := (v.reserve xs.length).capacity
  length_le := by
    rw [List.length_append]
    simp only [reserve]
    split <;> omega

def push (v : Vec α) (x : α) : Vec α := v.extend [x]

/-- `n` elements: the first of the vector, or all of them and `x` as often as needed. -/
def resize (v : Vec α) (n : Nat) (x : α) : Vec α :=
  if n ≤ v.data.length then
    ⟨v.data.take n, v.capacity, Nat.le_trans (List.length_take_le' n _) v.length_le⟩
  else v.extend (List.replicate (n - v.data.length) x)

@[simp] theorem data_extend (v : Vec α) (xs : List α) : (v.extend xs).data = v.data ++ xs := rfl

@[simp] theorem data_push (v : Vec α) (x : α) : (v.push x).data = v.data ++ [x] := rfl

@[simp] theorem data_reserveExact (v : Vec α) (n : Nat) : (v.reserveExact n).data = v.data := rfl

@[simp] theorem data_withCapacity (n : Nat) : (withCapacity n : Vec α).data = [] := rfl

/-- Nothing grows where there is room. -/
theorem capacity_extend_of_le {v : Vec α} {xs : List α}
    (h : v.data.length + xs.length ≤ v.capacity) : (v.extend xs).capacity = v.capacity :=
  if_pos h

theorem capacity_extend_of_lt {v : Vec α} {xs : List α}
    (h : v.capacity < v.data.length + xs.length) :
    (v.extend xs).capacity = max (2 * v.capacity) (v.data.length + xs.length) :=
  if_neg (Nat.not_le_of_lt h)

/-- The room never gets less. -/
theorem capacity_le_extend (v : Vec α) (xs : List α) : v.capacity ≤ (v.extend xs).capacity := by
  rcases Nat.lt_or_ge v.capacity (v.data.length + xs.length) with h | h
  · rw [capacity_extend_of_lt h]
    omega
  · exact Nat.le_of_eq (capacity_extend_of_le h).symm

theorem capacity_reserveExact_of_lt {v : Vec α} {n : Nat} (h : v.capacity < v.data.length + n) :
    (v.reserveExact n).capacity = v.data.length + n :=
  if_neg (Nat.not_le_of_lt h)

theorem resize_of_le {v : Vec α} {n : Nat} (h : v.data.length ≤ n) (x : α) :
    (v.resize n x).data = v.data ++ List.replicate (n - v.data.length) x := by
  unfold resize
  split
  · rename_i hn
    have heq : n = v.data.length := Nat.le_antisymm hn h
    rw [heq, Nat.sub_self, List.replicate_zero, List.append_nil]
    exact List.take_length
  · rfl

theorem length_resize_of_le {v : Vec α} {n : Nat} (h : v.data.length ≤ n) (x : α) :
    (v.resize n x).data.length = n := by
  rw [resize_of_le h, List.length_append, List.length_replicate, Nat.add_sub_cancel' h]

/-- A vector that is resized to more grows where it has no room for that. -/
theorem capacity_resize_of_lt {v : Vec α} {n : Nat} (h : v.data.length < n) (x : α) :
    (v.resize n x).capacity = if n ≤ v.capacity then v.capacity else max (2 * v.capacity) n := by
  have hlen : v.data.length + (List.replicate (n - v.data.length) x).length = n := by
    rw [List.length_replicate]
    omega
  rw [resize, if_neg (Nat.not_le_of_lt h)]
  split
  · rename_i hn
    exact capacity_extend_of_le (by omega)
  · rename_i hn
    rw [capacity_extend_of_lt (by omega), hlen]

end Vec

end Lib
