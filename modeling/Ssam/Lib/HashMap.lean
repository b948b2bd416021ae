import Mathlib.Data.List.AList
import Mathlib.Data.List.Induction

/-!
# Hash Maps

A hash map as an association list without duplicate keys.

The list order stands for the iteration order, which a hash map leaves open,
so nothing is stated about it: every lemma reads a map through `lookup`. Two
maps with the same lookups are told apart by no theorem that uses these.

## Main definitions

* `HashMap`: An association list without duplicate keys.
* `HashMap.anyValue`: Some value satisfies a predicate.
* `HashMap.findEntry`: The first entry satisfying a predicate.
* `HashMap.isEmpty`: No key is present.
* `HashMap.insertAll`: Insertions from a list, one after the other.
* `HashMap.filterKeys`: The entries whose keys satisfy a predicate.
* `HashMap.insertMissing`: One value under all keys of a list that have none.

## Theorems

* `HashMap.get_insert`: Looking up after an insertion.
* `HashMap.get_erase`: Looking up after an erasure.
* `HashMap.anyValue_iff`: A value satisfying the predicate is held by a key.
* `HashMap.findEntry_eq_none`: No entry satisfies the predicate.
* `HashMap.findEntry_eq_some`: The entry found is one of the map.
* `HashMap.isEmpty_iff`: A map is empty when every lookup fails.
* `HashMap.get_insertAll`: A key holds one of the values inserted under it.
* `HashMap.get_insertAll_congr`: Where a key is given one value the order is no matter.
* `HashMap.get_filterKeys`: Looking up among the keys kept.
* `HashMap.get_insertMissing`: What is there stays.
-/

namespace Lib

/-- A hash map from `α` to `β`. -/
abbrev HashMap (α β : Type*) := AList fun _ : α => β

namespace HashMap

variable {α β : Type*} [DecidableEq α]

/-- The value at a key, if any. -/
def get (m : HashMap α β) (k : α) : Option β := m.lookup k

@[simp] theorem get_empty (k : α) : get (∅ : HashMap α β) k = none := rfl

theorem get_insert (m : HashMap α β) (k a : α) (v : β) :
    get (m.insert k v) a = if a = k then some v else get m a := by
  unfold get
  by_cases h : a = k
  · rw [if_pos h, h, AList.lookup_insert]
  · rw [if_neg h, AList.lookup_insert_ne h]

theorem get_erase (m : HashMap α β) (k a : α) :
    get (m.erase k) a = if a = k then none else get m a := by
  unfold get
  by_cases h : a = k
  · rw [if_pos h, h, AList.lookup_erase]
  · rw [if_neg h, AList.lookup_erase_ne h]

@[simp] theorem get_insert_self (m : HashMap α β) (k : α) (v : β) :
    get (m.insert k v) k = some v := by
  rw [get_insert, if_pos rfl]

@[simp] theorem get_erase_self (m : HashMap α β) (k : α) : get (m.erase k) k = none := by
  rw [get_erase, if_pos rfl]

theorem get_insert_ne (m : HashMap α β) {k a : α} (v : β) (h : a ≠ k) :
    get (m.insert k v) a = get m a := by
  rw [get_insert, if_neg h]

theorem get_erase_ne (m : HashMap α β) {k a : α} (h : a ≠ k) :
    get (m.erase k) a = get m a := by
  rw [get_erase, if_neg h]

/-- An entry of the list is what its key looks up. -/
theorem mem_entries_iff (m : HashMap α β) (k : α) (v : β) :
    (⟨k, v⟩ : Sigma fun _ : α => β) ∈ m.entries ↔ get m k = some v := by
  rw [get, ← Option.mem_def, AList.mem_lookup_iff]

/-- Some value of the map satisfies `p`. -/
def anyValue (m : HashMap α β) (p : β → Bool) : Bool := m.entries.any fun e => p e.2

theorem anyValue_iff (m : HashMap α β) (p : β → Bool) :
    anyValue m p = true ↔ ∃ k v, get m k = some v ∧ p v = true := by
  rw [anyValue, List.any_eq_true]
  constructor
  · rintro ⟨⟨k, v⟩, hmem, hp⟩
    exact ⟨k, v, (mem_entries_iff m k v).mp hmem, hp⟩
  · rintro ⟨k, v, hget, hp⟩
    exact ⟨⟨k, v⟩, (mem_entries_iff m k v).mpr hget, hp⟩

/-- The first entry, in iteration order, whose key and value satisfy `p`. -/
def findEntry (m : HashMap α β) (p : α → β → Bool) : Option α :=
  (m.entries.find? fun e => p e.1 e.2).map fun e => e.1

theorem findEntry_eq_none (m : HashMap α β) (p : α → β → Bool) :
    findEntry m p = none ↔ ∀ k v, get m k = some v → p k v = false := by
  rw [findEntry, Option.map_eq_none_iff, List.find?_eq_none]
  constructor
  · intro h k v hget
    have hp := h ⟨k, v⟩ ((mem_entries_iff m k v).mpr hget)
    simpa only [Bool.not_eq_true] using hp
  · rintro h ⟨k, v⟩ hmem
    rw [h k v ((mem_entries_iff m k v).mp hmem)]
    exact Bool.false_ne_true

theorem findEntry_eq_some (m : HashMap α β) (p : α → β → Bool) {k : α}
    (h : findEntry m p = some k) : ∃ v, get m k = some v ∧ p k v = true := by
  rw [findEntry, Option.map_eq_some_iff] at h
  rcases h with ⟨⟨k', v⟩, hfind, rfl⟩
  have hp := List.find?_some hfind
  exact ⟨v, (mem_entries_iff m k' v).mp (List.mem_of_find?_eq_some hfind), hp⟩

/-- No key is present. -/
def isEmpty (m : HashMap α β) : Bool := m.entries.isEmpty

theorem isEmpty_iff (m : HashMap α β) : isEmpty m = true ↔ ∀ k, get m k = none := by
  rw [isEmpty, List.isEmpty_iff]
  constructor
  · intro h k
    cases hget : get m k with
    | none => rfl
    | some v =>
        have hmem := (mem_entries_iff m k v).mpr hget
        rw [h] at hmem
        exact absurd hmem List.not_mem_nil
  · intro h
    cases hent : m.entries with
    | nil => rfl
    | cons e es =>
        have hget := (mem_entries_iff m e.1 e.2).mp (by rw [hent]; exact List.mem_cons_self)
        rw [h e.1] at hget
        exact absurd hget (by simp only [reduceCtorEq, not_false_eq_true])

/-- Go through the list and insert the value of each entry under its key. An entry
    without a value is passed over. -/
def insertAll {ι : Type*} (key : ι → α) (value : ι → Option β) (m : HashMap α β) (l : List ι) :
    HashMap α β :=
  l.foldl (fun m x => (value x).elim m (m.insert (key x))) m

section InsertAll

variable {ι : Type*} (key : ι → α) (value : ι → Option β)

@[simp] theorem insertAll_nil (m : HashMap α β) : insertAll key value m [] = m := rfl

theorem insertAll_append (m : HashMap α β) (l l' : List ι) :
    insertAll key value m (l ++ l') = insertAll key value (insertAll key value m l) l' :=
  List.foldl_append

/-- The last insertion under a key is what it holds. -/
theorem get_insertAll_concat (m : HashMap α β) (l : List ι) (x : ι) (k : α) :
    get (insertAll key value m (l ++ [x])) k =
      if key x = k ∧ (value x).isSome then value x else get (insertAll key value m l) k := by
  rw [insertAll_append]
  have hlast : insertAll key value (insertAll key value m l) [x] =
      (value x).elim (insertAll key value m l) ((insertAll key value m l).insert (key x)) := rfl
  rw [hlast]
  cases value x with
  | none =>
      simp only [Option.elim_none, Option.isSome_none, Bool.false_eq_true, and_false, if_false]
  | some v =>
      simp only [Option.elim_some, get_insert, Option.isSome_some, and_true, eq_comm]

/-- A key holds one of the values inserted under it, or what it held before if
    there is none. -/
theorem get_insertAll (m : HashMap α β) (l : List ι) (k : α) :
    (∃ x ∈ l, key x = k ∧ (value x).isSome ∧ get (insertAll key value m l) k = value x) ∨
      (∀ x ∈ l, key x = k → value x = none) ∧ get (insertAll key value m l) k = get m k := by
  induction l using List.reverseRecOn with
  | nil => exact Or.inr ⟨fun x hx => absurd hx List.not_mem_nil, rfl⟩
  | append_singleton l x ih =>
      rw [get_insertAll_concat]
      by_cases hx : key x = k ∧ (value x).isSome
      · rw [if_pos hx]
        exact Or.inl ⟨x, List.mem_append_right l List.mem_cons_self, hx.1, hx.2, rfl⟩
      · rw [if_neg hx]
        rcases ih with ⟨y, hy, hkey, hsome, hget⟩ | ⟨hnone, hget⟩
        · exact Or.inl ⟨y, List.mem_append_left _ hy, hkey, hsome, hget⟩
        · refine Or.inr ⟨fun y hy hkey => ?_, hget⟩
          rcases List.mem_append.mp hy with hy | hy
          · exact hnone y hy hkey
          · rw [List.mem_singleton.mp hy] at hkey ⊢
            exact Option.not_isSome_iff_eq_none.mp fun h => hx ⟨hkey, h⟩

/-- In an empty map a key comes to hold something where the list has a value for
    it. -/
theorem get_insertAll_ne_none {l : List ι} {k : α} :
    get (insertAll key value ∅ l) k ≠ none ↔ ∃ x ∈ l, key x = k ∧ (value x).isSome := by
  rcases get_insertAll key value ∅ l k with ⟨x, hx, hkey, hsome, hget⟩ | ⟨hnone, hget⟩
  · rw [hget, ← Option.isSome_iff_ne_none]
    exact ⟨fun _ => ⟨x, hx, hkey, hsome⟩, fun _ => hsome⟩
  · rw [hget]
    refine ⟨fun h => absurd (get_empty k) h, ?_⟩
    rintro ⟨x, hx, hkey, hsome⟩
    rw [hnone x hx hkey] at hsome
    exact absurd hsome Bool.false_ne_true

/-- Where a key is given one value at most, what it holds does not depend on the
    order of the list. -/
theorem get_insertAll_congr {l l' : List ι} {k : α} (hmem : ∀ x, x ∈ l ↔ x ∈ l')
    (hone : ∀ x ∈ l, ∀ y ∈ l, key x = k → key y = k → (value x).isSome → (value y).isSome →
      value x = value y) :
    get (insertAll key value ∅ l) k = get (insertAll key value ∅ l') k := by
  rcases get_insertAll key value ∅ l k with ⟨x, hx, hkey, hsome, hget⟩ | ⟨hnone, hget⟩
  · rcases get_insertAll key value ∅ l' k with ⟨y, hy, hkey', hsome', hget'⟩ | ⟨hnone, -⟩
    · rw [hget, hget']
      exact hone x hx y ((hmem y).mpr hy) hkey hkey' hsome hsome'
    · rw [hnone x ((hmem x).mp hx) hkey] at hsome
      exact absurd hsome Bool.false_ne_true
  · rcases get_insertAll key value ∅ l' k with ⟨y, hy, hkey, hsome, -⟩ | ⟨-, hget'⟩
    · rw [hnone y ((hmem y).mpr hy) hkey] at hsome
      exact absurd hsome Bool.false_ne_true
    · rw [hget, hget']

end InsertAll

/-- The entries whose keys satisfy `p`. -/
def filterKeys (p : α → Bool) (m : HashMap α β) : HashMap α β :=
  ⟨m.entries.filter fun e => p e.1, m.nodupKeys.sublist List.filter_sublist⟩

theorem get_filterKeys (p : α → Bool) (m : HashMap α β) (k : α) :
    get (filterKeys p m) k = if p k then get m k else none := by
  have hmem : ∀ v, get (filterKeys p m) k = some v ↔ get m k = some v ∧ p k = true := by
    intro v
    rw [← mem_entries_iff, ← mem_entries_iff, filterKeys, List.mem_filter]
  by_cases hp : p k = true
  · rw [if_pos hp]
    ext v
    rw [hmem v, and_iff_left hp]
  · rw [if_neg hp]
    ext v
    rw [hmem v]
    exact ⟨fun h => absurd h.2 hp, fun h => absurd h.symm (Option.some_ne_none v)⟩

/-- Insert the value under every key of the list that has none. -/
def insertMissing (v : β) (m : HashMap α β) (keys : List α) : HashMap α β :=
  keys.foldl (fun m k => if (get m k).isSome then m else m.insert k v) m

/-- What a key holds it goes on to hold, and what it comes to hold is the value. -/
theorem get_insertMissing (v : β) (m : HashMap α β) (keys : List α) (k : α) :
    get (insertMissing v m keys) k = get m k ∨
      get m k = none ∧ get (insertMissing v m keys) k = some v := by
  induction keys generalizing m with
  | nil => exact Or.inl rfl
  | cons a keys ih =>
      rw [insertMissing, List.foldl_cons]
      -- A key that is there keeps its value.
      by_cases ha : (get m a).isSome = true
      · rw [if_pos ha]
        exact ih m
      · rw [if_neg ha]
        have hnone : get m a = none := Option.not_isSome_iff_eq_none.mp ha
        rcases ih (m.insert a v) with hget | ⟨hget, hins⟩
        · by_cases hk : k = a
          · refine Or.inr ⟨by rw [hk, hnone], hget.trans ?_⟩
            rw [hk, get_insert_self]
          · exact Or.inl (hget.trans (get_insert_ne m v hk))
        · by_cases hk : k = a
          · rw [hk, get_insert_self] at hget
            exact absurd hget (Option.some_ne_none v)
          · rw [get_insert_ne m v hk] at hget
            exact Or.inr ⟨hget, hins⟩

end HashMap

end Lib
