import Mathlib.Data.List.Infix
import Mathlib.Tactic.Basic

/-!
# Texts by Byte Positions

A text whose places are told in the bytes of its encoding, as in a language that keeps
its strings in UTF-8. A search answers with such a place, and a part of the text is cut
out by two of them. Not every number of bytes is a place between two characters, and
cutting at any other fails.

## Main definitions

* `byteLen`: How many bytes a text takes.
* `splitAtByte`: A text cut in two, if the place lies between two characters.
* `slice`: The part between two places.
* `rfind`: The place of the last occurrence of a text.

## Theorems

* `splitAtByte_append`, `splitAtByte_eq_some`: Cutting undoes putting together.
* `splitAtByte_concat_iff`: Cutting off the last byte.
* `rfind_append`, `rfind_eq_some`, `rfind_eq_none_iff`: What the search finds.
-/

namespace Lib

namespace Utf8

/-- How many bytes the characters take. -/
def byteLen : List Char → Nat
  | [] => 0
  | c :: s => c.utf8Size + byteLen s

/-- What lies before the first `n` bytes end, and what lies behind. -/
def splitAtByte : Nat → List Char → Option (List Char × List Char)
  | 0, s => some ([], s)
  | _ + 1, [] => none
  | n + 1, c :: s =>
      -- The place must not be inside the character.
      if c.utf8Size ≤ n + 1 then
        (splitAtByte (n + 1 - c.utf8Size) s).map fun parts => (c :: parts.1, parts.2)
      else none

/-- The part from one place to another. -/
def slice (start stop : Nat) (s : List Char) : Option (List Char) :=
  (splitAtByte stop s).bind fun parts => (splitAtByte start parts.1).map Prod.snd

/-- Where the last occurrence of `pat` begins. -/
def rfind (pat : List Char) : List Char → Option Nat
  | [] => if pat = [] then some 0 else none
  | c :: s =>
      match rfind pat s with
      | some i => some (c.utf8Size + i)
      | none => if pat.isPrefixOf (c :: s) then some 0 else none

section Length

variable {s t : List Char} {c : Char}

@[simp]
theorem byteLen_nil : byteLen [] = 0 := rfl

@[simp]
theorem byteLen_cons : byteLen (c :: s) = c.utf8Size + byteLen s := rfl

@[simp]
theorem byteLen_append : byteLen (s ++ t) = byteLen s + byteLen t := by
  induction s with
  | nil => rw [List.nil_append, byteLen_nil, Nat.zero_add]
  | cons c s ih => rw [List.cons_append, byteLen_cons, byteLen_cons, ih, Nat.add_assoc]

theorem byteLen_eq_zero : byteLen s = 0 ↔ s = [] := by
  cases s with
  | nil => simp
  | cons c s =>
      have hpos := Char.utf8Size_pos c
      simp only [byteLen_cons, reduceCtorEq, iff_false]
      omega

end Length

section Split

variable {n : Nat} {s a b : List Char}

theorem splitAtByte_append (a b : List Char) : splitAtByte (byteLen a) (a ++ b) = some (a, b) := by
  induction a with
  | nil => simp [splitAtByte]
  | cons c a ih =>
      have hpos := Char.utf8Size_pos c
      obtain ⟨n, hn⟩ : ∃ n, byteLen (c :: a) = n + 1 := ⟨byteLen (c :: a) - 1, by
        rw [byteLen_cons]
        omega⟩
      rw [hn, List.cons_append, splitAtByte, ← hn, byteLen_cons, if_pos (Nat.le_add_right _ _),
        Nat.add_sub_cancel_left, ih]
      rfl

theorem splitAtByte_eq_some (h : splitAtByte n s = some (a, b)) : s = a ++ b ∧ byteLen a = n := by
  induction s generalizing n a with
  | nil =>
      cases n with
      | zero =>
          cases h
          exact ⟨rfl, rfl⟩
      | succ n => cases h
  | cons c s ih =>
      cases n with
      | zero =>
          cases h
          exact ⟨rfl, rfl⟩
      | succ n =>
          rw [splitAtByte] at h
          split at h
          · rename_i hle
            rcases Option.map_eq_some_iff.mp h with ⟨parts, hparts, heq⟩
            cases heq
            rcases ih hparts with ⟨hs, hlen⟩
            refine ⟨by rw [hs, List.cons_append], ?_⟩
            rw [byteLen_cons, hlen]
            omega
          · cases h

/-- The last byte can be cut off where it is a character of its own. -/
theorem splitAtByte_concat_iff (s : List Char) (c : Char) :
    (splitAtByte (byteLen s + c.utf8Size - 1) (s ++ [c])).isSome ↔ c.utf8Size = 1 := by
  have hpos := Char.utf8Size_pos c
  constructor
  · intro h
    rcases Option.isSome_iff_exists.mp h with ⟨⟨a, b⟩, hab⟩
    rcases splitAtByte_eq_some hab with ⟨heq, hlen⟩
    have htotal := congrArg byteLen heq
    simp only [byteLen_append, byteLen_cons, byteLen_nil] at htotal
    -- What is cut off is one byte, and the last character is in it.
    have hb : b ≠ [] := by
      rintro rfl
      rw [byteLen_nil] at htotal
      omega
    have hlast : b = b.dropLast ++ [c] := by
      have hget := congrArg List.getLast? heq
      rw [List.getLast?_concat, List.getLast?_append_of_ne_nil _ hb] at hget
      exact (List.dropLast_append_getLast? c hget.symm).symm
    rw [hlast] at htotal
    simp only [byteLen_append, byteLen_cons, byteLen_nil] at htotal
    omega
  · intro h
    rw [h, Nat.add_sub_cancel, splitAtByte_append]
    rfl

/-- The part of a text between its two other parts. -/
theorem slice_append (a b c : List Char) :
    slice (byteLen a) (byteLen (a ++ b)) (a ++ b ++ c) = some b := by
  rw [slice, splitAtByte_append, Option.bind_some, splitAtByte_append]
  rfl

theorem slice_zero_append (a b : List Char) : slice 0 (byteLen a) (a ++ b) = some a :=
  slice_append [] a b

end Split

section Find

variable {pat s : List Char}

theorem rfind_eq_none_iff : rfind pat s = none ↔ ¬ pat <:+: s := by
  induction s with
  | nil => simp [rfind]
  | cons c s ih =>
      rw [rfind, List.infix_cons_iff]
      cases hs : rfind pat s with
      | some i =>
          have hin : pat <:+: s := by
            by_contra hnot
            rw [ih.mpr hnot] at hs
            cases hs
          simp [hin]
      | none => simp [ih.mp hs]

theorem rfind_eq_some {i : Nat} (h : rfind pat s = some i) :
    ∃ before after, s = before ++ pat ++ after ∧ byteLen before = i := by
  induction s generalizing i with
  | nil =>
      rw [rfind] at h
      split at h
      · rename_i hpat
        cases h
        exact ⟨[], [], by simp [hpat], rfl⟩
      · cases h
  | cons c s ih =>
      rw [rfind] at h
      split at h
      · rename_i j hj
        cases h
        rcases ih hj with ⟨before, after, hs, hlen⟩
        exact ⟨c :: before, after, by simp [hs], by rw [byteLen_cons, hlen]⟩
      · split at h
        · rename_i hprefix
          cases h
          rcases List.isPrefixOf_iff_prefix.mp hprefix with ⟨after, hafter⟩
          exact ⟨[], after, hafter.symm, rfl⟩
        · cases h

/-- An occurrence is found if none begins behind it. -/
theorem rfind_append {first : Char} {rest after : List Char}
    (h : ¬ first :: rest <:+: rest ++ after) (before : List Char) :
    rfind (first :: rest) (before ++ (first :: rest) ++ after) = some (byteLen before) := by
  induction before with
  | nil =>
      have hprefix : (first :: rest).isPrefixOf (first :: (rest ++ after)) = true :=
        List.isPrefixOf_iff_prefix.mpr (List.prefix_append (first :: rest) after)
      rw [List.nil_append, List.cons_append, rfind, rfind_eq_none_iff.mpr h]
      exact if_pos hprefix
  | cons c before ih =>
      rw [List.cons_append, List.cons_append, rfind, ih]
      rfl

end Find

end Utf8

end Lib
