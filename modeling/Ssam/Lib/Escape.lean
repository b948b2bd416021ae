import Mathlib.Data.List.Basic
import Mathlib.Data.List.Infix

/-!
# Escaped Separators

A list in which one character takes the one after it for itself. A list of such
texts, joined by a separator, is read back by splitting at the separators that
nothing takes for itself.

What may stand between two separators is a list whose escapes are complete and in
which no separator stands alone. `Whole` says so by the shape of the list: a
character with no meaning, or the escape and the character it takes.

## Main definitions

* `escape`: An escape before each of the special characters.
* `unescape`: The escapes taken away again.
* `splitUnescaped`: The pieces between the separators.
* `Whole`: A piece.

## Theorems

* `unescape_escape`: Unescaping undoes the escaping of any list.
* `whole_escape`: What is escaped is one piece.
* `splitUnescaped_append`: A piece, a separator and the rest.
-/

namespace Lib

variable {α : Type*}

/-- Every escape has a character to take, and no separator stands alone. -/
inductive Whole (esc sep : α) : List α → Prop
  | nil : Whole esc sep []
  | plain {c : α} {s : List α} (hesc : c ≠ esc) (hsep : c ≠ sep) (hs : Whole esc sep s) :
      Whole esc sep (c :: s)
  | escaped {c : α} {s : List α} (hs : Whole esc sep s) : Whole esc sep (esc :: c :: s)

section Whole

variable {esc sep : α}

theorem whole_of_not_mem {s : List α} (hesc : esc ∉ s) (hsep : sep ∉ s) : Whole esc sep s := by
  induction s with
  | nil => exact .nil
  | cons c s ih =>
      rw [List.mem_cons, not_or] at hesc hsep
      exact .plain (Ne.symm hesc.1) (Ne.symm hsep.1) (ih hesc.2 hsep.2)

theorem Whole.append {s t : List α} (hs : Whole esc sep s) (ht : Whole esc sep t) :
    Whole esc sep (s ++ t) := by
  induction hs with
  | nil => exact ht
  | plain hesc hsep _ ih => exact .plain hesc hsep ih
  | escaped _ ih => exact .escaped ih

end Whole

variable [DecidableEq α]

/-- An escape before each character of `special`. -/
def escape (esc : α) (special : List α) (s : List α) : List α :=
  s.flatMap fun c => if c ∈ special then [esc, c] else [c]

/-- The list without its escapes. An escape at the end has nothing to take. -/
def unescape (esc : α) : List α → List α
  | [] => []
  | [c] => [c]
  | c :: d :: rest => if c = esc then d :: unescape esc rest else c :: unescape esc (d :: rest)

/-- The pieces of a list between the separators that are not escaped. Escapes stay. -/
def splitUnescaped (esc sep : α) : List α → List (List α)
  | [] => [[]]
  | [c] => if c = sep then [[], []] else [[c]]
  | c :: d :: rest =>
      if c = esc then (splitUnescaped esc sep rest).modifyHead fun p => c :: d :: p
      else if c = sep then [] :: splitUnescaped esc sep (d :: rest)
      else (splitUnescaped esc sep (d :: rest)).modifyHead (c :: ·)

section Escape

variable {esc : α} {special : List α}

@[simp]
theorem escape_nil : escape esc special [] = [] := rfl

theorem escape_cons_mem {c : α} (h : c ∈ special) (s : List α) :
    escape esc special (c :: s) = esc :: c :: escape esc special s := by
  rw [escape, List.flatMap_cons, if_pos h]
  rfl

theorem escape_cons_not_mem {c : α} (h : c ∉ special) (s : List α) :
    escape esc special (c :: s) = c :: escape esc special s := by
  rw [escape, List.flatMap_cons, if_neg h]
  rfl

theorem unescape_cons_esc (c : α) (s : List α) :
    unescape esc (esc :: c :: s) = c :: unescape esc s := by
  rw [unescape, if_pos rfl]

theorem unescape_cons_ne {c : α} (h : c ≠ esc) (s : List α) :
    unescape esc (c :: s) = c :: unescape esc s := by
  cases s with
  | nil => rfl
  | cons d s => rw [unescape, if_neg h]

/-- Unescaping undoes the escaping of any list, where the escape is special too. -/
theorem unescape_escape (hesc : esc ∈ special) (s : List α) :
    unescape esc (escape esc special s) = s := by
  induction s with
  | nil => rfl
  | cons c s ih =>
      -- What is not special is no escape either, so it stands for itself.
      by_cases hc : c ∈ special
      · rw [escape_cons_mem hc, unescape_cons_esc, ih]
      · have hne : c ≠ esc := fun h => hc (h ▸ hesc)
        rw [escape_cons_not_mem hc, unescape_cons_ne hne, ih]

theorem unescape_of_not_mem {s : List α} (h : esc ∉ s) : unescape esc s = s := by
  induction s with
  | nil => rfl
  | cons c s ih =>
      rw [List.mem_cons, not_or] at h
      rw [unescape_cons_ne (Ne.symm h.1), ih h.2]

end Escape

section Split

variable {esc sep : α}

/-- The escape is a special character and so is the separator. -/
theorem whole_escape {special : List α} (hesc : esc ∈ special) (hsep : sep ∈ special)
    (s : List α) : Whole esc sep (escape esc special s) := by
  induction s with
  | nil => exact .nil
  | cons c s ih =>
      by_cases hc : c ∈ special
      · rw [escape_cons_mem hc]
        exact .escaped ih
      · rw [escape_cons_not_mem hc]
        exact .plain (fun h => hc (h ▸ hesc)) (fun h => hc (h ▸ hsep)) ih

theorem splitUnescaped_cons_esc (c : α) (s : List α) :
    splitUnescaped esc sep (esc :: c :: s) =
      (splitUnescaped esc sep s).modifyHead fun p => esc :: c :: p := by
  rw [splitUnescaped, if_pos rfl]

theorem splitUnescaped_cons_sep (hne : sep ≠ esc) (s : List α) :
    splitUnescaped esc sep (sep :: s) = [] :: splitUnescaped esc sep s := by
  cases s with
  | nil => exact if_pos rfl
  | cons d s => rw [splitUnescaped, if_neg hne, if_pos rfl]

theorem splitUnescaped_cons_plain {c : α} (hesc : c ≠ esc) (hsep : c ≠ sep) (s : List α) :
    splitUnescaped esc sep (c :: s) = (splitUnescaped esc sep s).modifyHead (c :: ·) := by
  cases s with
  | nil => exact if_neg hsep
  | cons d s => rw [splitUnescaped, if_neg hesc, if_neg hsep]

/-- A piece, a separator and the rest are split into the piece and what the rest
    is split into. -/
theorem splitUnescaped_append (hne : sep ≠ esc) {s : List α} (hs : Whole esc sep s)
    (t : List α) :
    splitUnescaped esc sep (s ++ sep :: t) = s :: splitUnescaped esc sep t := by
  induction hs with
  | nil => exact splitUnescaped_cons_sep hne t
  | plain hesc hsep _ ih =>
      rw [List.cons_append, splitUnescaped_cons_plain hesc hsep, ih]
      rfl
  | escaped _ ih =>
      rw [List.cons_append, List.cons_append, splitUnescaped_cons_esc, ih]
      rfl

theorem splitUnescaped_whole {s : List α} (hs : Whole esc sep s) :
    splitUnescaped esc sep s = [s] := by
  induction hs with
  | nil => rfl
  | plain hesc hsep _ ih =>
      rw [splitUnescaped_cons_plain hesc hsep, ih]
      rfl
  | escaped _ ih =>
      rw [splitUnescaped_cons_esc, ih]
      rfl

end Split

end Lib
