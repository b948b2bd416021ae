import Mathlib.Data.List.Infix
import Mathlib.Tactic.Basic

/-!
# The Lines of a Text

A text is read line by line in more than one place. A line ends at a line feed, and a
carriage return before it is no part of the line.

## Main definitions

* `lines`: The lines of a text.

## Theorems

* `feed_not_mem_of_mem_lines`: No line has a line feed in it.
* `lines_append`: The first line, and what follows it.
* `lines_intercalate`: Lines that are put together are read as they were.
-/

namespace Ssam

namespace ProcMacros

/-- The line of a text without the carriage return that ends it. -/
def stripCr (line : List Char) : List Char :=
  if line.getLast? = some '\r' then line.dropLast else line

/-- The lines of a text. What follows the last line feed is one only if it is not empty. -/
def lines (text : String) : List (List Char) :=
  let pieces := text.toList.splitOn '\n'
  pieces.dropLast.map stripCr ++ pieces.getLast?.toList.filter fun last => !last.isEmpty

theorem not_mem_of_mem_splitOn (c : Char) (s : List Char) : ∀ l ∈ s.splitOn c, c ∉ l := by
  induction s with
  | nil =>
      intro l hl
      rw [List.splitOn_nil, List.mem_singleton] at hl
      rw [hl]
      exact List.not_mem_nil
  | cons d s ih =>
      intro l hl
      rw [List.splitOn_cons_eq_if_modifyHead] at hl
      split at hl
      · rcases List.mem_cons.mp hl with rfl | hl
        · exact List.not_mem_nil
        · exact ih l hl
      · rename_i hne
        -- Another character goes to the first of the pieces behind it.
        rcases List.exists_cons_of_ne_nil (List.splitOn_ne_nil c s) with ⟨first, others, hcons⟩
        rw [hcons] at hl ih
        rcases List.mem_cons.mp hl with rfl | hl
        · intro hmem
          rcases List.mem_cons.mp hmem with rfl | hmem
          · exact hne (beq_self_eq_true _)
          · exact ih first List.mem_cons_self hmem
        · exact ih l (.tail _ hl)

/-- No line has a line feed in it. -/
theorem feed_not_mem_of_mem_lines {text : String} : ∀ l ∈ lines text, '\n' ∉ l := by
  intro l hl hfeed
  rcases List.mem_append.mp hl with hl | hl
  · rcases List.mem_map.mp hl with ⟨piece, hpiece, rfl⟩
    refine not_mem_of_mem_splitOn '\n' _ piece (List.mem_of_mem_dropLast hpiece) ?_
    unfold stripCr at hfeed
    split at hfeed
    · exact List.mem_of_mem_dropLast hfeed
    · exact hfeed
  · have hlast := Option.mem_toList.mp (List.mem_filter.mp hl).1
    exact not_mem_of_mem_splitOn '\n' _ l (List.mem_of_getLast? hlast) hfeed

/-- The first line ends at the first line feed. -/
theorem lines_append {l : List Char} (hfeed : '\n' ∉ l) (rest : List Char) :
    lines (String.ofList (l ++ '\n' :: rest)) = stripCr l :: lines (String.ofList rest) := by
  have hpieces : (l ++ '\n' :: rest).splitOn '\n' = l :: rest.splitOn '\n' := by
    rw [List.splitOn_append_cons_self, List.splitOn_eq_singleton hfeed, List.singleton_append]
  rcases List.exists_cons_of_ne_nil (List.splitOn_ne_nil '\n' rest) with ⟨first, others, hcons⟩
  rw [lines, String.toList_ofList, hpieces, lines, String.toList_ofList, hcons,
    List.dropLast_cons_cons, List.getLast?_cons_cons, List.map_cons, List.cons_append]

theorem lines_intercalate {ls : List (List Char)} (hne : ls ≠ []) (hfeed : ∀ l ∈ ls, '\n' ∉ l)
    (hcr : ∀ l ∈ ls, l.getLast? ≠ some '\r') :
    lines (String.ofList (['\n'].intercalate ls ++ ['\n'])) = ls := by
  have hpieces : (['\n'].intercalate ls ++ ['\n']).splitOn '\n' = ls ++ [[]] := by
    rw [List.splitOn_append_cons_self, List.splitOn_intercalate _ hfeed hne, List.splitOn_nil]
  have hstrip : ls.map stripCr = ls :=
    (List.map_congr_left fun l hl => if_neg (hcr l hl)).trans (List.map_id _)
  rw [lines, String.toList_ofList, hpieces, List.dropLast_concat, List.getLast?_concat, hstrip]
  exact List.append_nil _

end ProcMacros

end Ssam
