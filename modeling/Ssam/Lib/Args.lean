import Mathlib.Data.List.Basic
import Mathlib.Data.List.Count
import Mathlib.Data.List.Infix

/-!
# Splitting an Argument String

The splitting of a string into arguments at white space, where a quote takes the
character after it for itself: a white space or a quote after a quote is a part of the
argument. Arguments joined by single separators are split again into the same ones if
and only if all of them are plain, that is, none is empty and none has a white space or
a quote in it.

The direct part follows the arguments. For the other the quotes are counted. A quote
that takes a character for itself is dropped, so there are fewer of them in the
arguments than in the string, unless there is none.

## Main definitions

* `token`: The first argument, and what is left after it.
* `splitArgs`: The arguments.
* `Plain`: An argument that no splitting changes.

## Theorems

* `token_plain`: A plain argument before a separator.
* `splitArgs_intercalate`: Plain arguments are split into themselves.
* `not_mem_of_count`: Where no quote is dropped there is none.
* `splitArgs_intercalate_iff`: The exact condition.
-/

namespace Lib

variable {α : Type*} [DecidableEq α] (isSpace : α → Bool) (quote : α)

/-- The argument the string begins with, and what is left after the white space that
    ends it. A quote at the end of the string stands for itself. -/
def token : List α → List α × List α
  | [] => ([], [])
  | [c] => if isSpace c then ([], []) else ([c], [])
  | c :: q :: rest =>
      if c = quote then (q :: (token rest).1, (token rest).2)
      else if isSpace c then ([], q :: rest)
      else (c :: (token (q :: rest)).1, (token (q :: rest)).2)

/-- The arguments of a string, which has to be no longer than the fuel. -/
def splitFuel : Nat → List α → List (List α)
  | 0, _ => []
  | _ + 1, [] => []
  | n + 1, c :: rest =>
      if isSpace c then splitFuel n rest
      else (token isSpace quote (c :: rest)).1 :: splitFuel n (token isSpace quote (c :: rest)).2

/-- The arguments of a string. -/
def splitArgs (s : List α) : List (List α) := splitFuel isSpace quote s.length s

/-- The argument is not empty, and has neither a white space nor a quote in it. -/
structure Plain (t : List α) : Prop where
  ne_nil : t ≠ []
  unquoted : quote ∉ t
  unspaced : ∀ c ∈ t, isSpace c = false

section Token

variable {isSpace quote}

theorem token_singleton_space {c : α} (hspace : isSpace c = true) :
    token isSpace quote [c] = ([], []) := if_pos hspace

theorem token_singleton_other {c : α} (hspace : isSpace c = false) :
    token isSpace quote [c] = ([c], []) := if_neg (ne_true_of_eq_false hspace)

theorem token_cons_quote (q : α) (rest : List α) :
    token isSpace quote (quote :: q :: rest) =
      (q :: (token isSpace quote rest).1, (token isSpace quote rest).2) := if_pos rfl

theorem token_cons_space {c q : α} {rest : List α} (hquote : c ≠ quote)
    (hspace : isSpace c = true) : token isSpace quote (c :: q :: rest) = ([], q :: rest) :=
  (if_neg hquote).trans (if_pos hspace)

theorem token_cons_other {c q : α} {rest : List α} (hquote : c ≠ quote)
    (hspace : isSpace c = false) :
    token isSpace quote (c :: q :: rest) =
      (c :: (token isSpace quote (q :: rest)).1, (token isSpace quote (q :: rest)).2) :=
  (if_neg hquote).trans (if_neg (ne_true_of_eq_false hspace))

variable (isSpace quote) in
/-- What is left is an end of the string. -/
theorem token_suffix (s : List α) : (token isSpace quote s).2 <:+ s := by
  induction s using token.induct isSpace quote with
  | case1 => exact List.suffix_rfl
  | case2 c hspace =>
      rw [token_singleton_space hspace]
      exact List.nil_suffix
  | case3 c hspace =>
      rw [token_singleton_other (Bool.eq_false_iff.mpr hspace)]
      exact List.nil_suffix
  | case4 q rest ih =>
      rw [token_cons_quote]
      exact (ih.trans (List.suffix_cons q rest)).trans (List.suffix_cons quote _)
  | case5 c q rest hquote hspace =>
      rw [token_cons_space hquote hspace]
      exact List.suffix_cons c _
  | case6 c q rest hquote hspace ih =>
      rw [token_cons_other hquote (Bool.eq_false_iff.mpr hspace)]
      exact ih.trans (List.suffix_cons c _)

variable (isSpace quote) in
/-- An argument that begins takes at least one character. -/
theorem length_token_cons (c : α) (rest : List α) :
    (token isSpace quote (c :: rest)).2.length ≤ rest.length := by
  cases rest with
  | nil =>
      cases hspace : isSpace c with
      | true => rw [token_singleton_space hspace]
      | false => rw [token_singleton_other hspace]
  | cons q rest =>
      by_cases hquote : c = quote
      · rw [hquote, token_cons_quote]
        exact (token_suffix isSpace quote rest).length_le.trans (Nat.le_succ _)
      · cases hspace : isSpace c with
        | true =>
            rw [token_cons_space hquote hspace]
        | false =>
            rw [token_cons_other hquote hspace]
            exact (token_suffix isSpace quote (q :: rest)).length_le

/-- An argument that begins is not empty. -/
theorem token_cons_ne_nil {c : α} (hspace : isSpace c = false) (rest : List α) :
    (token isSpace quote (c :: rest)).1 ≠ [] := by
  cases rest with
  | nil =>
      rw [token_singleton_other hspace]
      exact List.cons_ne_nil _ _
  | cons q rest =>
      by_cases hquote : c = quote
      · rw [hquote, token_cons_quote]
        exact List.cons_ne_nil _ _
      · rw [token_cons_other hquote hspace]
        exact List.cons_ne_nil _ _

/-- Without a quote there is no white space in an argument. -/
theorem unspaced_token {s : List α} (hquote : quote ∉ s) :
    ∀ c ∈ (token isSpace quote s).1, isSpace c = false := by
  induction s using token.induct isSpace quote with
  | case1 => exact fun c hc => absurd hc List.not_mem_nil
  | case2 c hspace =>
      rw [token_singleton_space hspace]
      exact fun c hc => absurd hc List.not_mem_nil
  | case3 c hspace =>
      rw [token_singleton_other (Bool.eq_false_iff.mpr hspace)]
      intro d hd
      rw [List.mem_singleton.mp hd]
      exact Bool.eq_false_iff.mpr hspace
  | case4 q rest ih => exact absurd List.mem_cons_self hquote
  | case5 c q rest hne hspace =>
      rw [token_cons_space hne hspace]
      exact fun c hc => absurd hc List.not_mem_nil
  | case6 c q rest hne hspace ih =>
      rw [token_cons_other hne (Bool.eq_false_iff.mpr hspace)]
      intro d hd
      -- The characters of a token are taken before the next blank.
      rcases List.mem_cons.mp hd with hd | hd
      · rw [hd]
        exact Bool.eq_false_iff.mpr hspace
      · exact ih (fun hmem => hquote (List.mem_cons_of_mem c hmem)) d hd

variable (isSpace quote) in
/-- No quote is added, and if none is dropped there is none in the argument, unless the
    string ends with one. -/
theorem count_token (s : List α) :
    (token isSpace quote s).1.count quote + (token isSpace quote s).2.count quote ≤
        s.count quote ∧
      (s.getLast? ≠ some quote →
        (token isSpace quote s).1.count quote + (token isSpace quote s).2.count quote =
          s.count quote →
        quote ∉ (token isSpace quote s).1) := by
  induction s using token.induct isSpace quote with
  | case1 => exact ⟨Nat.le_refl _, fun _ _ => List.not_mem_nil⟩
  | case2 c hspace =>
      -- A last separator ends the argument, and is dropped with the rest.
      rw [token_singleton_space hspace]
      exact ⟨Nat.zero_le _, fun _ _ => List.not_mem_nil⟩
  | case3 c hspace =>
      rw [token_singleton_other (Bool.eq_false_iff.mpr hspace)]
      -- A single quote at the end is kept, which is why the end is excluded.
      refine ⟨Nat.le_refl _, fun hlast _ hmem => hlast ?_⟩
      rw [List.mem_singleton.mp hmem]
      rfl
  | case4 q rest ih =>
      -- The quote is dropped.
      have hlt : (q :: (token isSpace quote rest).1).count quote +
          (token isSpace quote rest).2.count quote < (quote :: q :: rest).count quote := by
        have hle := ih.1
        rw [List.count_cons_self, List.count_cons, List.count_cons]
        omega
      rw [token_cons_quote]
      exact ⟨hlt.le, fun _ heq => absurd heq hlt.ne⟩
  | case5 c q rest hne hspace =>
      rw [token_cons_space hne hspace, List.count_nil, Nat.zero_add,
        List.count_cons_of_ne hne]
      exact ⟨Nat.le_refl _, fun _ _ => List.not_mem_nil⟩
  | case6 c q rest hne hspace ih =>
      rw [token_cons_other hne (Bool.eq_false_iff.mpr hspace)]
      dsimp only
      rw [List.count_cons_of_ne hne, List.count_cons_of_ne hne (l := q :: rest)]
      -- The character is no quote, so the counts are those of the rest.
      refine ⟨ih.1, fun hlast heq hmem => ?_⟩
      rw [List.getLast?_cons_cons] at hlast
      rcases List.mem_cons.mp hmem with hmem | hmem
      · exact hne hmem.symm
      · exact ih.2 hlast heq hmem

/-- An argument before a separator, or at the end. -/
theorem token_plain {t : List α} (hquote : quote ∉ t) (hspace : ∀ c ∈ t, isSpace c = false) :
    token isSpace quote t = (t, []) ∧
      ∀ {sep : α}, isSpace sep = true → sep ≠ quote → ∀ rest,
        token isSpace quote (t ++ sep :: rest) = (t, rest) := by
  induction t with
  | nil =>
      refine ⟨rfl, fun {sep} hsep hne rest => ?_⟩
      cases rest with
      | nil => rw [List.nil_append, token_singleton_space hsep]
      | cons q rest => exact token_cons_space hne hsep
  | cons c t ih =>
      have hne : c ≠ quote := fun heq => hquote (heq ▸ List.mem_cons_self)
      have hc : isSpace c = false := hspace c List.mem_cons_self
      rcases ih (fun hmem => hquote (List.mem_cons_of_mem c hmem))
        (fun d hd => hspace d (List.mem_cons_of_mem c hd)) with ⟨hend, hbefore⟩
      -- Each step looks at two characters, so whether there is a next one matters.
      constructor
      · cases t with
        | nil => exact token_singleton_other hc
        | cons q t => rw [token_cons_other hne hc, hend]
      · intro sep hsep hsepne rest
        have hrest := hbefore hsep hsepne rest
        cases t with
        | nil =>
            rw [List.nil_append] at hrest
            rw [List.cons_append, List.nil_append, token_cons_other hne hc, hrest]
        | cons q t =>
            rw [List.cons_append] at hrest
            rw [List.cons_append, List.cons_append, token_cons_other hne hc, hrest]

end Token

section Split

variable {isSpace quote}

/-- More fuel than the string is long makes no difference. -/
theorem splitFuel_eq {n : Nat} {s : List α} (h : s.length ≤ n) :
    splitFuel isSpace quote n s = splitArgs isSpace quote s := by
  have hany : ∀ (m : Nat) (s : List α), s.length ≤ m → ∀ k, s.length ≤ k →
      splitFuel isSpace quote m s = splitFuel isSpace quote k s := by
    intro m
    induction m with
    | zero =>
        intro s hs k hk
        rw [List.length_eq_zero_iff.mp (Nat.le_zero.mp hs)]
        cases k <;> rfl
    | succ m ih =>
        intro s hs k hk
        cases s with
        | nil => cases k <;> rfl
        | cons c rest =>
            cases k with
            | zero => exact absurd hk (Nat.not_succ_le_zero _)
            | succ k =>
                -- Both ways use up one character at least.
                have hrest := length_token_cons isSpace quote c rest
                have hm : rest.length ≤ m := Nat.le_of_succ_le_succ hs
                have hk : rest.length ≤ k := Nat.le_of_succ_le_succ hk
                rw [splitFuel, splitFuel, ih rest hm k hk,
                  ih _ (hrest.trans hm) k (hrest.trans hk)]
  exact hany n s h s.length (Nat.le_refl _)

@[simp] theorem splitArgs_nil : splitArgs isSpace quote [] = [] := rfl

theorem splitArgs_space {c : α} (hspace : isSpace c = true) (rest : List α) :
    splitArgs isSpace quote (c :: rest) = splitArgs isSpace quote rest := by
  rw [splitArgs, List.length_cons, splitFuel, if_pos hspace]
  rfl

theorem splitArgs_token {c : α} (hspace : isSpace c = false) (rest : List α) :
    splitArgs isSpace quote (c :: rest) =
      (token isSpace quote (c :: rest)).1 ::
        splitArgs isSpace quote (token isSpace quote (c :: rest)).2 := by
  rw [splitArgs, List.length_cons, splitFuel, hspace, if_neg Bool.false_ne_true,
    splitFuel_eq (length_token_cons isSpace quote c rest)]

/-- A plain argument at the end, and one before a separator. -/
theorem splitArgs_plain {t : List α} (h : Plain isSpace quote t) :
    splitArgs isSpace quote t = [t] ∧
      ∀ {sep : α}, isSpace sep = true → sep ≠ quote → ∀ rest,
        splitArgs isSpace quote (t ++ sep :: rest) = t :: splitArgs isSpace quote rest := by
  rcases token_plain h.unquoted h.unspaced with ⟨hend, hbefore⟩
  rcases List.exists_cons_of_ne_nil h.ne_nil with ⟨c, t', rfl⟩
  have hc : isSpace c = false := h.unspaced c List.mem_cons_self
  constructor
  · rw [splitArgs_token hc, hend]
    rfl
  · intro sep hsep hne rest
    have htoken := hbefore hsep hne rest
    rw [List.cons_append] at htoken ⊢
    rw [splitArgs_token hc, htoken]

/-- Plain arguments joined by a separator are split into themselves. -/
theorem splitArgs_intercalate {sep : α} (hsep : isSpace sep = true) (hne : sep ≠ quote)
    {ts : List (List α)} (h : ∀ t ∈ ts, Plain isSpace quote t) :
    splitArgs isSpace quote ([sep].intercalate ts) = ts := by
  induction ts with
  | nil => rfl
  | cons t ts ih =>
      have ht : Plain isSpace quote t := h t List.mem_cons_self
      cases ts with
      | nil =>
          rw [List.intercalate_singleton]
          exact (splitArgs_plain ht).1
      | cons u ts =>
          rw [List.intercalate_cons_cons, List.append_assoc, List.singleton_append,
            (splitArgs_plain ht).2 hsep hne, ih fun v hv => h v (List.mem_cons_of_mem t hv)]

/-- No quote is added, and if none is dropped there is none, unless the string ends with
    one. -/
theorem not_mem_of_count (hplain : isSpace quote = false) (s : List α) :
    (splitArgs isSpace quote s).flatten.count quote ≤ s.count quote ∧
      (s.getLast? ≠ some quote →
        (splitArgs isSpace quote s).flatten.count quote = s.count quote → quote ∉ s) := by
  induction hn : s.length using Nat.strong_induction_on generalizing s with
  | _ n ih =>
      cases s with
      | nil => exact ⟨Nat.le_refl _, fun _ _ => List.not_mem_nil⟩
      | cons c rest =>
          rw [List.length_cons] at hn
          cases hspace : isSpace c with
          -- White space is no quote, and goes.
          | true =>
              have hne : c ≠ quote := fun heq => by
                rw [heq, hplain] at hspace
                exact Bool.false_ne_true hspace
              rcases ih rest.length (by omega) rest rfl with ⟨hle, hnone⟩
              rw [splitArgs_space hspace, List.count_cons_of_ne hne]
              refine ⟨hle, fun hlast heq hmem => ?_⟩
              rcases List.mem_cons.mp hmem with hmem | hmem
              · exact hne hmem.symm
              · refine hnone (fun hrest => hlast ?_) heq hmem
                rw [List.getLast?_cons, hrest]
                rfl
          -- If no quote is lost in all, none is in the first argument, nor in those after it.
          | false =>
              have hshort := length_token_cons isSpace quote c rest
              rcases ih _ (by omega) (token isSpace quote (c :: rest)).2 rfl with ⟨hle, hnone⟩
              rcases count_token isSpace quote (c :: rest) with
                ⟨htoken, hfirst⟩
              rw [splitArgs_token hspace, List.flatten_cons, List.count_append]
              refine ⟨by omega, fun hlast heq => ?_⟩
              have hsuffix := token_suffix isSpace quote (c :: rest)
              have hrest : quote ∉ (token isSpace quote (c :: rest)).2 := by
                refine hnone (fun hleft => hlast ?_) (by omega)
                rcases hsuffix with ⟨before, hbefore⟩
                rw [← hbefore, List.getLast?_append, hleft]
                rfl
              have hone := List.count_eq_zero.mpr (hfirst hlast (by omega))
              have hleft := List.count_eq_zero.mpr hrest
              exact List.count_eq_zero.mp (by omega)

variable (isSpace quote) in
/-- The arguments of a string without quotes are plain. -/
theorem plain_of_unquoted {s : List α} (hquote : quote ∉ s) :
    ∀ t ∈ splitArgs isSpace quote s, Plain isSpace quote t := by
  induction hn : s.length using Nat.strong_induction_on generalizing s with
  | _ n ih =>
      cases s with
      | nil => exact fun t ht => absurd ht List.not_mem_nil
      | cons c rest =>
          rw [List.length_cons] at hn
          cases hspace : isSpace c with
          | true =>
              rw [splitArgs_space hspace]
              exact ih rest.length (by omega) (fun hmem => hquote (List.mem_cons_of_mem c hmem)) rfl
          | false =>
              have hshort := length_token_cons isSpace quote c rest
              have hsuffix := token_suffix isSpace quote (c :: rest)
              -- An argument has no more quotes than the string.
              have hnone : (token isSpace quote (c :: rest)).1.count quote = 0 := by
                have hle := (count_token isSpace quote (c :: rest)).1
                rw [List.count_eq_zero.mpr hquote] at hle
                omega
              rw [splitArgs_token hspace]
              intro t ht
              rcases List.mem_cons.mp ht with rfl | ht
              · exact ⟨token_cons_ne_nil hspace rest, List.count_eq_zero.mp hnone,
                  unspaced_token hquote⟩
              · exact ih _ (by omega) (fun hmem => hquote (hsuffix.subset hmem)) rfl t ht

theorem count_intercalate {sep : α} (hne : sep ≠ quote) (ts : List (List α)) :
    ([sep].intercalate ts).count quote = ts.flatten.count quote := by
  induction ts with
  | nil => rfl
  | cons t ts ih =>
      cases ts with
      | nil => rw [List.intercalate_singleton, List.flatten_cons, List.flatten_nil, List.append_nil]
      | cons u ts =>
          rw [List.intercalate_cons_cons, List.append_assoc, List.singleton_append,
            List.count_append, List.count_cons_of_ne hne, ih, List.flatten_cons (l := t),
            List.count_append]

omit [DecidableEq α] in
/-- The end of joined arguments is that of the last. -/
theorem getLast?_intercalate (sep : α) (ts : List (List α)) {t : List α} (ht : t ≠ []) :
    ([sep].intercalate (ts ++ [t])).getLast? = t.getLast? := by
  induction ts with
  | nil => rw [List.nil_append, List.intercalate_singleton]
  | cons u ts ih =>
      cases hts : ts ++ [t] with
      | nil => exact absurd hts (List.append_ne_nil_of_right_ne_nil _ (List.cons_ne_nil _ _))
      | cons v vs =>
          rw [List.cons_append, hts, List.intercalate_cons_cons, List.getLast?_append, ← hts, ih]
          cases hcase : t.getLast? with
          | none => exact absurd (List.getLast?_eq_none_iff.mp hcase) ht
          | some c => rfl

/-- Arguments joined by a separator are split into themselves exactly if all are plain,
    where the last of them is. -/
theorem splitArgs_intercalate_iff (hplain : isSpace quote = false) {sep : α}
    (hsep : isSpace sep = true) (hne : sep ≠ quote) {ts : List (List α)} {t : List α}
    (ht : Plain isSpace quote t) :
    splitArgs isSpace quote ([sep].intercalate (ts ++ [t])) = ts ++ [t] ↔
      ∀ u ∈ ts, Plain isSpace quote u := by
  constructor
  · -- Joining adds no quote, so arguments that come back have lost none.
    intro h
    have hnone : quote ∉ [sep].intercalate (ts ++ [t]) := by
      refine (not_mem_of_count hplain _).2 (fun hlast => ht.unquoted ?_) ?_
      · rw [getLast?_intercalate sep ts ht.ne_nil] at hlast
        exact List.mem_of_getLast? hlast
      · rw [h, count_intercalate hne]
    have hall := plain_of_unquoted isSpace quote hnone
    rw [h] at hall
    exact fun u hu => hall u (List.mem_append_left _ hu)
  · intro h
    refine splitArgs_intercalate hsep hne fun u hu => ?_
    rcases List.mem_append.mp hu with hu | hu
    · exact h u hu
    · rw [List.mem_singleton.mp hu]
      exact ht

end Split

end Lib
