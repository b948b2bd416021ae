import Mathlib.Data.List.DropRight
import Mathlib.Tactic.Basic

/-!
# Names and Paths

The checks on package names and the paths made from them, as the mounts, the
data directories and the package files share them. Paths are the strings the
configuration and the package names give.

## Main definitions

* `joinPath`: A path and one more component.
* `components`: What a path consists of.
* `isSafeRelativePath`: The data directories a package may declare.
* `isSafePathSegment`: The names a package may have.
* `trim`: Text without white space around it.

## Theorems

* `joinPath_inj`: Different names lead to different paths.
* `components_joinPath`: A path extended by a safe one has the components of both.
* `trim_trim`: A trimmed text has nothing more to trim.
-/

namespace Ssam

/-- A path and one more component. -/
def joinPath (root name : String) : String :=
  if root.isEmpty || root.toList.getLast? = some '/' then root ++ name
  else root ++ "/" ++ name

/-- A component of a path. -/
inductive Component where
  | rootDir
  | curDir
  | parentDir
  | normal (segment : String)
  deriving DecidableEq

/-- The path begins with a `/`. -/
def isAbsolute (path : String) : Bool := path.toList.head? = some '/'

/-- What lies between the slashes of a path. -/
def segments (path : String) : List String := (path.toList.splitOn '/').map String.ofList

/-- The components of a path: empty segments are none, and a `.` is one only
    where a path begins with it. -/
def components (path : String) : List Component :=
  let first : List Component :=
    if isAbsolute path then [.rootDir]
    else if (segments path).head? = some "." then [.curDir]
    else []
  first ++ ((segments path).filter fun segment => segment ≠ "" ∧ segment ≠ ".").map
    fun segment => if segment = ".." then .parentDir else .normal segment

/-- The path without a leading `/`. What is left neither begins nor ends with a segment
    that is no component. -/
def stripRoot (path : String) : String :=
  let isNone (segment : String) : Bool := segment = "" ∨ segment = "."
  if isAbsolute path then
    "/".intercalate (((segments path).dropWhile isNone).rdropWhile isNone)
  else path

/-- True if `path` is a safe relative path: at least one component, and every
    component is a normal one without NUL. -/
def isSafeRelativePath (path : String) : Bool :=
  let comps := components path
  !comps.isEmpty && comps.all fun
    | .normal segment => '\x00' ∉ segment.toList
    | _ => false

/-- True if `name` is a safe single path segment: not empty, without `/`, NUL,
    `,` and `\`, and exactly one normal component. -/
def isSafePathSegment (name : String) : Bool :=
  !name.isEmpty && !(name.toList.any fun c => c ∈ ['/', '\x00', ',', '\\']) &&
    match components name with
    | [.normal _] => true
    | _ => false

/-- The white space of Unicode. -/
def isWhitespace (c : Char) : Bool :=
  let n := c.toNat
  (0x9 ≤ n && n ≤ 0xd) || (0x2000 ≤ n && n ≤ 0x200a) ||
    n ∈ [0x20, 0x85, 0xa0, 0x1680, 0x2028, 0x2029, 0x202f, 0x205f, 0x3000]

/-- Text without white space at its ends. -/
def trim (s : List Char) : List Char :=
  ((s.dropWhile isWhitespace).reverse.dropWhile isWhitespace).reverse

theorem append_ne_empty {s : String} (h : s ≠ "") (t : String) : s ++ t ≠ "" := by
  intro ht
  rw [String.append_eq_empty_iff] at ht
  exact h ht.1

theorem joinPath_ne_empty {root : String} (h : root ≠ "") (name : String) :
    joinPath root name ≠ "" := by
  unfold joinPath
  split
  · exact append_ne_empty h name
  · rw [String.append_assoc]
    exact append_ne_empty h _

theorem joinPath_append (root name ext : String) :
    joinPath root name ++ ext = joinPath root (name ++ ext) := by
  unfold joinPath
  split
  · rw [String.append_assoc]
  · rw [String.append_assoc, String.append_assoc]

theorem joinPath_inj {root name name' : String} (h : joinPath root name = joinPath root name') :
    name = name' := by
  unfold joinPath at h
  split at h
  · exact (String.append_right_inj _).mp h
  · exact (String.append_right_inj _).mp h

theorem segments_append (s t : String) : segments (s ++ "/" ++ t) = segments s ++ segments t := by
  have hlist : (s ++ "/" ++ t).toList = s.toList ++ '/' :: t.toList := by
    rw [String.toList_append, String.toList_append, List.append_assoc]
    rfl
  rw [segments, hlist, List.splitOn_append_cons_self, List.map_append]
  rfl

theorem segments_ne_nil (path : String) : segments path ≠ [] := fun h =>
  List.splitOn_ne_nil '/' path.toList (List.map_eq_nil_iff.mp h)

theorem head?_segments_append (path : String) (rest : List String) :
    (segments path ++ rest).head? = (segments path).head? := by
  rcases List.exists_cons_of_ne_nil (segments_ne_nil path) with ⟨segment, others, hcons⟩
  rw [hcons]
  rfl

/-- The components of a safe path are normal, so it begins with nothing else. -/
theorem components_of_safe {path : String} (h : isSafeRelativePath path = true) :
    components path =
      (((segments path).filter fun segment => segment ≠ "" ∧ segment ≠ ".").map
        fun segment => if segment = ".." then Component.parentDir else .normal segment) ∧
      ∀ c ∈ components path, ∃ segment, c = .normal segment := by
  rw [isSafeRelativePath, Bool.and_eq_true, List.all_eq_true] at h
  refine ⟨?_, fun c hc => ?_⟩
  · have hall := h.2
    dsimp only [components] at hall ⊢
    by_cases habs : isAbsolute path = true
    · rw [if_pos habs] at hall
      exact absurd (hall .rootDir List.mem_cons_self) Bool.false_ne_true
    · rw [if_neg habs] at hall ⊢
      by_cases hdot : (segments path).head? = some "."
      · rw [if_pos hdot] at hall
        exact absurd (hall .curDir List.mem_cons_self) Bool.false_ne_true
      · rw [if_neg hdot, List.nil_append]
  · have hc' := h.2 c hc
    cases c with
    | normal segment => exact ⟨segment, rfl⟩
    | rootDir => cases hc'
    | curDir => cases hc'
    | parentDir => cases hc'

/-- What the segments of a path come to does not depend on the empty ones. -/
theorem components_extend {path root rel : String} (hrel : isSafeRelativePath rel = true)
    (habs : isAbsolute path = isAbsolute root)
    (hhead : (segments path).head? = (segments root).head?)
    (hsegments : ((segments path).filter fun segment => segment ≠ "" ∧ segment ≠ ".") =
      ((segments root).filter fun segment => segment ≠ "" ∧ segment ≠ ".") ++
        ((segments rel).filter fun segment => segment ≠ "" ∧ segment ≠ ".")) :
    components path = components root ++ components rel := by
  rw [(components_of_safe hrel).1]
  dsimp only [components]
  rw [habs, hhead, hsegments, List.map_append, List.append_assoc]

theorem isAbsolute_append {s : String} (h : s ≠ "") (t : String) :
    isAbsolute (s ++ t) = isAbsolute s := by
  have hne : s.toList ≠ [] := fun hnil => h (String.toList_eq_nil_iff.mp hnil)
  rcases List.exists_cons_of_ne_nil hne with ⟨c, cs, hcs⟩
  rw [isAbsolute, isAbsolute, String.toList_append, hcs]
  rfl

/-- A path extended by a safe one has the components of both. -/
theorem components_joinPath (root : String) {rel : String} (h : isSafeRelativePath rel = true) :
    components (joinPath root rel) = components root ++ components rel := by
  unfold joinPath
  by_cases hempty : root = ""
  · rw [hempty]
    rfl
  by_cases hlast : root.toList.getLast? = some '/'
  · -- The slash at the end has an empty segment after it, which is no component.
    rw [if_pos (Bool.or_eq_true_iff.mpr (Or.inr (decide_eq_true hlast)))]
    rcases List.getLast?_eq_some_iff.mp hlast with ⟨front, hfront⟩
    have hroot : root = String.ofList front ++ "/" ++ "" := by
      rw [String.append_empty, ← String.toList_inj, hfront, String.toList_append,
        String.toList_ofList]
      rfl
    have hpath : root ++ rel = String.ofList front ++ "/" ++ rel := by
      rw [hroot, String.append_empty]
    refine components_extend h (isAbsolute_append hempty rel) ?_ ?_
    · rw [hpath, hroot, segments_append, segments_append, head?_segments_append,
        head?_segments_append]
    · rw [hpath, segments_append, hroot, segments_append, List.filter_append, List.filter_append]
      exact congrArg (· ++ _) (List.append_nil _).symm
  · have hcond : ¬ (root.isEmpty || decide (root.toList.getLast? = some '/')) = true := by
      rw [Bool.or_eq_true, decide_eq_true_eq, not_or]
      exact ⟨fun hempty' => hempty (String.isEmpty_iff.mp hempty'), hlast⟩
    rw [if_neg hcond]
    refine components_extend h ?_ ?_ ?_
    · rw [String.append_assoc, isAbsolute_append hempty]
    · rw [segments_append, head?_segments_append]
    · rw [segments_append, List.filter_append]

/-- What a path is extended by makes it another path. -/
theorem append_ne_self {s t : String} (h : t ≠ "") : s ++ t ≠ s := by
  intro hs
  have hempty : s ++ t = s ++ "" := by rw [hs, String.append_empty]
  exact h ((String.append_right_inj s).mp hempty)

theorem mem_of_mem_trim {s : List Char} {c : Char} (h : c ∈ trim s) : c ∈ s :=
  (List.dropWhile_sublist _).subset ((List.rdropWhile_prefix isWhitespace _).subset h)

/-- A trimmed text does not end with white space. -/
theorem isWhitespace_getLast?_trim {s : List Char} {c : Char} (h : (trim s).getLast? = some c) :
    isWhitespace c = false := by
  have hne : trim s ≠ [] := by
    intro hnil
    rw [hnil] at h
    cases h
  rw [List.getLast?_eq_some_getLast hne, Option.some.injEq] at h
  rw [← h]
  exact Bool.eq_false_iff.mpr (List.rdropWhile_last_not isWhitespace _ hne)

theorem head?_trim_cons {c : Char} (h : isWhitespace c = false) (s : List Char) :
    (trim (c :: s)).head? = some c := by
  have htrim : trim (c :: s) = (c :: s).rdropWhile isWhitespace := by
    rw [trim, List.dropWhile_cons_of_neg (Bool.eq_false_iff.mp h)]
    rfl
  have hne : (c :: s).rdropWhile isWhitespace ≠ [] := fun hnil =>
    Bool.eq_false_iff.mp h (List.rdropWhile_eq_nil_iff.mp hnil c List.mem_cons_self)
  rcases List.exists_cons_of_ne_nil hne with ⟨d, t, hcons⟩
  have hprefix := List.rdropWhile_prefix isWhitespace (c :: s)
  rw [hcons, List.cons_prefix_cons] at hprefix
  rw [htrim, hcons, hprefix.1]
  rfl

theorem trim_trim (s : List Char) : trim (trim s) = trim s := by
  have hhead : (trim s).dropWhile isWhitespace = trim s := by
    cases ht : trim s with
    | nil => rfl
    | cons c t =>
        have hprefix : trim s <+: s.dropWhile isWhitespace := List.rdropWhile_prefix isWhitespace _
        rw [ht] at hprefix
        rcases hprefix with ⟨u, hu⟩
        have hnot := List.head?_dropWhile_not isWhitespace s
        rw [← hu] at hnot
        exact List.dropWhile_cons_of_neg (Bool.eq_false_iff.mp hnot)
  calc trim (trim s) = (trim s).rdropWhile isWhitespace := congrArg (List.rdropWhile _) hhead
    _ = trim s := List.rdropWhile_idempotent isWhitespace _

end Ssam
