import Mathlib.Data.List.Infix
import Mathlib.Data.List.Nodup
import Mathlib.Data.Set.Basic

/-!
# Line Based Documents of Tables

A document that is written line by line: a header opens a table, and what a key and
a value define lies in the table last opened. The meaning of a line depends on the
headers above it, and a line taken away can move the ones below it.

What a document means is a set of tables and a set of values, each at its path, so
two texts with their lines in another order can mean the same. `erase_iff` says when
lines may be taken away: every line at or below what is to be erased has to go with
it, and a table that only such lines made is lost.

## Main definitions

* `Item`, `Stmt`: What a line is, and what it defines where it stands.
* `scan`: The statements of a document.
* `Valid`: Nothing is defined twice, and a value has nothing below it.
* `isPlain`: A check of this for documents without dotted keys.
* `Doc`, `document`: The tables and the values of a document.
* `Doc.erase`: A document without what lies at or below some paths.
* `marked`, `kept`: The statements with their marks, and the items without one.

## Theorems

* `scan_kept`: The statements that are kept, at the place they had.
* `erase_iff`: When taking lines away erases what they define, and no more.
-/

namespace Lib

namespace Toml

variable {V : Type*}

/-- The keys that lead from the root to a table or a value. -/
abbrev Path := List String

/-- What a line is: nothing where it is empty or a comment. -/
inductive Item (V : Type*) where
  | nothing
  | header (path : Path)
  | keyVal (key : Path) (value : V)
  deriving DecidableEq

/-- What a line defines: a table, or a value in the table it stands in. -/
inductive Stmt (V : Type*) where
  | table (path : Path)
  | leaf (sec key : Path) (value : V)
  deriving DecidableEq

/-- The path of what is defined. -/
def Stmt.path : Stmt V → Path
  | .table path => path
  | .leaf sec key _ => sec ++ key

/-- The statements of the items that follow the header of `cur`. -/
def scan (cur : Path) : List (Item V) → List (Stmt V)
  | [] => []
  | .nothing :: items => scan cur items
  | .header path :: items => .table path :: scan path items
  | .keyVal key value :: items => .leaf cur key value :: scan cur items

/-- The statement makes `p` a table: it is its header, or defines something below. -/
def Stmt.Makes (p : Path) : Stmt V → Prop
  | .table path => p <+: path
  | .leaf sec key _ => p <+: sec ++ key ∧ p ≠ sec ++ key

/-- Statements that make a document. -/
structure Valid (stmts : List (Stmt V)) : Prop where
  /-- Nothing is defined twice. -/
  nodup : (stmts.map Stmt.path).Nodup
  /-- Nothing is defined below a value. -/
  ends : ∀ {sec key value}, .leaf sec key value ∈ stmts → ∀ s ∈ stmts,
    sec ++ key <+: s.path → s.path = sec ++ key
  /-- A table that a dotted key made has no header. -/
  dotted : ∀ {sec key value}, .leaf sec key value ∈ stmts → ∀ {path}, .table path ∈ stmts →
    sec <+: path → sec ≠ path → ¬ path <+: sec ++ key

/-- A check for documents without dotted keys. -/
def isPlain (stmts : List (Stmt V)) : Bool :=
  decide (stmts.map Stmt.path).Nodup && stmts.all fun
    | .table _ => true
    | .leaf sec key _ => key.length == 1 && stmts.all fun s =>
        !(sec ++ key).isPrefixOf s.path || s.path == sec ++ key

/-- What a document means. -/
@[ext]
structure Doc (V : Type*) where
  tables : Set Path
  leaves : Set (Path × V)

/-- The document that some statements make. -/
def document (stmts : List (Stmt V)) : Doc V where
  tables := { p | p = [] ∨ ∃ s ∈ stmts, s.Makes p }
  leaves := { x | ∃ sec key, .leaf sec key x.2 ∈ stmts ∧ x.1 = sec ++ key }

/-- What some lines mean, where `read` says what a line is. -/
def Parses {L : Type*} (read : L → Option (Item V)) (lines : List L) (doc : Doc V) : Prop :=
  ∃ items, lines.map read = items.map some ∧ Valid (scan [] items) ∧
    document (scan [] items) = doc

/-- The path is one of `erased`, or lies below one. -/
def Under (erased : Set Path) (p : Path) : Prop := ∃ m ∈ erased, m <+: p

/-- The document without what is to be erased, and without what lies below. -/
def Doc.erase (doc : Doc V) (erased : Set Path) : Doc V where
  tables := { p ∈ doc.tables | ¬ Under erased p }
  leaves := { x ∈ doc.leaves | ¬ Under erased x.1 }

/-- The statements of items with a mark, each with its mark. -/
def marked (cur : Path) : List (Bool × Item V) → List (Bool × Stmt V)
  | [] => []
  | (_, .nothing) :: items => marked cur items
  | (mark, .header path) :: items => (mark, .table path) :: marked path items
  | (mark, .keyVal key value) :: items => (mark, .leaf cur key value) :: marked cur items

/-- The items without a mark. -/
def kept (items : List (Bool × Item V)) : List (Item V) := (items.filter (!·.1)).map Prod.snd

/-- The statements without a mark, each with what it becomes when the others are gone:
    it stands in `cur`, and in `new` then. -/
def moves (cur new : Path) : List (Bool × Item V) → List (Stmt V × Stmt V)
  | [] => []
  | (_, .nothing) :: items => moves cur new items
  | (true, .header path) :: items => moves path new items
  | (false, .header path) :: items => (.table path, .table path) :: moves path path items
  | (true, .keyVal _ _) :: items => moves cur new items
  | (false, .keyVal key value) :: items =>
      (.leaf cur key value, .leaf new key value) :: moves cur new items

section Under

variable {erased : Set Path} {p q : Path}

theorem under_of_mem (h : p ∈ erased) : Under erased p := ⟨p, h, List.prefix_rfl⟩

theorem Under.mono (h : Under erased p) (hpq : p <+: q) : Under erased q := by
  rcases h with ⟨m, hm, hmp⟩
  exact ⟨m, hm, hmp.trans hpq⟩

theorem under_nil_iff : Under erased [] ↔ [] ∈ erased := by
  constructor
  · rintro ⟨m, hm, hnil⟩
    rwa [List.prefix_nil.mp hnil] at hm
  · exact under_of_mem

end Under

section Statements

theorem Stmt.Makes.prefix {p : Path} {s : Stmt V} (h : s.Makes p) : p <+: s.path := by
  cases s with
  | table path => exact h
  | leaf sec key value => exact h.1

theorem Stmt.makes_of_ne {p : Path} {s : Stmt V} (h : p <+: s.path) (hne : p ≠ s.path) :
    s.Makes p := by
  cases s with
  | table path => exact h
  | leaf sec key value => exact ⟨h, hne⟩

theorem Valid.sublist {stmts stmts' : List (Stmt V)} (h : Valid stmts)
    (hsub : stmts'.Sublist stmts) : Valid stmts' where
  nodup := h.nodup.sublist (hsub.map _)
  ends hleaf s hs := h.ends (hsub.subset hleaf) s (hsub.subset hs)
  dotted hleaf _ htable := h.dotted (hsub.subset hleaf) (hsub.subset htable)

/-- Between a table and a key of a single part there is no other table. -/
theorem valid_of_isPlain {stmts : List (Stmt V)} (h : isPlain stmts = true) : Valid stmts := by
  rw [isPlain, Bool.and_eq_true, decide_eq_true_eq, List.all_eq_true] at h
  rcases h with ⟨hnodup, hall⟩
  have hleaf : ∀ {sec key value}, Stmt.leaf sec key value ∈ stmts → key.length = 1 ∧
      ∀ s ∈ stmts, sec ++ key <+: s.path → s.path = sec ++ key := by
    intro sec key value hmem
    have hcheck := hall _ hmem
    rw [Bool.and_eq_true, beq_iff_eq, List.all_eq_true] at hcheck
    refine ⟨hcheck.1, fun s hs hprefix => ?_⟩
    have hends := hcheck.2 s hs
    rw [List.isPrefixOf_iff_prefix.mpr hprefix, Bool.not_true, Bool.false_or,
      beq_iff_eq] at hends
    exact hends
  refine ⟨hnodup, fun hmem => (hleaf hmem).2, ?_⟩
  intro sec key value hmem path htable hsec hne hpath
  -- The header would be as long as the value's path, so it would be this path.
  have hlong : sec.length < path.length :=
    Nat.lt_of_le_of_ne hsec.length_le fun hlen => hne (hsec.eq_of_length hlen)
  have heq : path = sec ++ key := by
    refine hpath.eq_of_length (Nat.le_antisymm hpath.length_le ?_)
    rw [List.length_append, (hleaf hmem).1]
    exact hlong
  have hsame := List.inj_on_of_nodup_map hnodup htable hmem heq
  cases hsame

/-- The items that are read from some lines are the only ones. -/
theorem parses_iff {L : Type*} {read : L → Option (Item V)} {lines : List L}
    {items : List (Item V)} (hread : lines.map read = items.map some) {doc : Doc V} :
    Parses read lines doc ↔ Valid (scan [] items) ∧ document (scan [] items) = doc := by
  constructor
  · rintro ⟨items', hread', h⟩
    have heq : items = items' :=
      (List.map_inj_right fun _ _ => Option.some.inj).mp (hread.symm.trans hread')
    exact heq ▸ h
  · exact fun h => ⟨items, hread, h⟩

@[simp]
theorem mem_document_tables {stmts : List (Stmt V)} {p : Path} :
    p ∈ (document stmts).tables ↔ p = [] ∨ ∃ s ∈ stmts, s.Makes p := Iff.rfl

@[simp]
theorem mem_document_leaves {stmts : List (Stmt V)} {p : Path} {value : V} :
    (p, value) ∈ (document stmts).leaves ↔
      ∃ sec key, .leaf sec key value ∈ stmts ∧ p = sec ++ key := Iff.rfl

@[simp]
theorem mem_erase_tables {doc : Doc V} {erased : Set Path} {p : Path} :
    p ∈ (doc.erase erased).tables ↔ p ∈ doc.tables ∧ ¬ Under erased p := Iff.rfl

@[simp]
theorem mem_erase_leaves {doc : Doc V} {erased : Set Path} {x : Path × V} :
    x ∈ (doc.erase erased).leaves ↔ x ∈ doc.leaves ∧ ¬ Under erased x.1 := Iff.rfl

end Statements

section Moves

variable {items : List (Bool × Item V)} {cur new : Path}

theorem map_snd_marked (items : List (Bool × Item V)) (cur : Path) :
    (marked cur items).map Prod.snd = scan cur (items.map Prod.snd) := by
  induction items generalizing cur with
  | nil => rfl
  | cons first items ih =>
      rcases first with ⟨mark, _ | path | ⟨key, value⟩⟩
      · exact ih cur
      · exact congrArg _ (ih path)
      · exact congrArg _ (ih cur)

theorem map_snd_moves (items : List (Bool × Item V)) (cur new : Path) :
    (moves cur new items).map Prod.snd = scan new (kept items) := by
  induction items generalizing cur new with
  | nil => rfl
  | cons first items ih =>
      rcases first with ⟨_ | _, _ | path | ⟨key, value⟩⟩
      · exact ih cur new
      · exact congrArg _ (ih path path)
      · exact congrArg _ (ih cur new)
      · exact ih cur new
      · exact ih path new
      · exact ih cur new

theorem map_fst_moves (items : List (Bool × Item V)) (cur new : Path) :
    (moves cur new items).map Prod.fst = ((marked cur items).filter (!·.1)).map Prod.snd := by
  induction items generalizing cur new with
  | nil => rfl
  | cons first items ih =>
      rcases first with ⟨_ | _, _ | path | ⟨key, value⟩⟩
      · exact ih cur new
      · exact congrArg _ (ih path path)
      · exact congrArg _ (ih cur new)
      · exact ih cur new
      · exact ih path new
      · exact ih cur new

/-- A statement is moved only where the header it stood under is gone, so what it
    defines lay below a path that is to be erased. -/
theorem moves_eq_or_under {erased : Set Path}
    (hmarked : ∀ s, (true, s) ∈ marked cur items → s.path ∈ erased)
    (hcur : new = cur ∨ Under erased cur) :
    ∀ m ∈ moves cur new items, m.2 = m.1 ∨
      ∃ sec sec' key value, m = (.leaf sec key value, .leaf sec' key value) ∧
        Under erased sec := by
  induction items generalizing cur new with
  | nil => exact fun m hm => absurd hm List.not_mem_nil
  | cons first items ih =>
      rcases first with ⟨_ | _, _ | path | ⟨key, value⟩⟩
      · exact ih hmarked hcur
      · intro m hm
        rcases List.mem_cons.mp hm with rfl | hm
        · exact .inl rfl
        · exact ih (fun s hs => hmarked s (.tail _ hs)) (.inl rfl) m hm
      · intro m hm
        rcases List.mem_cons.mp hm with rfl | hm
        · rcases hcur with rfl | hunder
          · exact .inl rfl
          · exact .inr ⟨cur, new, key, value, rfl, hunder⟩
        · exact ih (fun s hs => hmarked s (.tail _ hs)) hcur m hm
      · exact ih hmarked hcur
      · -- The header goes, and it is to be erased: what follows stands below it.
        have hpath : path ∈ erased := hmarked _ List.mem_cons_self
        exact ih (fun s hs => hmarked s (.tail _ hs)) (.inr (under_of_mem hpath))
      · exact ih (fun s hs => hmarked s (.tail _ hs)) hcur

theorem mem_map_fst_moves {s : Stmt V} :
    s ∈ (moves cur new items).map Prod.fst ↔ (false, s) ∈ marked cur items := by
  rw [map_fst_moves, List.mem_map]
  constructor
  · rintro ⟨⟨mark, t⟩, ht, rfl⟩
    rcases List.mem_filter.mp ht with ⟨hmem, hmark⟩
    rw [Bool.not_eq_true'] at hmark
    exact hmark ▸ hmem
  · exact fun h => ⟨(false, s), List.mem_filter.mpr ⟨h, rfl⟩, rfl⟩

theorem mem_scan_iff {s : Stmt V} :
    s ∈ scan cur (items.map Prod.snd) ↔ ∃ mark, (mark, s) ∈ marked cur items := by
  rw [← map_snd_marked, List.mem_map]
  constructor
  · rintro ⟨⟨mark, t⟩, ht, rfl⟩
    exact ⟨mark, ht⟩
  · rintro ⟨mark, h⟩
    exact ⟨(mark, s), h, rfl⟩

end Moves

section Erase

variable {items : List (Bool × Item V)} {erased : Set Path}

/-- Every statement at or below what is to be erased is marked. -/
def Closed (erased : Set Path) (stmts : List (Bool × Stmt V)) : Prop :=
  ∀ s, (false, s) ∈ stmts → ¬ Under erased s.path

/-- A table above a marked statement, unless it is to be erased itself, is above an
    unmarked one too. -/
def TablesStay (erased : Set Path) (stmts : List (Bool × Stmt V)) : Prop :=
  ∀ s, (true, s) ∈ stmts → ∀ p, p <+: s.path → p ≠ [] → ¬ Under erased p →
    ∃ t, (false, t) ∈ stmts ∧ p <+: t.path

/-- Where all that is to be erased is marked, what is kept stays where it was. -/
theorem scan_kept (hmarked : ∀ s, (true, s) ∈ marked [] items → s.path ∈ erased)
    (hclosed : Closed erased (marked [] items)) :
    scan [] (kept items) = (moves [] [] items).map Prod.fst := by
  rw [← map_snd_moves items [] []]
  refine List.map_congr_left fun m hm => ?_
  rcases moves_eq_or_under hmarked (.inl rfl) m hm with h | ⟨sec, _, key, value, rfl, hunder⟩
  · exact h
  · have hkept : (false, .leaf sec key value) ∈ marked [] items :=
      mem_map_fst_moves.mp (List.mem_map_of_mem hm)
    exact absurd (hunder.mono (List.prefix_append _ _)) (hclosed _ hkept)

theorem valid_kept (hvalid : Valid (scan [] (items.map Prod.snd))) :
    Valid ((moves [] [] items).map Prod.fst) := by
  refine hvalid.sublist ?_
  rw [map_fst_moves, ← map_snd_marked]
  exact List.filter_sublist.map _

/-- The statements that are kept make the document without what is to be erased. -/
theorem document_kept (hvalid : Valid (scan [] (items.map Prod.snd))) (hroot : [] ∉ erased)
    (hmarked : ∀ s, (true, s) ∈ marked [] items → s.path ∈ erased)
    (hclosed : Closed erased (marked [] items)) (htables : TablesStay erased (marked [] items)) :
    document ((moves [] [] items).map Prod.fst) =
      (document (scan [] (items.map Prod.snd))).erase erased := by
  ext p
  · simp only [mem_erase_tables, mem_document_tables, mem_map_fst_moves, mem_scan_iff]
    constructor
    · rintro (rfl | ⟨s, hs, hmakes⟩)
      · exact ⟨.inl rfl, mt under_nil_iff.mp hroot⟩
      · exact ⟨.inr ⟨s, ⟨_, hs⟩, hmakes⟩, fun h => hclosed s hs (h.mono hmakes.prefix)⟩
    · rintro ⟨rfl | ⟨s, ⟨_ | _, hs⟩, hmakes⟩, hunder⟩
      · exact .inl rfl
      · exact .inr ⟨s, hs, hmakes⟩
      -- The statement that made `p` a table is gone, so another one has to.
      · by_cases hnil : p = []
        · exact .inl hnil
        · rcases htables s hs p hmakes.prefix hnil hunder with ⟨t, ht, hpt⟩
          refine .inr ⟨t, ht, ?_⟩
          cases t with
          | table path => exact hpt
          | leaf sec key value =>
              refine ⟨hpt, fun heq => hunder ?_⟩
              -- A value has nothing below it, so `s` would define this value.
              have hends := hvalid.ends (mem_scan_iff.mpr ⟨_, ht⟩) s (mem_scan_iff.mpr ⟨_, hs⟩)
                (heq ▸ hmakes.prefix)
              rw [heq, ← hends]
              exact under_of_mem (hmarked s hs)
  · rcases p with ⟨p, value⟩
    simp only [mem_erase_leaves, mem_document_leaves, mem_map_fst_moves, mem_scan_iff]
    constructor
    · rintro ⟨sec, key, hs, rfl⟩
      exact ⟨⟨sec, key, ⟨_, hs⟩, rfl⟩, hclosed _ hs⟩
    · rintro ⟨⟨sec, key, ⟨_ | _, hs⟩, rfl⟩, hunder⟩
      · exact ⟨sec, key, hs, rfl⟩
      · exact absurd (under_of_mem (hmarked _ hs)) hunder

/-- What a document without `erased` is made of does not lie there. -/
theorem not_under_of_mem {stmts : List (Stmt V)} {doc : Doc V}
    (hdoc : document stmts = doc.erase erased) {s : Stmt V} (hs : s ∈ stmts) :
    ¬ Under erased s.path := by
  cases s with
  | table path =>
      have htable : path ∈ (document stmts).tables := .inr ⟨_, hs, List.prefix_rfl⟩
      rw [hdoc] at htable
      exact htable.2
  | leaf sec key value =>
      have hleaf : (sec ++ key, value) ∈ (document stmts).leaves := ⟨sec, key, hs, rfl⟩
      rw [hdoc] at hleaf
      exact hleaf.2

/-- A line that is left behind shows in the document: where it is moved to, either
    nothing should be or something is already. -/
theorem closed_of_document (hmarked : ∀ s, (true, s) ∈ marked [] items → s.path ∈ erased)
    (hvalid : Valid (scan [] (kept items)))
    (hdoc : document (scan [] (kept items)) =
      (document (scan [] (items.map Prod.snd))).erase erased) :
    Closed erased (marked [] items) := by
  intro s hs hunder
  have hmoved : ∀ m ∈ moves [] [] items, m.2 ∈ scan [] (kept items) := fun m hm => by
    rw [← map_snd_moves]
    exact List.mem_map_of_mem hm
  rcases List.mem_map.mp (mem_map_fst_moves.mpr hs) with ⟨m, hm, rfl⟩
  rcases moves_eq_or_under hmarked (.inl rfl) m hm with heq | ⟨sec, sec', key, value, rfl, -⟩
  · have hstays := not_under_of_mem hdoc (hmoved m hm)
    rw [heq] at hstays
    exact hstays hunder
  · have hnew := not_under_of_mem hdoc (hmoved _ hm)
    have hleaf : (sec' ++ key, value) ∈ (document (scan [] (kept items))).leaves :=
      ⟨sec', key, hmoved _ hm, rfl⟩
    rw [hdoc] at hleaf
    rcases hleaf.1 with ⟨sec₂, key₂, hmem, hpath⟩
    change sec' ++ key = sec₂ ++ key₂ at hpath
    rw [Stmt.path, hpath] at hnew
    rcases mem_scan_iff.mp hmem with ⟨_ | _, hother⟩
    · -- The value of this path is kept as well: it stays, and there are two.
      rcases List.mem_map.mp (mem_map_fst_moves.mpr hother) with ⟨m₂, hm₂, hfst⟩
      rcases moves_eq_or_under hmarked (.inl rfl) m₂ hm₂ with heq | ⟨_, _, _, _, rfl, hsec⟩
      · have hnodup := hvalid.nodup
        rw [← map_snd_moves, List.map_map] at hnodup
        have hsame : m₂ = (.leaf sec key value, .leaf sec' key value) := by
          refine List.inj_on_of_nodup_map hnodup hm₂ hm ?_
          rw [Function.comp_apply, heq, hfst]
          exact hpath.symm
        rw [hsame] at hfst
        have hsamePath : sec ++ key = sec₂ ++ key₂ := congrArg Stmt.path hfst
        exact hnew (hsamePath ▸ hunder)
      · injection hfst with hsec₂
        exact hnew (hsec₂ ▸ hsec.mono (List.prefix_append _ _))
    · exact hnew (under_of_mem (hmarked _ hother))

/-- Taking the marked lines away erases what is to be erased, and no more, exactly
    where all of it is marked and no other table is lost. -/
theorem erase_iff (hroot : [] ∉ erased)
    (hmarked : ∀ s, (true, s) ∈ marked [] items → s.path ∈ erased)
    (hvalid : Valid (scan [] (items.map Prod.snd))) :
    (Valid (scan [] (kept items)) ∧
      document (scan [] (kept items)) =
        (document (scan [] (items.map Prod.snd))).erase erased) ↔
    Closed erased (marked [] items) ∧ TablesStay erased (marked [] items) := by
  constructor
  · rintro ⟨hkept, hdoc⟩
    have hclosed := closed_of_document hmarked hkept hdoc
    refine ⟨hclosed, fun s hs p hp hnil hunder => ?_⟩
    have htable : p ∈ ((document (scan [] (items.map Prod.snd))).erase erased).tables := by
      have hne : p ≠ s.path := fun h => hunder (h ▸ under_of_mem (hmarked s hs))
      exact ⟨.inr ⟨s, mem_scan_iff.mpr ⟨_, hs⟩, Stmt.makes_of_ne hp hne⟩, hunder⟩
    rw [← hdoc, scan_kept hmarked hclosed] at htable
    rcases htable with h | ⟨t, ht, hmakes⟩
    · exact absurd h hnil
    · exact ⟨t, mem_map_fst_moves.mp ht, hmakes.prefix⟩
  · rintro ⟨hclosed, htables⟩
    -- Nothing is moved, so what is kept is read as it was.
    rw [scan_kept hmarked hclosed]
    exact ⟨valid_kept hvalid, document_kept hvalid hroot hmarked hclosed htables⟩

end Erase

end Toml

end Lib
