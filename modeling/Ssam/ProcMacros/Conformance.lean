import Ssam.ProcMacros.Structs

/-!
# What the Generated Types Say

A template conforms to the types generated from it if each of its tables has a struct
of its own: the struct's fields are the keys of the table, optional where they are
marked, and each value has the type of its field. A struct is found by its name, so
what is asked of all tables is more than that a struct was made for each of them once.

Tables that get one name have to share a struct. They can if they hold the same keys
with values that are alike, which the generator does not check: of two tables that
stand under one key at different paths, the one visited last has its struct.

## Main definitions

* `tablesOf`: The tables of a template, at whatever path.
* `Conforms`: A value has a type, by the structs that were generated.
* `HasStruct`: A table has a struct of its own.
* `Describes`: The structs describe the template.
* `CanShare`: Two tables can share a struct.
* `Compatible`: No tables stand in each other's way.

## Theorems

* `Conforms.alike`: Values of one type are alike.
* `exists_visited`: No key of a table is left out.
* `conforms_of_alike`: A value conforms to the type of a value it is alike to.
* `describes_iff`: When the structs describe the template.
* `toml_file_to_struct_describes_iff`: This for what the macro generates.
-/

namespace Ssam

namespace ProcMacros

open Lib Lib.Toml

section Spec

mutual

/-- The tables of a value that stands under a key. -/
def tablesOf (pre key : String) : Value → List Table
  | .array elems => tablesOfElems pre key elems
  | .table entries =>
      ⟨newPrefix pre key, key, entries⟩ :: tablesOfEntries (newPrefix pre key) entries
  | _ => []

def tablesOfElems (pre key : String) : List Value → List Table
  | [] => []
  | elem :: elems => tablesOf pre key elem ++ tablesOfElems pre key elems

def tablesOfEntries (pre : String) : List (String × Value) → List Table
  | [] => []
  | (key, val) :: entries => tablesOf pre key val ++ tablesOfEntries pre entries

end

/-- A struct that was generated has the name. -/
def IsGenerated (structs : TomlStructMap) (n : String) : Prop :=
  ∃ k item, structs.get k = some item ∧ item.name = n

/-- The name stands for one struct among all that were generated. -/
def Denotes (structs : TomlStructMap) (n : String) (item : StructItem) : Prop :=
  ∃ k, structs.get k = some item ∧ item.name = n ∧
    ∀ k' item', structs.get k' = some item' → item'.name = n → k' = k

/-- The value has the type. A name is that of a generated struct, or that of a built-in
    type if no struct that was generated hides it. -/
inductive Conforms (structs : TomlStructMap) : Value → Ty → Prop
  | leaf {val n} : leafType val = some n → ¬ IsGenerated structs n →
      Conforms structs val (.name n)
  | array {elems type} : ¬ IsGenerated structs "Vec" → (∀ v ∈ elems, Conforms structs v type) →
      Conforms structs (.array elems) (.vec type)
  | table {entries n item} : Denotes structs n item →
      item.fields.map Field.name = entries.map Prod.fst →
      (∀ e f, (e, f) ∈ entries.zip item.fields → Conforms structs e.2 f.type) →
      Conforms structs (.table entries) (.name n)

variable (C : Crates) (optionalKeys : List String)

/-- The table has a struct of its own. -/
def HasStruct (structs : TomlStructMap) (T : Table) : Prop :=
  ∃ item, structIdent C T.key = .ok item.name ∧ Denotes structs item.name item ∧
    HasFields optionalKeys (fun e f => f.name = e.1 ∧ Conforms structs e.2 f.type) T item.fields ∧
    ((∃ f ∈ item.fields, f.isOptional) → ¬ IsGenerated structs "Option")

/-- Every table of the template has a struct of its own, and so the template conforms to
    the struct of the root. -/
structure Describes (structs : TomlStructMap) (root : String) (template : Value) : Prop where
  tables : ∀ T ∈ tablesOf "" root template, HasStruct C optionalKeys structs T
  root : ∃ n, structIdent C root = .ok n ∧ Conforms structs template (.name n)

/-- The tables can share a struct: they have the same keys, the same of them are optional,
    and their values are alike. -/
def CanShare (T T' : Table) : Prop :=
  List.Forall₂ (fun e e' => e.1 = e'.1 ∧
    T.isOptional optionalKeys e.1 = T'.isOptional optionalKeys e'.1 ∧ e.2.alike e'.2)
    T.entries T'.entries

mutual

/-- The built-in types that the type of a value is made of. -/
def builtins : Value → List String
  | .array elems => "Vec" :: builtinsAll elems
  | val => (leafType val).toList

def builtinsAll : List Value → List String
  | [] => []
  | elem :: elems => builtins elem ++ builtinsAll elems

end

/-- The built-in types that the fields of a table use. -/
def Table.uses (T : Table) : List String :=
  T.entries.flatMap fun e =>
    (if T.isOptional optionalKeys e.1 then ["Option"] else []) ++ builtins e.2

/-- The tables do not stand in each other's way. -/
structure Compatible (tables : List Table) : Prop where
  /-- Each key is the name of its field. -/
  names : ∀ T ∈ tables, ∀ e ∈ T.entries, C.formatIdent e.1 = .ok e.1
  /-- Tables that get one name stand under one key and can share a struct. A table shares
      one with itself, so the elements of an array are alike. -/
  share : ∀ T ∈ tables, ∀ T' ∈ tables, structIdent C T.key = structIdent C T'.key →
    T.key = T'.key ∧ CanShare optionalKeys T T'
  /-- No table gets the name of a built-in type that is used. -/
  builtin : ∀ T ∈ tables, ∀ T' ∈ tables, ∀ n ∈ T'.uses optionalKeys, structIdent C T.key ≠ .ok n

instance (T T' : Table) : Decidable (CanShare optionalKeys T T') :=
  inferInstanceAs (Decidable (List.Forall₂ _ _ _))

instance (tables : List Table) : Decidable (Compatible C optionalKeys tables) :=
  decidable_of_iff
    ((∀ T ∈ tables, ∀ e ∈ T.entries, C.formatIdent e.1 = .ok e.1) ∧
      (∀ T ∈ tables, ∀ T' ∈ tables, structIdent C T.key = structIdent C T'.key →
        T.key = T'.key ∧ CanShare optionalKeys T T') ∧
      ∀ T ∈ tables, ∀ T' ∈ tables, ∀ n ∈ T'.uses optionalKeys, structIdent C T.key ≠ .ok n)
    ⟨fun ⟨hnames, hshare, hbuiltin⟩ => ⟨hnames, hshare, hbuiltin⟩,
      fun h => ⟨h.names, h.share, h.builtin⟩⟩

end Spec

section Tables

theorem mem_tablesOf_array {pre key : String} {elems : List Value} {T : Table} :
    T ∈ tablesOf pre key (.array elems) ↔ ∃ v ∈ elems, T ∈ tablesOf pre key v := by
  have hall : tablesOfElems pre key elems = elems.flatMap (tablesOf pre key) :=
    eq_flatMap_of_cons rfl (fun _ _ => rfl) elems
  rw [tablesOf, hall, List.mem_flatMap]

theorem mem_tablesOf_table {pre key : String} {entries : List (String × Value)} {T : Table} :
    T ∈ tablesOf pre key (.table entries) ↔ T = ⟨newPrefix pre key, key, entries⟩ ∨
      ∃ e ∈ entries, T ∈ tablesOf (newPrefix pre key) e.1 e.2 := by
  have hall : tablesOfEntries (newPrefix pre key) entries =
      entries.flatMap fun e => tablesOf (newPrefix pre key) e.1 e.2 :=
    eq_flatMap_of_cons rfl (fun _ _ => rfl) entries
  rw [tablesOf, List.mem_cons, hall, List.mem_flatMap]

theorem mem_visited_table {pre key : String} {entries : List (String × Value)} {T : Table} :
    T ∈ visited pre key (.table entries) ↔ T = ⟨newPrefix pre key, key, entries⟩ ∨
      ∃ e ∈ entries, T ∈ visited (newPrefix pre key) e.1 e.2 := by
  have hall : visitedEntries (newPrefix pre key) entries =
      entries.flatMap fun e => visited (newPrefix pre key) e.1 e.2 :=
    eq_flatMap_of_cons rfl (fun _ _ => rfl) entries
  rw [visited, List.mem_cons, hall, List.mem_flatMap]

/-- The tables of a table's values are tables of the template. -/
theorem tablesOf_subset {pre key : String} {v : Value} {T : Table} (hT : T ∈ tablesOf pre key v) :
    ∀ e ∈ T.entries, tablesOf T.path e.1 e.2 ⊆ tablesOf pre key v := by
  induction v generalizing pre key with
  | string | integer | float | boolean | datetime => cases hT
  | array elems ih =>
      obtain ⟨v, hv, hT⟩ := mem_tablesOf_array.mp hT
      intro e he T' hT'
      exact mem_tablesOf_array.mpr ⟨v, hv, ih v hv hT e he hT'⟩
  | table entries ih =>
      intro e he T' hT'
      rcases mem_tablesOf_table.mp hT with rfl | ⟨e', he', hT⟩
      · exact mem_tablesOf_table.mpr (.inr ⟨e, he, hT'⟩)
      · exact mem_tablesOf_table.mpr (.inr ⟨e', he', ih e' he' hT e he hT'⟩)

theorem visited_subset {pre key : String} {v : Value} : visited pre key v ⊆ tablesOf pre key v := by
  induction v generalizing pre key with
  | string | integer | float | boolean | datetime => exact List.nil_subset _
  | array elems ih =>
      cases elems with
      | nil => exact List.nil_subset _
      | cons first rest =>
          intro T hT
          exact mem_tablesOf_array.mpr ⟨first, List.mem_cons_self, ih first List.mem_cons_self hT⟩
  | table entries ih =>
      intro T hT
      rcases mem_visited_table.mp hT with rfl | ⟨e, he, hT⟩
      · exact mem_tablesOf_table.mpr (.inl rfl)
      · exact mem_tablesOf_table.mpr (.inr ⟨e, he, ih e he hT⟩)

/-- A table is visited with all that is visited from it. -/
theorem visited_closed {pre key : String} {v : Value} {T : Table} (hT : T ∈ visited pre key v) :
    ∀ e ∈ T.entries, visited T.path e.1 e.2 ⊆ visited pre key v := by
  induction v generalizing pre key with
  | string | integer | float | boolean | datetime => cases hT
  | array elems ih =>
      cases elems with
      | nil => cases hT
      | cons first rest => exact ih first List.mem_cons_self hT
  | table entries ih =>
      intro e he T' hT'
      rcases mem_visited_table.mp hT with rfl | ⟨e', he', hT⟩
      · exact mem_visited_table.mpr (.inr ⟨e, he, hT'⟩)
      · exact mem_visited_table.mpr (.inr ⟨e', he', ih e' he' hT e he hT'⟩)

end Tables

variable {C : Crates} {optionalKeys : List String} {structs : TomlStructMap} {n : String}

section Conforming

theorem Denotes.eq_of_get {item item' : StructItem} {k : String} (h : Denotes structs n item)
    (hget : structs.get k = some item') (hname : item'.name = n) : item' = item := by
  obtain ⟨k', hget', -, hone⟩ := h
  rw [hone k item' hget hname] at hget
  exact Option.some.inj (hget.symm.trans hget')

/-- A name stands for no more than one struct. -/
theorem Denotes.unique {item item' : StructItem} (h : Denotes structs n item)
    (h' : Denotes structs n item') : item = item' := by
  obtain ⟨k, hget, hname, -⟩ := h
  exact h'.eq_of_get hget hname

theorem Denotes.isGenerated {item : StructItem} (h : Denotes structs n item) :
    IsGenerated structs n := by
  obtain ⟨k, hget, hname, -⟩ := h
  exact ⟨k, item, hget, hname⟩

theorem alike_of_leafType {v w : Value} (hv : leafType v = some n) (hw : leafType w = some n) :
    v.alike w := by
  cases v <;> cases hv <;> cases w <;> first | rfl | simp only [leafType, reduceCtorEq,
    Option.some.injEq, String.reduceEq] at hw

/-- Values of one type are alike. -/
theorem Conforms.alike {v w : Value} {type : Ty} (hv : Conforms structs v type)
    (hw : Conforms structs w type) : v.alike w := by
  induction v generalizing w type with
  | string | integer | float | boolean | datetime =>
      cases hv with | leaf hleaf hfree =>
      cases hw with
      | leaf hleaf' => exact alike_of_leafType hleaf hleaf'
      | table hden => exact absurd hden.isGenerated hfree
  | array elems ih =>
      cases hv with
      | leaf hleaf => cases hleaf
      | array _ hv =>
          cases hw with | array _ hw =>
          exact Value.alike_array.mpr fun v hmem w hmem' => ih v hmem (hv v hmem) (hw w hmem')
  | table entries =>
      cases hv with
      | leaf hleaf => cases hleaf
      | table hden =>
          cases hw with
          | table => rfl
          | leaf _ hfree => exact absurd hden.isGenerated hfree

theorem mem_builtins_array {elems : List Value} :
    n ∈ builtins (.array elems) ↔ n = "Vec" ∨ ∃ v ∈ elems, n ∈ builtins v := by
  have hall : builtinsAll elems = elems.flatMap builtins :=
    eq_flatMap_of_cons rfl (fun _ _ => rfl) elems
  rw [builtins, List.mem_cons, hall, List.mem_flatMap]

theorem Conforms.builtins {v : Value} {type : Ty} (h : Conforms structs v type) :
    ∀ n ∈ builtins v, ¬ IsGenerated structs n := by
  induction v generalizing type with
  | string | integer | float | boolean | datetime =>
      cases h with | leaf hleaf hfree =>
      intro n hn
      simp only [ProcMacros.builtins, hleaf, Option.toList_some, List.mem_singleton] at hn
      rw [hn]
      exact hfree
  | table => exact fun n hn => absurd hn List.not_mem_nil
  | array elems ih =>
      cases h with
      | leaf hleaf => cases hleaf
      | array hfree h =>
          intro n hn
          rcases mem_builtins_array.mp hn with rfl | ⟨v, hv, hn⟩
          · exact hfree
          · exact ih v hv (h v hv) n hn

theorem mem_uses {T : Table} : n ∈ T.uses optionalKeys ↔
    ∃ e ∈ T.entries, (T.isOptional optionalKeys e.1 ∧ n = "Option") ∨ n ∈ builtins e.2 := by
  rw [Table.uses, List.mem_flatMap]
  refine exists_congr fun e => and_congr_right fun _ => ?_
  cases T.isOptional optionalKeys e.1 with
  | true => simp only [if_true, List.mem_append, List.mem_singleton, true_and]
  | false => simp only [Bool.false_eq_true, if_false, List.nil_append, false_and, false_or]

/-- A table with a struct of its own conforms to it. -/
theorem HasStruct.conforms {T : Table} (h : HasStruct C optionalKeys structs T)
    (hn : structIdent C T.key = .ok n) : Conforms structs (.table T.entries) (.name n) := by
  obtain ⟨item, hname, hden, hfields, -⟩ := h
  cases hname.symm.trans hn
  refine .table hden ?_ fun e f hmem => (List.forall₂_zip hfields hmem).2.2
  rw [← List.forall₂_eq_eq_eq, List.forall₂_map_left_iff, List.forall₂_map_right_iff]
  exact List.Forall₂.flip (hfields.imp fun e f hf => hf.2.1)

/-- An entry that a field was made of. -/
theorem HasFields.exists_entry {right : String × Value → Field → Prop} {T : Table}
    {fields : List Field} (h : HasFields optionalKeys right T fields) {f : Field}
    (hf : f ∈ fields) :
    ∃ e ∈ T.entries, f.isOptional = T.isOptional optionalKeys e.1 ∧ right e f :=
  exists_mem_of_forall₂ (List.Forall₂.flip (R := flip _) h) f hf

end Conforming

section Visits

variable {root : String} {template : Value}

/-- Every key of a table is visited: where a table stands that is not, one stands that
    is, under the same key. -/
theorem exists_visited (hgrow : Grows C optionalKeys (visited "" root template) ∅ structs)
    (hshare : ∀ T ∈ tablesOf "" root template, ∀ T' ∈ tablesOf "" root template,
      T.key = T'.key → CanShare optionalKeys T T')
    {pre pre' key : String} {v w : Value} (halike : v.alike w) (htyped : (typeOf C key w).isSome)
    (hv : tablesOf pre key v ⊆ tablesOf "" root template)
    (hw : visited pre' key w ⊆ visited "" root template) :
    ∀ T ∈ tablesOf pre key v, ∃ T' ∈ visited "" root template, T'.key = T.key := by
  induction v generalizing pre pre' key w with
  | string | integer | float | boolean | datetime => exact fun T hT => absurd hT List.not_mem_nil
  | array elems ih =>
      intro T hT
      obtain ⟨v, hmem, hT⟩ := mem_tablesOf_array.mp hT
      cases w with
      | array ws =>
          cases ws with
          | nil => cases htyped
          | cons first rest =>
              rw [typeOf, Option.isSome_map] at htyped
              exact ih v hmem (Value.alike_array.mp halike v hmem first List.mem_cons_self) htyped
                (fun T hT => hv (mem_tablesOf_array.mpr ⟨v, hmem, hT⟩)) hw T hT
      | _ => cases halike
  | table entries ih =>
      cases w with
      | table entries' =>
          have hself : ⟨newPrefix pre key, key, entries⟩ ∈ tablesOf "" root template :=
            hv (mem_tablesOf_table.mpr (.inl rfl))
          have hself' : ⟨newPrefix pre' key, key, entries'⟩ ∈ visited "" root template :=
            hw (mem_visited_table.mpr (.inl rfl))
          intro T hT
          rcases mem_tablesOf_table.mp hT with rfl | ⟨e, he, hT⟩
          · exact ⟨_, hself', rfl⟩
          · -- Both tables have the key, and the values under it are alike.
            obtain ⟨e', he', hkey, -, halike'⟩ :=
              exists_mem_of_forall₂ (hshare _ hself _ (visited_subset hself') rfl) e he
            have htyped' : (typeOf C e.1 e'.2).isSome := by
              rw [hkey]
              exact hgrow.typed _ hself' e' he'
            have hw' : visited (newPrefix pre' key) e.1 e'.2 ⊆ visited "" root template := by
              rw [hkey]
              exact visited_closed hself' e' he'
            exact ih e he halike' htyped' (tablesOf_subset hself e he) hw' T hT
      | _ => cases halike

variable (hgrow : Grows C optionalKeys (visited "" root template) ∅ structs)

include hgrow

/-- The struct under a key is that of a table that was visited. -/
theorem exists_isItemOf {k : String} {item : StructItem} (hget : structs.get k = some item) :
    ∃ T ∈ visited "" root template, T.key = k ∧ IsItemOf C optionalKeys T item := by
  rcases hgrow.origin hget with hget | h
  · cases hget
  · exact h

/-- A name is generated for a table. -/
theorem exists_of_isGenerated (h : IsGenerated structs n) :
    ∃ T ∈ tablesOf "" root template, structIdent C T.key = .ok n := by
  obtain ⟨k, item, hget, rfl⟩ := h
  obtain ⟨T, hT, -, hitem⟩ := exists_isItemOf hgrow hget
  exact ⟨T, visited_subset hT, hitem.name⟩

/-- Where the key of a table is visited, a struct with its name is under it. -/
theorem exists_get {T : Table} (hT : ∃ T' ∈ visited "" root template, T'.key = T.key) :
    ∃ item, structs.get T.key = some item ∧ structIdent C T.key = .ok item.name ∧
      ∃ T' ∈ visited "" root template, T'.key = T.key ∧ IsItemOf C optionalKeys T' item := by
  obtain ⟨T', hT', hkey⟩ := hT
  obtain ⟨item, hget⟩ := Option.isSome_iff_exists.mp (hgrow.visits T' hT')
  obtain ⟨T'', hT'', hkey', hitem⟩ := exists_isItemOf hgrow hget
  refine ⟨item, hkey ▸ hget, ?_, T'', hT'', hkey'.trans hkey, hitem⟩
  rw [← hkey, ← hkey']
  exact hitem.name

end Visits

section Sufficient

variable {root : String} {template : Value}
  (hgrow : Grows C optionalKeys (visited "" root template) ∅ structs)
  (hcomp : Compatible C optionalKeys (tablesOf "" root template))
  (hvisit : ∀ T ∈ tablesOf "" root template, ∃ T' ∈ visited "" root template, T'.key = T.key)

include hgrow hcomp

/-- No built-in type that the fields of a table use is hidden. -/
theorem not_isGenerated_of_uses {T : Table} (hT : T ∈ tablesOf "" root template)
    (hn : n ∈ T.uses optionalKeys) : ¬ IsGenerated structs n := by
  intro hgen
  obtain ⟨T', hT', hname⟩ := exists_of_isGenerated hgrow hgen
  exact hcomp.builtin T' hT' T hT n hn hname

include hvisit

/-- A table has a struct of its own if its values have the types of those they are
    alike to. -/
theorem hasStruct_of_values {T : Table} (hT : T ∈ tablesOf "" root template)
    (hval : ∀ e ∈ T.entries, ∀ {w type}, e.2.alike w → typeOf C e.1 w = some type →
      Conforms structs e.2 type) : HasStruct C optionalKeys structs T := by
  obtain ⟨item, hget, hname, T', hT', hkey, hitem⟩ := exists_get hgrow (hvisit T hT)
  have hshare : CanShare optionalKeys T T' :=
    (hcomp.share T hT T' (visited_subset hT') (by rw [hkey])).2
  have hfields : HasFields optionalKeys (fun e f => f.name = e.1 ∧ Conforms structs e.2 f.type)
      T item.fields := by
    refine forall₂_trans hshare hitem.fields ?_
    rintro e he e' f ⟨hkey, hopt, halike⟩ ⟨hfopt, hfname, hftype⟩
    rw [← hkey, hcomp.names T hT e he] at hfname
    exact ⟨hfopt.trans hopt.symm, (Except.ok.inj hfname).symm, hval e he halike (hkey ▸ hftype)⟩
  refine ⟨item, hname, ⟨T.key, hget, rfl, ?_⟩, hfields, ?_⟩
  · intro k item' hget' hname'
    obtain ⟨T'', hT'', hkey', hitem'⟩ := exists_isItemOf hgrow hget'
    rw [← hkey']
    refine (hcomp.share T'' (visited_subset hT'') T hT ?_).1
    rw [hitem'.name, hname, hname']
  · rintro ⟨f, hf, hopt⟩
    obtain ⟨e, he, hfopt, -⟩ := hfields.exists_entry hf
    exact not_isGenerated_of_uses hgrow hcomp hT
      (mem_uses.mpr ⟨e, he, .inl ⟨hfopt.symm.trans hopt, rfl⟩⟩)

/-- A value conforms to the type of a value it is alike to. -/
theorem conforms_of_alike {pre key : String} {v w : Value} {type : Ty} (halike : v.alike w)
    (htype : typeOf C key w = some type) (hv : tablesOf pre key v ⊆ tablesOf "" root template)
    (hfree : ∀ n ∈ builtins v, ¬ IsGenerated structs n) : Conforms structs v type := by
  induction v generalizing pre key w type with
  | string | integer | float | boolean | datetime =>
      cases w <;> cases halike <;> cases htype <;>
      exact .leaf rfl (hfree _ (List.mem_singleton.mpr rfl))
  | array elems ih =>
      cases w with
      | array ws =>
          cases ws with
          | nil => cases htype
          | cons first rest =>
              rw [typeOf, Option.map_eq_some_iff] at htype
              obtain ⟨elemType, htype, rfl⟩ := htype
              refine .array (hfree _ (mem_builtins_array.mpr (.inl rfl))) fun v hmem => ?_
              exact ih v hmem (Value.alike_array.mp halike v hmem first List.mem_cons_self) htype
                (fun T hT => hv (mem_tablesOf_array.mpr ⟨v, hmem, hT⟩))
                fun n hn => hfree n (mem_builtins_array.mpr (.inr ⟨v, hmem, hn⟩))
      | _ => cases halike
  | table entries ih =>
      cases w with
      | table entries' =>
          rw [typeOf, Option.map_eq_some_iff] at htype
          obtain ⟨n, hn, rfl⟩ := htype
          have hself : ⟨newPrefix pre key, key, entries⟩ ∈ tablesOf "" root template :=
            hv (mem_tablesOf_table.mpr (.inl rfl))
          refine (hasStruct_of_values hgrow hcomp hvisit hself ?_).conforms (toOption_eq_some.mp hn)
          intro e he w type halike htype
          exact ih e he halike htype (tablesOf_subset hself e he) fun n hn =>
            not_isGenerated_of_uses hgrow hcomp hself (mem_uses.mpr ⟨e, he, .inr hn⟩)
      | _ => cases halike

theorem hasStruct_of_compatible {T : Table} (hT : T ∈ tablesOf "" root template) :
    HasStruct C optionalKeys structs T := by
  refine hasStruct_of_values hgrow hcomp hvisit hT fun e he {w type} halike htype => ?_
  exact conforms_of_alike hgrow hcomp hvisit halike htype (tablesOf_subset hT e he) fun n hn =>
    not_isGenerated_of_uses hgrow hcomp hT (mem_uses.mpr ⟨e, he, .inr hn⟩)

end Sufficient

section Necessary

variable {root : String} {template : Value}
  (hstruct : ∀ T ∈ tablesOf "" root template, HasStruct C optionalKeys structs T)

include hstruct

/-- Tables with one name share a struct. -/
theorem canShare_of_hasStruct {T T' : Table} (hT : T ∈ tablesOf "" root template)
    (hT' : T' ∈ tablesOf "" root template) (hname : structIdent C T.key = structIdent C T'.key) :
    CanShare optionalKeys T T' := by
  obtain ⟨item, hitem, hden, hfields, -⟩ := hstruct T hT
  obtain ⟨item', hitem', hden', hfields', -⟩ := hstruct T' hT'
  rw [hname, hitem', Except.ok.injEq] at hitem
  rw [← hitem] at hden
  rw [hden.unique hden'] at hfields
  refine forall₂_trans hfields (List.Forall₂.flip (R := flip _) hfields') ?_
  rintro e - f e' ⟨hopt, hfname, hconf⟩ ⟨hopt', hfname', hconf'⟩
  exact ⟨hfname.symm.trans hfname', hopt.symm.trans hopt', hconf.alike hconf'⟩

variable (hgrow : Grows C optionalKeys (visited "" root template) ∅ structs)
  (hvisit : ∀ T ∈ tablesOf "" root template, ∃ T' ∈ visited "" root template, T'.key = T.key)

include hgrow hvisit

/-- A struct of its own has the keys of a table for its fields' names, and these are what
    was made of the keys of the table it was generated for. -/
theorem names_of_hasStruct {T : Table} (hT : T ∈ tablesOf "" root template) :
    ∀ e ∈ T.entries, C.formatIdent e.1 = .ok e.1 := by
  intro e he
  obtain ⟨item, hget, hname, T', hT', hkey, hitem⟩ := exists_get hgrow (hvisit T hT)
  obtain ⟨own, hown, hden, hfields, -⟩ := hstruct T' (visited_subset hT')
  rw [hkey, hname, Except.ok.injEq] at hown
  rw [hden.eq_of_get hget hown] at hitem
  obtain ⟨e', he', hkey', -⟩ := exists_mem_of_forall₂
    (canShare_of_hasStruct hstruct hT (visited_subset hT') (by rw [hkey])) e he
  have hboth : HasFields optionalKeys (fun e f => f.name = e.1 ∧ C.formatIdent e.1 = .ok f.name)
      T' own.fields :=
    List.Forall₂.mp (fun _ _ h h' => ⟨h.1, h.2.1, h'.2.1⟩) hfields hitem.fields
  obtain ⟨f, -, -, hfname, hident⟩ := exists_mem_of_forall₂ hboth e' he'
  rw [hkey', hident, hfname]

theorem compatible_of_hasStruct : Compatible C optionalKeys (tablesOf "" root template) where
  names T hT := names_of_hasStruct hstruct hgrow hvisit hT
  share T hT T' hT' hname := by
    refine ⟨?_, canShare_of_hasStruct hstruct hT hT' hname⟩
    obtain ⟨item, hget, hitem, -⟩ := exists_get hgrow (hvisit T hT)
    obtain ⟨item', hget', hitem', -⟩ := exists_get hgrow (hvisit T' hT')
    obtain ⟨own, hown, ⟨k, -, -, hone⟩, -⟩ := hstruct T hT
    have hnames : item.name = own.name := Except.ok.inj (hitem.symm.trans hown)
    have hnames' : item'.name = own.name :=
      Except.ok.inj (hitem'.symm.trans (hname.symm.trans hown))
    rw [hone _ item hget hnames, hone _ item' hget' hnames']
  builtin T hT T' hT' n hn hname := by
    obtain ⟨item, hget, hitem, -⟩ := exists_get hgrow (hvisit T hT)
    have hgen : IsGenerated structs n :=
      ⟨T.key, item, hget, Except.ok.inj (hitem.symm.trans hname)⟩
    obtain ⟨item', -, -, hfields, hopt⟩ := hstruct T' hT'
    obtain ⟨e, he, huse⟩ := mem_uses.mp hn
    obtain ⟨f, hf, hfopt, -, hconf⟩ := exists_mem_of_forall₂ hfields e he
    rcases huse with ⟨hmark, rfl⟩ | hbuiltin
    · exact hopt ⟨f, hf, hfopt.trans hmark⟩ hgen
    · exact hconf.builtins _ hbuiltin hgen

end Necessary

section Main

/-- The structs that were made for the tables visited describe the template exactly if
    its tables are compatible. -/
theorem describes_iff {root : String} {entries : List (String × Value)}
    (hroot : structIdent C root = .ok n)
    (hgrow : Grows C optionalKeys (visited "" root (.table entries)) ∅ structs) :
    Describes C optionalKeys structs root (.table entries) ↔
      Compatible C optionalKeys (tablesOf "" root (.table entries)) := by
  have htyped : typeOf C root (.table entries) = some (.name n) := by
    rw [typeOf, toOption_eq_some.mpr hroot, Option.map_some]
  -- The template is visited from its root, so the keys of all tables are.
  have hvisit : (∀ T ∈ tablesOf "" root (.table entries), ∀ T' ∈ tablesOf "" root (.table entries),
      T.key = T'.key → CanShare optionalKeys T T') → ∀ T ∈ tablesOf "" root (.table entries),
        ∃ T' ∈ visited "" root (.table entries), T'.key = T.key := fun hshare =>
    exists_visited hgrow hshare (w := .table entries) rfl (Option.isSome_of_eq_some htyped)
      (List.Subset.refl _) (List.Subset.refl _)
  constructor
  · intro h
    refine compatible_of_hasStruct h.tables hgrow (hvisit fun T hT T' hT' hkey => ?_)
    exact canShare_of_hasStruct h.tables hT hT' (by rw [hkey])
  · intro h
    have hstruct : ∀ T ∈ tablesOf "" root (.table entries), HasStruct C optionalKeys structs T :=
      fun T hT => hasStruct_of_compatible hgrow h
        (hvisit fun T hT T' hT' hkey => (h.share T hT T' hT' (by rw [hkey])).2) hT
    exact ⟨hstruct, n, hroot, (hstruct _ (mem_tablesOf_table.mpr (.inl rfl))).conforms hroot⟩

/-- What the macro generates describes the template exactly if the tables of the template
    are compatible. -/
theorem toml_file_to_struct_describes_iff {stem tomlStr : String} {template : Value} {out : Output}
    (hparse : C.fromStr tomlStr = .ok template) (h : tomlFileToStruct C stem tomlStr = .ok out) :
    Describes C (extractOptionalKeys (C.toUpperCamelCase stem) tomlStr) out.structs
        (C.toUpperCamelCase stem) template ↔
      Compatible C (extractOptionalKeys (C.toUpperCamelCase stem) tomlStr)
        (tablesOf "" (C.toUpperCamelCase stem) template) := by
  obtain ⟨⟨entries, rfl⟩, ⟨n, hroot⟩, hgrow⟩ := tomlFileToStruct_spec hparse h
  exact describes_iff hroot hgrow

end Main

section Samples

/-- The other crates on names that are one word, and on one text. -/
def wordCrates (text : String) (template : Value) : Crates where
  toUpperCamelCase s :=
    match s.toList with
    | [] => ""
    | c :: cs => String.ofList (c.toUpper :: cs)
  toSnakeCase s := String.ofList (s.toList.map Char.toLower)
  formatIdent s :=
    if s ≠ "" ∧ s.toList.all fun c => c.isAlpha || c == '_' then .ok s
    else .error (s ++ " is not a valid Ident")
  fromStr s := if s = text then .ok template else .error "another text"

def sharedText : String :=
  "#:Opt:# name\nname = \"n\"\nports = [1, 2]\n[a.x]\np = 1\n[b.x]\np = 2\n"

def sharedTemplate : Value := .table
  [("a", .table [("x", .table [("p", .integer 1)])]),
    ("b", .table [("x", .table [("p", .integer 2)])]),
    ("name", .string "n"),
    ("ports", .array [.integer 1, .integer 2])]

theorem toml_file_to_struct_describes_shared :
    ∃ out, tomlFileToStruct (wordCrates sharedText sharedTemplate) "config" sharedText = .ok out ∧
      Describes (wordCrates sharedText sharedTemplate) ["Config.name"] out.structs "Config"
        sharedTemplate := by
  have hparse : (wordCrates sharedText sharedTemplate).fromStr sharedText = .ok sharedTemplate :=
    rfl
  have hout : tomlFileToStruct (wordCrates sharedText sharedTemplate) "config" sharedText =
      .ok _ := rfl
  exact ⟨_, hout, (toml_file_to_struct_describes_iff hparse hout).mpr (by decide)⟩

def mixedText : String := "[a.x]\np = 1\n[b.x]\nq = \"s\"\n"

def mixedTemplate : Value := .table
  [("a", .table [("x", .table [("p", .integer 1)])]),
    ("b", .table [("x", .table [("q", .string "s")])])]

/-- The table `b.x` is visited last, and its struct takes the place of that of `a.x`. -/
theorem toml_file_to_struct_overwrites :
    ¬ ∀ (C : Crates) (stem tomlStr : String) (template : Value) (out : Output),
      C.fromStr tomlStr = .ok template → tomlFileToStruct C stem tomlStr = .ok out →
        Describes C (extractOptionalKeys (C.toUpperCamelCase stem) tomlStr) out.structs
          (C.toUpperCamelCase stem) template := by
  intro h
  have hparse : (wordCrates mixedText mixedTemplate).fromStr mixedText = .ok mixedTemplate := rfl
  have hout : tomlFileToStruct (wordCrates mixedText mixedTemplate) "config" mixedText =
      .ok _ := rfl
  obtain ⟨-, ⟨n, hroot⟩, hgrow⟩ := tomlFileToStruct_spec hparse hout
  exact absurd ((describes_iff hroot hgrow).mp (h _ _ _ _ _ hparse hout)) (by decide)

end Samples

end ProcMacros

end Ssam
