import Mathlib.Data.List.Forall2
import Ssam.Lib.Error
import Ssam.Lib.HashMap
import Ssam.Lib.TomlValue
import Ssam.ProcMacros.Template

/-!
# Generated Configuration Types

The types of a configuration are generated from its template: a struct for every
table, with a field for every key. The struct of a nested table is made where the
type of its field is determined, and all structs are collected in one map. The map
is keyed by the bare key of a table, so a struct takes the place of one that was
made for another table with that key.

What is optional is told by the path of a key from the root.

## Main definitions

* `Crates`: The crates the generator is written with.
* `StructItem`: A generated struct.
* `determineType`, `generateFields`, `traverseToml`: The generator.
* `tomlFileToStruct`: What the macro makes of a template.
* `visited`: The tables a struct is made for.
* `Grows`: What the map of structs becomes when some tables are visited.

## Theorems

* `determineType_table`: The type of a nested table is determined by traversing it.
* `determineType_spec`: The type of a value, and the structs that are made with it.
* `tomlFileToStruct_spec`: Where the structs of a template come from.
-/

namespace Ssam

namespace ProcMacros

open Lib Lib.Toml

/-- What the generator takes from other crates. -/
structure Crates where
  /-- `heck` on names. -/
  toUpperCamelCase : String → String
  toSnakeCase : String → String
  /-- `format_ident!` of a text: the name of the identifier, or the panic if it is none. -/
  formatIdent : String → Except String String
  /-- `toml::from_str`, with the message of its error. -/
  fromStr : String → Except String Value

/-- A type, as the generated tokens name it. -/
inductive Ty where
  | name (ident : String)
  | vec (elem : Ty)
  deriving DecidableEq

/-- A field of a struct. The tokens of its type are `Option<type>` where it is
    optional. -/
structure Field where
  name : String
  type : Ty
  isOptional : Bool
  deriving DecidableEq

/-- What a getter returns: the field with `as_ref()`, a reference to it in `Some`, or
    the reference. -/
inductive GetterBody where
  | asRef | someRef | ref
  deriving DecidableEq

/-- A getter of the root struct. The fields it goes through are those from `self`
    on, each with whether `as_ref()?` follows it. -/
structure Getter where
  name : String
  access : List (String × Bool)
  returnType : Ty
  body : GetterBody
  deriving DecidableEq

/-- A generated struct, and its implementation block if it has one. -/
structure StructItem where
  name : String
  fields : List Field
  proxyGetters : Option (List Getter)
  deriving DecidableEq

abbrev TomlStructMap := HashMap String StructItem

def validateArrayHasSameType : List Value → Bool
  | [] => true
  | first :: rest => (first :: rest).all fun x => x.kind = first.kind

/-- The prefix below a table. -/
def newPrefix (pre name : String) : String := if pre.isEmpty then name else pre ++ "." ++ name

variable (C : Crates)

/-- The name of the struct that is made for a key. -/
def structIdent (key : String) : Except String String := C.formatIdent (C.toUpperCamelCase key)

def generateStruct (name : String) (fields : List Field) (proxyGetters : Option (List Getter)) :
    Except String StructItem := do
  let structName ← structIdent C name
  return ⟨structName, fields, proxyGetters⟩

mutual

def determineType (optionalKeys : List String) (structs : TomlStructMap) (key pre : String) :
    Value → Except String (Ty × TomlStructMap)
  | .string _ => .ok (.name "String", structs)
  | .integer _ => .ok (.name "i64", structs)
  | .boolean _ => .ok (.name "bool", structs)
  | .array [] => .error "Array must have at least one element"
  | .array (first :: rest) =>
      if validateArrayHasSameType (first :: rest) then do
        let (valueType, structs) ← determineType optionalKeys structs key pre first
        return (.vec valueType, structs)
      else .error "All array elements must have the same type"
  -- A table is traversed. Its prefix is not empty, so it is not the root and gets no getters.
  | .table entries => do
      let structName ← structIdent C key
      let (fields, structs) ← generateFields optionalKeys structs (newPrefix pre key) entries
      let itemStruct ← generateStruct C key fields none
      return (.name structName, structs.insert key itemStruct)
  | _ => .error "Unsupported TOML type"

def generateFields (optionalKeys : List String) (structs : TomlStructMap) (pre : String) :
    List (String × Value) → Except String (List Field × TomlStructMap)
  | [] => .ok ([], structs)
  | (key, val) :: rest => do
      let fieldName ← C.formatIdent key
      let (fieldType, structs) ← determineType optionalKeys structs key pre val
      let (fields, structs) ← generateFields optionalKeys structs pre rest
      return (⟨fieldName, fieldType, optionalKeys.contains (pre ++ "." ++ key)⟩ :: fields, structs)

end

def determineLeafType (optionalKeys : List String) (val : Value) (fieldPath : List String)
    (pre : String) : Except String Ty := do
  let (type, _) ← determineType C optionalKeys ∅ (fieldPath.getLastD "") pre val
  return type

def createGetterName (fieldPath : List String) : Except String String :=
  C.formatIdent ("get_" ++ "_".intercalate (fieldPath.map C.toSnakeCase))

def leafGetter (optionalKeys : List String) (val : Value) (fieldPath fieldIdents : List String)
    (pre : String) : Except String Getter := do
  let getterName ← createGetterName C fieldPath
  let returnType ← determineLeafType C optionalKeys val fieldPath pre
  let last := fieldIdents.length - 1
  let tree (i : Nat) := pre ++ ".".intercalate (fieldPath.take i)
  let access := fieldIdents.mapIdx fun i ident =>
    (ident, i < last && optionalKeys.contains (tree (i + 1)))
  let body :=
    if optionalKeys.contains (tree fieldPath.length) then .asRef
    else if access.any (·.2) then .someRef
    else .ref
  return ⟨getterName, access, returnType, body⟩

mutual

def addProxyGetters (optionalKeys fieldPath fieldIdents : List String) (pre : String) :
    Value → Except String (List Getter)
  | .table entries => addTableGetters optionalKeys fieldPath fieldIdents pre entries
  | val =>
      if fieldPath.isEmpty || fieldIdents.isEmpty then .ok []
      else do return [← leafGetter C optionalKeys val fieldPath fieldIdents pre]

def addTableGetters (optionalKeys fieldPath fieldIdents : List String) (pre : String) :
    List (String × Value) → Except String (List Getter)
  | [] => .ok []
  | (k, v) :: rest => do
      let ident ← C.formatIdent k
      let getters ← addProxyGetters optionalKeys (fieldPath ++ [k]) (fieldIdents ++ [ident]) pre v
      let more ← addTableGetters optionalKeys fieldPath fieldIdents pre rest
      return getters ++ more

end

def generateProxyGetters (optionalKeys : List String) (newPre : String)
    (table : List (String × Value)) : Except String (List Getter) :=
  addTableGetters C optionalKeys [] [] (newPre ++ ".") table

def traverseToml (value : Value) (name : String) (structs : TomlStructMap)
    (optionalKeys : List String) (pre : String) : Except String TomlStructMap :=
  match value with
  | .table table => do
      let (fields, structs) ← generateFields C optionalKeys structs (newPrefix pre name) table
      let proxyGetters ← (if pre.isEmpty then
        (generateProxyGetters C optionalKeys (newPrefix pre name) table).map some else .ok none)
      let itemStruct ← generateStruct C name fields proxyGetters
      return structs.insert name itemStruct
  | _ => .error "Root value must be a table"

structure Output where
  structs : TomlStructMap
  printIdent : String
  printed : String

def tomlFileToStruct (stem tomlStr : String) : Except String Output := do
  let rootStructName := C.toUpperCamelCase stem
  let optionalKeys := extractOptionalKeys rootStructName tomlStr
  let parsedToml ← (C.fromStr tomlStr).mapError ("Invalid TOML: " ++ ·)
  let structs ← traverseToml C parsedToml rootStructName ∅ optionalKeys ""
  let printIdent ← C.formatIdent ("print_" ++ C.toSnakeCase rootStructName)
  return ⟨structs, printIdent, replaceOptionalComment tomlStr⟩

/-- The type of a nested table is determined by traversing it. Only where the name of the
    root is empty has a nested table an empty prefix. -/
theorem determineType_table {optionalKeys : List String} {structs : TomlStructMap}
    {key pre : String} {entries : List (String × Value)} (hpre : pre ≠ "") :
    determineType C optionalKeys structs key pre (.table entries) = (do
      let structName ← structIdent C key
      let structs ← traverseToml C (.table entries) key structs optionalKeys pre
      return (.name structName, structs)) := by
  have hempty : pre.isEmpty = false := by simpa using hpre
  simp only [determineType, traverseToml, hempty, Bool.false_eq_true, if_false, bind_assoc,
    pure_bind]
  rfl

section Spec

/-- A table of a template: the path it stands at, the key it stands under there, and what
    it holds. -/
structure Table where
  path : String
  key : String
  entries : List (String × Value)

mutual

/-- The tables a value is traversed through: of an array it is the first element. -/
def visited (pre key : String) : Value → List Table
  | .array (first :: _) => visited pre key first
  | .table entries =>
      ⟨newPrefix pre key, key, entries⟩ :: visitedEntries (newPrefix pre key) entries
  | _ => []

def visitedEntries (pre : String) : List (String × Value) → List Table
  | [] => []
  | (key, val) :: entries => visited pre key val ++ visitedEntries pre entries

end

/-- The built-in type of a value without parts. -/
def leafType : Value → Option String
  | .string _ => some "String"
  | .integer _ => some "i64"
  | .boolean _ => some "bool"
  | _ => none

/-- The type a value is given. -/
def typeOf (key : String) : Value → Option Ty
  | .array (first :: _) => (typeOf key first).map .vec
  | .table _ => (structIdent C key).toOption.map .name
  | val => (leafType val).map .name

/-- The key of the table is one of the optional keys. -/
def Table.isOptional (optionalKeys : List String) (T : Table) (key : String) : Bool :=
  optionalKeys.contains (T.path ++ "." ++ key)

/-- The fields are the entries of the table, one by one: optional where they are marked,
    and right for the entry. -/
def HasFields (optionalKeys : List String) (right : String × Value → Field → Prop) (T : Table)
    (fields : List Field) : Prop :=
  List.Forall₂ (fun e f => f.isOptional = T.isOptional optionalKeys e.1 ∧ right e f)
    T.entries fields

/-- The field is one that is generated for the entry. -/
def IsFieldOf (e : String × Value) (f : Field) : Prop :=
  C.formatIdent e.1 = .ok f.name ∧ typeOf C e.1 e.2 = some f.type

/-- The item is one that is generated for the table. -/
structure IsItemOf (optionalKeys : List String) (T : Table) (item : StructItem) : Prop where
  name : structIdent C T.key = .ok item.name
  fields : HasFields optionalKeys (IsFieldOf C) T item.fields

/-- What the map of structs becomes when some tables are visited. -/
structure Grows (optionalKeys : List String) (l : List Table) (structs structs' : TomlStructMap) :
    Prop where
  /-- What is new was made for one of them. -/
  origin : ∀ {k item}, structs'.get k = some item →
    structs.get k = some item ∨ ∃ T ∈ l, T.key = k ∧ IsItemOf C optionalKeys T item
  keeps : ∀ {k}, (structs.get k).isSome → (structs'.get k).isSome
  visits : ∀ T ∈ l, (structs'.get T.key).isSome
  /-- Their values are given types. -/
  typed : ∀ T ∈ l, ∀ e ∈ T.entries, (typeOf C e.1 e.2).isSome

end Spec

variable {C}

section Generation

theorem generateStruct_eq_ok {name : String} {fields : List Field} {getters : Option (List Getter)}
    {item : StructItem} (h : generateStruct C name fields getters = .ok item) :
    structIdent C name = .ok item.name ∧ item.fields = fields := by
  rw [generateStruct, except_bind_eq_ok] at h
  rcases h with ⟨structName, hname, hitem⟩
  rw [← Except.ok.inj hitem]
  exact ⟨hname, rfl⟩

variable {optionalKeys : List String} {structs structs' structs'' : TomlStructMap}
  {pre key : String} {l l' : List Table}

theorem HasFields.typed {T : Table} {fields : List Field}
    (h : HasFields optionalKeys (IsFieldOf C) T fields) :
    ∀ e ∈ T.entries, (typeOf C e.1 e.2).isSome := by
  intro e he
  rcases exists_mem_of_forall₂ h e he with ⟨f, -, -, -, htype⟩
  exact Option.isSome_of_eq_some htype

theorem Grows.refl (structs : TomlStructMap) : Grows C optionalKeys [] structs structs where
  origin h := .inl h
  keeps h := h
  visits _ h := absurd h List.not_mem_nil
  typed _ h := absurd h List.not_mem_nil

theorem Grows.trans (h : Grows C optionalKeys l structs structs')
    (h' : Grows C optionalKeys l' structs' structs'') :
    Grows C optionalKeys (l ++ l') structs structs'' where
  origin hget := by
    rcases h'.origin hget with hget | ⟨T, hT, hitem⟩
    · rcases h.origin hget with hget | ⟨T, hT, hitem⟩
      · exact .inl hget
      · exact .inr ⟨T, List.mem_append_left _ hT, hitem⟩
    · exact .inr ⟨T, List.mem_append_right _ hT, hitem⟩
  keeps hk := h'.keeps (h.keeps hk)
  visits T hT := (List.mem_append.mp hT).elim (fun hT => h'.keeps (h.visits T hT)) (h'.visits T)
  typed T hT := (List.mem_append.mp hT).elim (h.typed T) (h'.typed T)

theorem Grows.insert {T : Table} {item : StructItem} (h : Grows C optionalKeys l structs structs')
    (hitem : IsItemOf C optionalKeys T item) :
    Grows C optionalKeys (T :: l) structs (structs'.insert T.key item) where
  origin {k item'} hget := by
    rw [HashMap.get_insert] at hget
    split at hget
    · rw [← Option.some.inj hget]
      exact .inr ⟨T, List.mem_cons_self, Eq.symm ‹_›, hitem⟩
    · rcases h.origin hget with hget | ⟨T', hT', hitem'⟩
      · exact .inl hget
      · exact .inr ⟨T', List.mem_cons_of_mem T hT', hitem'⟩
  keeps {k} hk := by
    rw [HashMap.get_insert]
    split
    · rfl
    · exact h.keeps hk
  visits T' hT' := by
    rw [HashMap.get_insert]
    split
    · rfl
    · rcases List.mem_cons.mp hT' with rfl | hT'
      · exact absurd rfl ‹_›
      · exact h.visits T' hT'
  typed T' hT' := by
    rcases List.mem_cons.mp hT' with rfl | hT'
    · exact hitem.fields.typed
    · exact h.typed T' hT'

/-- Where the values are given their types, the fields are those of the table. -/
theorem generateFields_spec (key : String) {entries : List (String × Value)} {fields : List Field}
    (hval : ∀ e ∈ entries, ∀ {structs structs' key type},
      determineType C optionalKeys structs key pre e.2 = .ok (type, structs') →
        typeOf C key e.2 = some type ∧ Grows C optionalKeys (visited pre key e.2) structs structs')
    (h : generateFields C optionalKeys structs pre entries = .ok (fields, structs')) :
    HasFields optionalKeys (IsFieldOf C) ⟨pre, key, entries⟩ fields ∧
      Grows C optionalKeys (visitedEntries pre entries) structs structs' := by
  induction entries generalizing fields structs with
  | nil =>
      rw [generateFields] at h
      cases h
      exact ⟨.nil, Grows.refl structs'⟩
  | cons e entries ih =>
      rcases e with ⟨key', val⟩
      rw [generateFields, except_bind_eq_ok] at h
      rcases h with ⟨name, hname, h⟩
      rw [except_bind_eq_ok] at h
      rcases h with ⟨⟨type, mid⟩, htype, h⟩
      rw [except_bind_eq_ok] at h
      rcases h with ⟨⟨rest, last⟩, hrest, h⟩
      cases h
      obtain ⟨htype, hgrow⟩ := hval _ List.mem_cons_self htype
      obtain ⟨hfields, hgrow'⟩ := ih (fun e he => hval e (List.mem_cons_of_mem _ he)) hrest
      exact ⟨.cons ⟨rfl, hname, htype⟩ hfields, hgrow.trans hgrow'⟩

theorem determineType_spec {val : Value} {type : Ty}
    (h : determineType C optionalKeys structs key pre val = .ok (type, structs')) :
    typeOf C key val = some type ∧ Grows C optionalKeys (visited pre key val) structs structs' := by
  induction val generalizing structs structs' key pre type with
  | string s | integer n | boolean b =>
      rw [determineType] at h
      cases h
      exact ⟨rfl, Grows.refl structs⟩
  | float l | datetime l =>
      cases h
  | array elems ih =>
      cases elems with
      | nil => cases h
      | cons first rest =>
          rw [determineType] at h
          split at h
          · rw [except_bind_eq_ok] at h
            rcases h with ⟨⟨elemType, mid⟩, helem, h⟩
            cases h
            obtain ⟨htype, hgrow⟩ := ih first List.mem_cons_self helem
            exact ⟨by rw [typeOf, htype, Option.map_some], hgrow⟩
          · cases h
  | table entries ih =>
      rw [determineType, except_bind_eq_ok] at h
      rcases h with ⟨name, hname, h⟩
      rw [except_bind_eq_ok] at h
      rcases h with ⟨⟨fields, mid⟩, hfields, h⟩
      rw [except_bind_eq_ok] at h
      rcases h with ⟨item, hitem, h⟩
      cases h
      obtain ⟨hhas, hgrow⟩ := generateFields_spec key (fun e he => ih e he) hfields
      obtain ⟨hitemName, hitemFields⟩ := generateStruct_eq_ok hitem
      refine ⟨by rw [typeOf, hname, Except.toOption, Option.map_some], ?_⟩
      exact hgrow.insert (T := ⟨newPrefix pre key, key, entries⟩) ⟨hitemName, hitemFields ▸ hhas⟩

/-- A table is traversed through the tables it holds, and its own struct comes last. -/
theorem traverseToml_spec {val : Value}
    (h : traverseToml C val key structs optionalKeys pre = .ok structs') :
    (∃ entries, val = .table entries) ∧ (∃ n, structIdent C key = .ok n) ∧
      Grows C optionalKeys (visited pre key val) structs structs' := by
  unfold traverseToml at h
  split at h
  · rename_i entries
    rw [except_bind_eq_ok] at h
    rcases h with ⟨⟨fields, mid⟩, hfields, h⟩
    rw [except_bind_eq_ok] at h
    rcases h with ⟨getters, -, h⟩
    rw [except_bind_eq_ok] at h
    rcases h with ⟨item, hitem, h⟩
    cases h
    rcases generateFields_spec key (fun _ _ => determineType_spec) hfields with ⟨hhas, hgrow⟩
    rcases generateStruct_eq_ok hitem with ⟨hname, hitemFields⟩
    refine ⟨⟨entries, rfl⟩, ⟨item.name, hname⟩, ?_⟩
    exact hgrow.insert (T := ⟨newPrefix pre key, key, entries⟩) ⟨hname, hitemFields ▸ hhas⟩
  · cases h

/-- The root is a table, and the structs are those of the tables visited from it. -/
theorem tomlFileToStruct_spec {stem tomlStr : String} {out : Output} {template : Value}
    (hparse : C.fromStr tomlStr = .ok template)
    (h : tomlFileToStruct C stem tomlStr = .ok out) :
    (∃ entries, template = .table entries) ∧
      (∃ n, structIdent C (C.toUpperCamelCase stem) = .ok n) ∧
      Grows C (extractOptionalKeys (C.toUpperCamelCase stem) tomlStr)
        (visited "" (C.toUpperCamelCase stem) template) ∅ out.structs := by
  rw [tomlFileToStruct, hparse, except_bind_eq_ok] at h
  rcases h with ⟨parsed, hparsed, h⟩
  cases hparsed
  rw [except_bind_eq_ok] at h
  rcases h with ⟨structs, hstructs, h⟩
  rw [except_bind_eq_ok] at h
  rcases h with ⟨printIdent, -, h⟩
  cases h
  exact traverseToml_spec hstructs

end Generation

end ProcMacros

end Ssam
