import Mathlib.Data.List.MinMax
import Ssam.Lib.Utf8
import Ssam.Mount.Stack

/-!
# Is Anything Mounted Here

How the daemon learns from the mount table whether something is mounted exactly at a
directory. Of all the mount points that the directory lies below, it takes one whose path
is the longest, and compares it with the directory.

All paths are compared as they are resolved, or as they stand where they cannot be. A
resolved path spells every name once, and so do the paths of the mount table. A mount
point above another one is therefore shorter, so that none of them can be taken in
its place.

## Main definitions

* `NormalPath`: A path that spells every name once.
* `MountHost`: What the host answers about directories and mounts.
* `findmntImpl`: The mount point of a directory.
* `isExactMount`: Something is mounted exactly there.

## Theorems

* `components_text`: The components of a normal path are its names.
* `byteLen_text_lt`: A mount point above another one is shorter.
* `findmntImpl_eq_ok`: What is found.
* `is_exact_mount_iff`: The directory is a mount point of the table.
* `serve_isExactMount`: The answers that the layers at a mount point are told by.
-/

namespace Ssam

namespace Mount

open Lib Lib.Utf8

/-- A name of a directory, as a path spells it. -/
structure PathName where
  chars : List Char
  ne_nil : chars ≠ []
  slash_notMem : '/' ∉ chars
  ne_dot : chars ≠ ['.']
  ne_dotdot : chars ≠ ['.', '.']

def PathName.text (name : PathName) : String := String.ofList name.chars

/-- An absolute path that has no part but its names, each behind one slash. -/
structure NormalPath where
  names : List PathName

/-- The names with their slashes. -/
def slashed (names : List PathName) : List Char := names.flatMap fun name => '/' :: name.chars

def NormalPath.text (p : NormalPath) : String :=
  if p.names.isEmpty then "/" else String.ofList (slashed p.names)

/-- What the host answers when it is asked about directories and mounts. The kernel lists
    normal paths, and resolving a path makes one. -/
structure MountHost where
  isDir : String → Bool
  canonicalize : String → Except Error NormalPath
  /-- The paths of the mount table, decoded. -/
  mounts : Except Error (List NormalPath)

variable (host : MountHost)

/-- The path as it is resolved, or as it stands if it cannot be. -/
def canonicalizeOrRaw (path : String) : String :=
  match host.canonicalize path with
  | .ok resolved => resolved.text
  | .error _ => path

/-- An element with the greatest key, and of several the last. -/
def maxByKey {α : Type} (key : α → Nat) (l : List α) : Option α := l.reverse.argmax key

/-- The mount points the target is at or below, each with the length of its path. -/
def matchingMounts (canonicalTarget : String) (mounts : List NormalPath) : List (String × Nat) :=
  mounts.filterMap fun mountInfo =>
    let canonicalMount := canonicalizeOrRaw host mountInfo.text
    if (components canonicalMount).isPrefixOf (components canonicalTarget) then
      some (mountInfo.text, byteLen canonicalMount.toList)
    else none

def noMatchingMount (target : String) : Error :=
  [s!"No matching mount point found. Ensure that the {target} is mounted correctly."]

def findmntImpl (target : String) : Except Error String := do
  ensure (host.isDir target) s!"directory '{target}' does not exist or is not a directory."
  let mounts ← context
    "Failed to read system mounts. Ensure /proc is accessible and correctly formatted." host.mounts
  match maxByKey Prod.snd (matchingMounts host (canonicalizeOrRaw host target) mounts) with
  | some (found, _) => .ok found
  | none => .error (noMatchingMount target)

/-- Something is mounted exactly at the path. A failure to find out is a no. -/
def isExactMount (mountPoint : String) : Bool :=
  match findmntImpl host mountPoint with
  | .ok found =>
      components (canonicalizeOrRaw host found) = components (canonicalizeOrRaw host mountPoint)
  | .error _ => false

/-- A look at the mount table does not fail. -/
def canLookUp (target : String) : Bool := host.isDir target && host.mounts.toOption.isSome

/-- The path of the table is the target, when both are resolved. -/
def SameMount (target : String) (m : NormalPath) : Prop :=
  components (canonicalizeOrRaw host m.text) = components (canonicalizeOrRaw host target)

section Normal

variable {names : List PathName}

theorem PathName.text_ne (name : PathName) {s : List Char} (h : name.chars ≠ s) :
    name.text ≠ String.ofList s := fun heq =>
  h (by rw [← String.toList_ofList (l := name.chars), ← PathName.text, heq, String.toList_ofList])

theorem splitOn_slashed (first : PathName) (names : List PathName) :
    (first.chars ++ slashed names).splitOn '/' = first.chars :: names.map PathName.chars := by
  induction names generalizing first with
  | nil => rw [slashed, List.flatMap_nil, List.append_nil,
      List.splitOn_eq_singleton first.slash_notMem, List.map_nil]
  | cons name names ih =>
      have hcons : slashed (name :: names) = '/' :: (name.chars ++ slashed names) := rfl
      rw [hcons, List.splitOn_append_cons_self, List.splitOn_eq_singleton first.slash_notMem, ih,
        List.map_cons, List.singleton_append]

theorem segments_text (p : NormalPath) :
    (segments p.text).filter (fun segment => segment ≠ "" ∧ segment ≠ ".") =
      p.names.map PathName.text := by
  cases hnames : p.names with
  | nil =>
      rw [NormalPath.text, hnames]
      decide
  | cons first names =>
      have htext : p.text.toList = '/' :: (first.chars ++ slashed names) := by
        rw [NormalPath.text, hnames]
        exact String.toList_ofList
      have hsplit : p.text.toList.splitOn '/' =
          [] :: first.chars :: names.map PathName.chars := by
        rw [htext, ← splitOn_slashed]
        exact List.splitOn_append_cons_self [] _
      rw [segments, hsplit, ← List.map_cons, List.map_cons, List.map_map,
        List.filter_cons_of_neg (by decide), List.filter_eq_self.mpr]
      · rfl
      · intro segment hsegment
        rcases List.mem_map.mp hsegment with ⟨name, -, rfl⟩
        exact decide_eq_true ⟨name.text_ne name.ne_nil, name.text_ne name.ne_dot⟩

/-- The components of a normal path are its names. -/
theorem components_text (p : NormalPath) :
    components p.text = .rootDir :: p.names.map fun name => .normal name.text := by
  have habsolute : isAbsolute p.text = true := by
    cases hnames : p.names with
    | nil =>
        rw [NormalPath.text, hnames]
        decide
    | cons first names =>
        rw [isAbsolute, NormalPath.text, hnames, decide_eq_true_eq]
        exact congrArg List.head? String.toList_ofList
  rw [components, habsolute, if_pos rfl]
  rw [show (segments p.text).filter (fun segment => segment ≠ "" ∧ segment ≠ ".") = _ from
    segments_text p, List.map_map]
  refine congrArg (Component.rootDir :: ·) (List.map_congr_left fun name _ => ?_)
  exact if_neg (name.text_ne name.ne_dotdot)

theorem byteLen_text (p : NormalPath) :
    byteLen p.text.toList = max 1 (byteLen (slashed p.names)) := by
  cases hnames : p.names with
  | nil =>
      rw [NormalPath.text, hnames]
      rfl
  | cons first names =>
      have hpos : 1 ≤ byteLen (slashed (first :: names)) := Nat.le_add_right 1 _
      rw [NormalPath.text, hnames, Nat.max_eq_right hpos]
      exact congrArg byteLen String.toList_ofList

/-- A path with more names below another one is longer. -/
theorem byteLen_text_lt {p q : NormalPath} (h : components p.text <+: components q.text)
    (hne : components p.text ≠ components q.text) :
    byteLen p.text.toList < byteLen q.text.toList := by
  have hinj : Function.Injective fun chars : List Char =>
      Component.normal (String.ofList chars) := by
    intro s t hst
    exact String.ofList_injective (Component.normal.inj hst)
  have hcomponents : ∀ r : NormalPath, components r.text = .rootDir ::
      (r.names.map PathName.chars).map fun chars => .normal (String.ofList chars) := by
    intro r
    rw [components_text, List.map_map]
    rfl
  rw [hcomponents p, hcomponents q] at h hne
  rcases (List.prefix_map_iff_of_injective hinj).mp (List.cons_prefix_cons.mp h).2 with
    ⟨rest, hrest⟩
  have hslashed : ∀ r : NormalPath,
      slashed r.names = (r.names.map PathName.chars).flatMap fun chars => '/' :: chars := by
    intro r
    rw [List.flatMap_map]
    rfl
  cases rest with
  | nil => exact absurd (by rw [← hrest, List.append_nil]) hne
  | cons name rest =>
      -- The name that follows is not empty, and it has a slash before it.
      have hname : name ≠ [] := by
        have hmem : name ∈ q.names.map PathName.chars := hrest ▸ List.mem_append_right _ (.head _)
        rcases List.mem_map.mp hmem with ⟨n, -, rfl⟩
        exact n.ne_nil
      have hpos := mt byteLen_eq_zero.mp hname
      have hslash : ('/').utf8Size = 1 := rfl
      rw [byteLen_text, byteLen_text, hslashed q, ← hrest, List.flatMap_append, ← hslashed p,
        byteLen_append, List.flatMap_cons, List.cons_append, byteLen_cons, byteLen_append]
      omega

end Normal

section Lookup

variable {host : MountHost} {target : String} {mounts : List NormalPath}

theorem maxByKey_mem {α : Type} {key : α → Nat} {l : List α} {a : α}
    (h : maxByKey key l = some a) : a ∈ l := List.mem_reverse.mp (List.argmax_mem h)

theorem le_of_maxByKey {α : Type} {key : α → Nat} {l : List α} {a b : α}
    (h : maxByKey key l = some a) (hb : b ∈ l) : key b ≤ key a :=
  List.le_of_mem_argmax (List.mem_reverse.mpr hb) h

theorem maxByKey_eq_none {α : Type} {key : α → Nat} {l : List α} :
    maxByKey key l = none ↔ l = [] := by
  rw [maxByKey, List.argmax_eq_none, List.reverse_eq_nil_iff]

theorem mem_matchingMounts {canonicalTarget : String} {entry : String × Nat} :
    entry ∈ matchingMounts host canonicalTarget mounts ↔
      ∃ m ∈ mounts, components (canonicalizeOrRaw host m.text) <+: components canonicalTarget ∧
        entry = (m.text, byteLen (canonicalizeOrRaw host m.text).toList) := by
  rw [matchingMounts, List.mem_filterMap]
  refine exists_congr fun m => and_congr_right fun _ => ?_
  rw [← List.isPrefixOf_iff_prefix]
  dsimp only
  split
  · rename_i hbelow
    rw [hbelow, Option.some.injEq]
    exact ⟨fun h => ⟨rfl, h.symm⟩, fun h => h.2.symm⟩
  · rename_i hbelow
    simp [hbelow]

/-- What is found is a mount point of the table the target is at or below, and none of these
    has a longer path. -/
theorem findmntImpl_eq_ok {found : String} (h : findmntImpl host target = .ok found)
    (hmounts : host.mounts = .ok mounts) :
    ∃ m ∈ mounts, m.text = found ∧
      components (canonicalizeOrRaw host m.text) <+: components (canonicalizeOrRaw host target) ∧
      ∀ m' ∈ mounts, components (canonicalizeOrRaw host m'.text) <+:
          components (canonicalizeOrRaw host target) →
        byteLen (canonicalizeOrRaw host m'.text).toList ≤
          byteLen (canonicalizeOrRaw host m.text).toList := by
  rw [findmntImpl, hmounts, except_bind_eq_ok] at h
  rcases h with ⟨_, -, h⟩
  rw [except_bind_eq_ok] at h
  rcases h with ⟨mounts', hread, h⟩
  cases hread
  split at h
  · rename_i text len hmax
    cases h
    rcases mem_matchingMounts.mp (maxByKey_mem hmax) with ⟨m, hm, hbelow, heq⟩
    cases heq
    refine ⟨m, hm, rfl, hbelow, fun m' hm' hbelow' => ?_⟩
    have hle := le_of_maxByKey hmax (mem_matchingMounts.mpr ⟨m', hm', hbelow', rfl⟩)
    exact hle
  · cases h

/-- Where the target is at or below a mount point of the table, one is found. -/
theorem findmntImpl_isOk {m : NormalPath} (hdir : host.isDir target = true)
    (hmounts : host.mounts = .ok mounts) (hm : m ∈ mounts)
    (hbelow : components (canonicalizeOrRaw host m.text) <+:
      components (canonicalizeOrRaw host target)) :
    ∃ found, findmntImpl host target = .ok found := by
  have hcandidate := mem_matchingMounts.mpr ⟨m, hm, hbelow, rfl⟩
  cases hmax : maxByKey Prod.snd (matchingMounts host (canonicalizeOrRaw host target) mounts) with
  | none =>
      rw [maxByKey_eq_none.mp hmax] at hcandidate
      exact absurd hcandidate List.not_mem_nil
  | some entry =>
      refine ⟨entry.1, ?_⟩
      rw [findmntImpl, hdir, hmounts]
      simp only [ensure, context, if_true, bind, Except.bind, hmax]

/-- Resolved or not, a path of the table is a normal one. -/
theorem exists_canonicalizeOrRaw (host : MountHost) (m : NormalPath) :
    ∃ r : NormalPath, canonicalizeOrRaw host m.text = r.text := by
  unfold canonicalizeOrRaw
  split
  · exact ⟨_, rfl⟩
  · exact ⟨m, rfl⟩

/-- A directory is an exact mount where the table has a path that is the same when both are
    resolved, whatever else the table has. -/
theorem is_exact_mount_iff (hdir : host.isDir target = true) (hmounts : host.mounts = .ok mounts) :
    isExactMount host target = true ↔ ∃ m ∈ mounts, SameMount host target m := by
  unfold isExactMount
  constructor
  · intro h
    split at h
    · rename_i found hfound
      rcases findmntImpl_eq_ok hfound hmounts with ⟨m, hm, rfl, -⟩
      rw [decide_eq_true_eq] at h
      exact ⟨m, hm, h⟩
    · cases h
  · rintro ⟨m, hm, hsame⟩
    rcases findmntImpl_isOk hdir hmounts hm (hsame ▸ List.prefix_rfl) with ⟨found, hfound⟩
    rcases findmntImpl_eq_ok hfound hmounts with ⟨best, -, rfl, hbelow, hlongest⟩
    rw [hfound]
    refine decide_eq_true ?_
    -- A mount point above the target would be shorter than the one that is the target.
    by_contra hne
    rcases exists_canonicalizeOrRaw host best with ⟨b, hb⟩
    rcases exists_canonicalizeOrRaw host m with ⟨r, hr⟩
    have hle := hlongest m hm (hsame ▸ List.prefix_rfl)
    rw [SameMount, hr] at hsame
    rw [hb, ← hsame] at hbelow hne
    rw [hb, hr] at hle
    exact absurd (byteLen_text_lt hbelow hne) (Nat.not_lt.mpr hle)

/-- A host that lists a mount point above the directory, the directory twice, the second time
    by a link, and one below. The link alone can be resolved. -/
def nestedHost : MountHost :=
  let name (c : Char) (h : c ≠ '/' ∧ c ≠ '.') : PathName :=
    ⟨[c], List.cons_ne_nil _ _, fun hc => h.1 (List.mem_singleton.mp hc).symm,
      fun hc => h.2 (List.singleton_inj.mp hc), fun hc => by simp at hc⟩
  let a := name 'a' (by decide)
  let b := name 'b' (by decide)
  let l := name 'l' (by decide)
  { isDir := fun path => path = "/a/b"
    canonicalize := fun path => if path = "/l" then .ok ⟨[a, b]⟩ else .error ["no such file"]
    mounts := .ok [⟨[a, b, a]⟩, ⟨[a, b]⟩, ⟨[l]⟩, ⟨[a]⟩, ⟨[]⟩] }

theorem is_exact_mount_iff_nested : isExactMount nestedHost "/a/b" = true := by
  have hmounts : nestedHost.mounts = .ok _ := rfl
  refine (is_exact_mount_iff (by decide) hmounts).mpr ⟨_, .tail _ (.head _), ?_⟩
  unfold SameMount
  decide

/-- What mounts and unmounts are told about the layers at a mount point is what the table
    says, where it has the mount point as long as there is a layer. -/
theorem serve_isExactMount {k : Kernel} {site : ProbeSite} {layers : List Layer}
    (hprobe : k.probe site = canLookUp host target)
    (hlayers : ∀ mounts, host.mounts = .ok mounts →
      (layers ≠ [] ↔ ∃ m ∈ mounts, SameMount host target m)) :
    k.serve layers (.isExactMount site) = (layers, isExactMount host target) := by
  refine Prod.ext rfl ?_
  change (k.probe site && !layers.isEmpty) = isExactMount host target
  rw [hprobe, canLookUp]
  cases hdir : host.isDir target with
  | false =>
      have herr : findmntImpl host target = .error
          [s!"directory '{target}' does not exist or is not a directory."] := by
        rw [findmntImpl, hdir]
        rfl
      rw [isExactMount, herr]
      rfl
  | true =>
      cases hmounts : host.mounts with
      | error e =>
          have herr : ∃ e', findmntImpl host target = .error e' := by
            rw [findmntImpl, hdir, hmounts]
            exact ⟨_, rfl⟩
          rcases herr with ⟨e', herr⟩
          rw [isExactMount, herr]
          rfl
      | ok mounts =>
          have hiff := (is_exact_mount_iff hdir hmounts).trans (hlayers mounts hmounts).symm
          rw [Bool.eq_iff_iff, hiff]
          simp [Except.toOption]

end Lookup

end Mount

end Ssam
