import Ssam.Lib.Run
import Ssam.Volume.Quota

/-!
# Unique Project Ids

Runs of the daemon over the data directories: starts, each with a scan, and
creations and removals in any order, any call of which may fail.

The ids stay apart as long as the manager's map has the active id of every
directory (`Tracked`): the ids of the map are distinct and a new one is above
all of them. Three things break that. A scan can miss an id it cannot read, a
removal forgets the id of a directory it neither switched off nor removed, and
a creation that fails between its two calls brings an old id of the directory
back to life. `KeepsTrack` excludes exactly these.

## Main definitions

* `DataRootState`, `dataStep`: The data root, the manager, and what happens.
* `Distinct`: No two directories have one active id.
* `Tracked`: The map has every active id, and no id twice.
* `KeepsTrack`: The step that keeps it so.
* `Stable`: A step changes no active id but that of a directory it removes.

## Theorems

* `new_get`: The ids a manager starts with.
* `create_agrees_iff`, `remove_agrees_iff`: When an operation keeps the map right.
* `step_tracked_iff`: A step keeps `Tracked` exactly when it keeps track.
* `project_ids_unique`: The condition on a run, and what it promises.
* `unread_id_taken_again`: A scan that misses an id.
-/

namespace Ssam

namespace Volume

open Lib

namespace ProjectMap

/-- A new id is above every id of the map. -/
theorem lt_nextId {m : ProjectMap} {path : String} {id : Nat} (h : m.get path = some id) :
    id < m.nextId := by
  have hmem : id ∈ m.entries.map Sigma.snd :=
    List.mem_map.mpr ⟨⟨path, id⟩, (HashMap.mem_entries_iff m path id).mpr h, rfl⟩
  exact Nat.lt_succ_of_le (List.le_max?_getD_of_mem hmem)

/-- No two paths have one id. -/
def Injective (m : ProjectMap) : Prop :=
  ∀ p q id, m.get p = some id → m.get q = some id → p = q

theorem get_getProjectId (m : ProjectMap) (path q : String) :
    (m.getProjectId path).get q = if q = path then some (m.projectId path) else m.get q := by
  unfold getProjectId projectId
  cases h : m.get path with
  | none =>
      simp only [HashMap.get_insert, Option.getD_none]
  | some id =>
      by_cases hq : q = path
      · rw [if_pos hq, hq]
        exact h
      · rw [if_neg hq]

theorem getProjectId_of_get {m : ProjectMap} {path q : String} {id : Nat}
    (h : m.get q = some id) : (m.getProjectId path).get q = some id := by
  rw [get_getProjectId]
  by_cases hq : q = path
  · rw [if_pos hq, projectId, ← hq, h, Option.getD_some]
  · rw [if_neg hq, h]

/-- Giving a path its id keeps the ids apart. -/
theorem Injective.getProjectId {m : ProjectMap} (h : m.Injective) (path : String) :
    (m.getProjectId path).Injective := by
  unfold ProjectMap.getProjectId
  cases hget : m.get path with
  | some id => exact h
  | none =>
      intro p q id hp hq
      simp only [HashMap.get_insert] at hp hq
      split at hp <;> split at hq
      · rename_i hp' hq'
        rw [hp', hq']
      · exact absurd (Option.some.inj hp) (Nat.ne_of_gt (lt_nextId hq))
      · exact absurd (Option.some.inj hq) (Nat.ne_of_gt (lt_nextId hp))
      · exact h p q id hp hq

theorem Injective.erase {m : ProjectMap} (h : m.Injective) (path : String) :
    ProjectMap.Injective (m.erase path) := by
  intro p q id hp hq
  rw [HashMap.get_erase] at hp hq
  split at hp
  · exact absurd hp (by simp only [reduceCtorEq, not_false_eq_true])
  · split at hq
    · exact absurd hq (by simp only [reduceCtorEq, not_false_eq_true])
    · exact h p q id hp hq

end ProjectMap

/-- No two directories carry one active project id. -/
def Distinct (root : DataRoot) : Prop :=
  ∀ p q id, activeProjid root p = some id → activeProjid root q = some id → p = q

/-- The data root and what the daemon, if it has been started, knows of it. -/
structure DataRootState where
  root : DataRoot
  manager : Option DataDirectoryManager

/-- What happens to the data root. -/
inductive DataEvent where
  /-- The daemon starts, on a file system with quotas, and scans the root. -/
  | start (scan : Scan)
  | create (dirMeta : DataDirMetadata) (k : DirKernel)
  | remove (dir : DataDirectory) (k : DirKernel)

def dataStep (dataRoot : String) (s : DataRootState) : DataEvent → Option DataRootState
  | .start scan => some ⟨s.root, some (.new true dataRoot s.root scan)⟩
  | .create dirMeta k =>
      s.manager.map fun mgr =>
        let (mgr', prog) := mgr.createDataDirectory dirMeta
        ⟨(prog.eval k.serve s.root).1, some mgr'⟩
  | .remove dir k =>
      s.manager.map fun mgr =>
        let (mgr', prog) := mgr.removeDataDirectory dir
        ⟨(prog.eval k.serve s.root).1, some mgr'⟩

/-- The manager's map has the active id of every directory, and no id twice. -/
structure MapAgrees (root : DataRoot) (mgr : DataDirectoryManager) : Prop where
  quota : mgr.quotaRoot = true
  covers : ∀ path id, activeProjid root path = some id → mgr.projectMap.get path = some id
  injective : mgr.projectMap.Injective

def Tracked (s : DataRootState) : Prop :=
  match s.manager with
  | none => Distinct s.root
  | some mgr => MapAgrees s.root mgr

theorem MapAgrees.distinct {root : DataRoot} {mgr : DataDirectoryManager}
    (h : MapAgrees root mgr) : Distinct root :=
  fun p q id hp hq => h.injective p q id (h.covers p id hp) (h.covers q id hq)

theorem Tracked.distinct {s : DataRootState} (h : Tracked s) : Distinct s.root := by
  unfold Tracked at h
  cases hmgr : s.manager with
  | none =>
      rw [hmgr] at h
      exact h
  | some mgr =>
      rw [hmgr] at h
      exact h.distinct

/-- The scan yields the directory and reads its id. -/
structure Scan.Reads (scan : Scan) (path : String) : Prop where
  root : scan.readDir = .ok ()
  whole : ∀ e, .error e ∉ scan.entries
  listed : .ok path ∈ scan.entries
  readable : scan.readable path = true

/-- The directory has an id it does not pass on, and not the one it is to get. -/
def Stale (root : DataRoot) (path : String) (id : Nat) : Prop :=
  ∃ attr, root path = some attr ∧ attr.inherit = false ∧ attr.projid ≠ 0 ∧ attr.projid ≠ id

/-- A start reads every active id, a creation does not stop between the flag and
    the id of a directory with another id, and a removal switches an active id
    off or removes its directory. -/
def KeepsTrack (s : DataRootState) : DataEvent → Prop
  | .start scan => ∀ path id, activeProjid s.root path = some id → scan.Reads path
  | .create dirMeta k =>
      ∀ mgr ∈ s.manager, Stale s.root dirMeta.path (mgr.projectMap.projectId dirMeta.path) →
        mgr.projectMap.projectId dirMeta.path ≤ maxProjectId → k.makeDirectory = .ok () →
          k.SetsFlag → k.SetsProjid
  | .remove dir k =>
      ∀ id, activeProjid s.root dir.path = some id →
        (dir.quotaInfo.isSome = true ∧ k.SetsFlag) ∨ k.removeDirAll = .ok ()

/-- The step changes the active id of no directory that stays, unless it is to
    remove it. -/
def Stable (s : DataRootState) (e : DataEvent) (t : DataRootState) : Prop :=
  ∀ path id, activeProjid s.root path = some id → (t.root path).isSome = true →
    (∀ dir k, e = .remove dir k → dir.path ≠ path) → activeProjid t.root path = some id

section Scanning

variable {scan : Scan} {root : DataRoot}

/-- The map has only ids that are on the directories. -/
def Sound (root : DataRoot) (m : ProjectMap) : Prop :=
  ∀ q id, m.get q = some id → activeProjid root q = some id

/-- An entry adds the id of its directory, if that is read. -/
theorem insertEntry_ok (scan : Scan) {m : ProjectMap} (hm : Sound root m) (path : String) :
    ∃ m', scan.insertEntry true root m (.ok path) = .ok m' ∧
      ∀ q id, m'.get q = some id ↔
        m.get q = some id ∨
          q = path ∧ scan.readable path = true ∧ activeProjid root path = some id := by
  -- A directory without an active id, or one that cannot be read, adds nothing.
  have hsame (hno : ∀ id, scan.readable path = true → activeProjid root path ≠ some id) (q : String)
      (id : Nat) : m.get q = some id ↔ m.get q = some id ∨
        q = path ∧ scan.readable path = true ∧ activeProjid root path = some id :=
    ⟨Or.inl, fun h => h.elim (fun h => h) fun h => absurd h.2.2 (hno id h.2.1)⟩
  cases hdir : root path with
  | none =>
      refine ⟨m, by simp [Scan.insertEntry, context, bind, Except.bind, hdir], hsame ?_⟩
      intro id _ hid
      rw [activeProjid, hdir] at hid
      exact absurd hid.symm (Option.some_ne_none id)
  | some attr =>
      cases hread : scan.getProjectIdForDir root path with
      | none =>
          refine ⟨m, by simp [Scan.insertEntry, context, bind, Except.bind, hdir, hread], hsame ?_⟩
          intro id hr hid
          rw [Scan.getProjectIdForDir, if_pos hr, hid] at hread
          exact absurd hread (Option.some_ne_none id)
      | some id =>
          refine ⟨m.insert path id,
            by simp [Scan.insertEntry, context, bind, Except.bind, hdir, hread], fun q id' => ?_⟩
          have hr : scan.readable path = true ∧ activeProjid root path = some id := by
            unfold Scan.getProjectIdForDir at hread
            split at hread
            · rename_i hr
              exact ⟨hr, hread⟩
            · exact absurd hread.symm (Option.some_ne_none id)
          rw [HashMap.get_insert]
          -- An id that was found for this path before is the same one.
          by_cases hq : q = path
          · rw [if_pos hq, hr.2]
            refine ⟨fun h => Or.inr ⟨hq, hr.1, h⟩, fun h => ?_⟩
            rcases h with h | h
            · have hsound := hm q id' h
              rw [hq, hr.2] at hsound
              exact hsound
            · exact h.2.2
          · rw [if_neg hq]
            exact ⟨Or.inl, fun h => h.elim (fun h => h) fun h => absurd h.1 hq⟩

theorem Sound.insertEntry {m m' : ProjectMap} {path : String} (hm : Sound root m)
    (hget : ∀ q id, m'.get q = some id ↔ m.get q = some id ∨
      q = path ∧ scan.readable path = true ∧ activeProjid root path = some id) :
    Sound root m' := by
  intro q id hq
  rcases (hget q id).mp hq with hq | ⟨rfl, _, hq⟩
  · exact hm q id hq
  · exact hq

/-- The entries one after another: an error ends the scan, and otherwise the map
    gets the id of every directory that is listed and read. -/
theorem scanEntries_ok {entries : List (Except Error String)} {m m' : ProjectMap}
    (hm : Sound root m) (h : entries.foldlM (scan.insertEntry true root) m = .ok m') :
    (∀ e, .error e ∉ entries) ∧ ∀ q id, m'.get q = some id ↔
      m.get q = some id ∨
        .ok q ∈ entries ∧ scan.readable q = true ∧ activeProjid root q = some id := by
  induction entries generalizing m with
  | nil =>
      rw [← Except.ok.inj h]
      refine ⟨fun e => List.not_mem_nil, fun q id => ⟨Or.inl, fun h => ?_⟩⟩
      exact h.elim (fun h => h) fun h => absurd h.1 List.not_mem_nil
  | cons entry entries ih =>
      rw [List.foldlM_cons] at h
      cases entry with
      -- An entry that cannot be listed ends the scan.
      | error e => exact absurd h (by rintro ⟨⟩)
      | ok path =>
          rcases insertEntry_ok scan hm path with ⟨m₁, hm₁, hget₁⟩
          rw [hm₁] at h
          rcases ih (hm.insertEntry hget₁) h with ⟨hwhole, hget⟩
          refine ⟨fun e he => ?_, fun q id => ?_⟩
          · rcases List.mem_cons.mp he with he | he
            · exact absurd he (by rintro ⟨⟩)
            · exact hwhole e he
          · rw [hget, hget₁, List.mem_cons, Except.ok.injEq]
            constructor
            · rintro ((h | ⟨rfl, hr, hid⟩) | ⟨hmem, hr, hid⟩)
              · exact Or.inl h
              · exact Or.inr ⟨Or.inl rfl, hr, hid⟩
              · exact Or.inr ⟨Or.inr hmem, hr, hid⟩
            · rintro (h | ⟨rfl | hmem, hr, hid⟩)
              · exact Or.inl (Or.inl h)
              · exact Or.inl (Or.inr ⟨rfl, hr, hid⟩)
              · exact Or.inr ⟨hmem, hr, hid⟩

/-- A scan that meets no error ends with a map. -/
theorem scanEntries_whole (scan : Scan) {entries : List (Except Error String)}
    (hwhole : ∀ e, .error e ∉ entries) {m : ProjectMap} (hm : Sound root m) :
    ∃ m', entries.foldlM (scan.insertEntry true root) m = .ok m' := by
  induction entries generalizing m with
  | nil => exact ⟨m, rfl⟩
  | cons entry entries ih =>
      cases entry with
      | error e => exact absurd List.mem_cons_self (hwhole e)
      | ok path =>
          rcases insertEntry_ok scan hm path with ⟨m₁, hm₁, hget₁⟩
          rw [List.foldlM_cons, hm₁]
          exact ih (fun e he => hwhole e (List.mem_cons_of_mem _ he)) (hm.insertEntry hget₁)

/-- The ids of a manager just started are those on the directories it has read. -/
theorem new_get (dataRoot : String) (q : String) (id : Nat) :
    (DataDirectoryManager.new true dataRoot root scan).projectMap.get q = some id ↔
      scan.Reads q ∧ activeProjid root q = some id := by
  -- The scan begins with an empty map.
  have hempty : Sound root ∅ := fun q id h => absurd h.symm (Option.some_ne_none id)
  have hnone : ∀ q, HashMap.get (∅ : ProjectMap) q ≠ some id := fun q h =>
    absurd h.symm (Option.some_ne_none id)
  unfold DataDirectoryManager.new
  cases hdir : scan.readDir with
  | error e =>
      -- A scan that fails leaves the manager without any id.
      have hinit : initializeDirectoryMap true dataRoot root scan =
          .error (s!"Failed to read data directory: {dataRoot}" :: e) := by
        rw [initializeDirectoryMap, hdir]
        rfl
      rw [hinit]
      refine iff_of_false (hnone q) fun h => ?_
      exact absurd (hdir.symm.trans h.1.root) (by rintro ⟨⟩)
  | ok u =>
      have hinit : initializeDirectoryMap true dataRoot root scan =
          scan.entries.foldlM (scan.insertEntry true root) ∅ := by
        rw [initializeDirectoryMap, hdir]
        rfl
      rw [hinit]
      cases hscan : scan.entries.foldlM (scan.insertEntry true root) ∅ with
      | error e =>
          refine iff_of_false (hnone q) fun h => ?_
          rcases scanEntries_whole scan h.1.whole hempty with ⟨m, hm⟩
          exact absurd (hscan.symm.trans hm) (by rintro ⟨⟩)
      | ok m =>
          rcases scanEntries_ok hempty hscan with ⟨hwhole, hget⟩
          rw [hget, or_iff_right (hnone q)]
          constructor
          · rintro ⟨hmem, hr, hid⟩
            exact ⟨⟨hdir, hwhole, hmem, hr⟩, hid⟩
          · rintro ⟨hreads, hid⟩
            exact ⟨hreads.listed, hreads.readable, hid⟩

end Scanning

section Steps

variable {root : DataRoot} {mgr : DataDirectoryManager} {path : String}

theorem activeProjid_update_self (root : DataRoot) (path : String) (attr : Option DirAttr) :
    activeProjid (Function.update root path attr) path = attr.bind DirAttr.activeProjid := by
  rw [activeProjid, Function.update_self]

theorem activeProjid_update_ne (root : DataRoot) {path q : String} (attr : Option DirAttr)
    (h : q ≠ path) : activeProjid (Function.update root path attr) q = activeProjid root q := by
  rw [activeProjid, Function.update_of_ne h, activeProjid]

theorem activeProjid_eq_some {attr : DirAttr} {id : Nat} :
    attr.activeProjid = some id ↔ attr.inherit = true ∧ attr.projid ≠ 0 ∧ attr.projid = id := by
  unfold DirAttr.activeProjid
  split
  · rename_i h
    rw [Bool.and_eq_true, decide_eq_true_eq] at h
    rw [Option.some.injEq]
    exact ⟨fun hid => ⟨h.1, h.2, hid⟩, fun hid => hid.2.2⟩
  · rename_i h
    rw [Bool.and_eq_true, decide_eq_true_eq] at h
    exact iff_of_false (by simp only [reduceCtorEq, not_false_eq_true]) fun hid =>
      h ⟨hid.1, hid.2.1⟩

/-- A start has the map agree with the directories if it reads every active id. -/
theorem start_agrees_iff (dataRoot : String) {scan : Scan} (h : Distinct root) :
    MapAgrees root (.new true dataRoot root scan) ↔
      ∀ path id, activeProjid root path = some id → scan.Reads path := by
  constructor
  · intro ha path id hid
    exact ((new_get dataRoot path id).mp (ha.covers path id hid)).1
  · intro hreads
    refine ⟨rfl, fun path id hid => ?_, fun p q id hp hq => ?_⟩
    · exact (new_get dataRoot path id).mpr ⟨hreads path id hid, hid⟩
    · exact h p q id ((new_get dataRoot p id).mp hp).2 ((new_get dataRoot q id).mp hq).2

/-- One directory has changed, and its id in the map is `id`: the map agrees if
    the directory has no other active id. -/
theorem MapAgrees.getProjectId (h : MapAgrees root mgr) (path : String) (attr : Option DirAttr) :
    MapAgrees (Function.update root path attr)
        { mgr with projectMap := mgr.projectMap.getProjectId path } ↔
      ∀ id, attr.bind DirAttr.activeProjid = some id → id = mgr.projectMap.projectId path := by
  constructor
  · intro ha id hid
    have hget := ha.covers path id (by rw [activeProjid_update_self]; exact hid)
    rw [ProjectMap.get_getProjectId, if_pos rfl] at hget
    exact (Option.some.inj hget).symm
  · intro hid
    refine ⟨h.quota, fun q id hq => ?_, h.injective.getProjectId path⟩
    by_cases hqp : q = path
    · rw [hqp, activeProjid_update_self] at hq
      rw [ProjectMap.get_getProjectId, if_pos hqp, hid id hq]
    · rw [activeProjid_update_ne root attr hqp] at hq
      exact ProjectMap.getProjectId_of_get (h.covers q id hq)

/-- The directory has lost its id in the map: the map agrees if the directory has
    no active id. -/
theorem MapAgrees.erase (h : MapAgrees root mgr) (path : String) (attr : Option DirAttr) :
    MapAgrees (Function.update root path attr)
        { mgr with projectMap := mgr.projectMap.erase path } ↔
      attr.bind DirAttr.activeProjid = none := by
  constructor
  · intro ha
    cases hid : attr.bind DirAttr.activeProjid with
    | none => rfl
    | some id =>
        have hget := ha.covers path id (by rw [activeProjid_update_self]; exact hid)
        rw [HashMap.get_erase_self] at hget
        exact absurd hget.symm (Option.some_ne_none id)
  · intro hnone
    refine ⟨h.quota, fun q id hq => ?_, h.injective.erase path⟩
    by_cases hqp : q = path
    · rw [hqp, activeProjid_update_self, hnone] at hq
      exact absurd hq.symm (Option.some_ne_none id)
    · rw [activeProjid_update_ne root attr hqp] at hq
      rw [HashMap.get_erase_ne _ hqp]
      exact h.covers q id hq

/-- A directory the map agrees on keeps its active id over a creation. -/
theorem MapAgrees.projectId (h : MapAgrees root mgr) {id : Nat}
    (hid : activeProjid root path = some id) : mgr.projectMap.projectId path = id := by
  rw [ProjectMap.projectId, h.covers path id hid, Option.getD_some]

/-- A creation keeps the map in agreement exactly when it does not wake an old
    id of the directory. -/
theorem create_agrees_iff (h : MapAgrees root mgr) (dirMeta : DataDirMetadata) (k : DirKernel) :
    MapAgrees ((mgr.createDataDirectory dirMeta).2.eval k.serve root).1
        (mgr.createDataDirectory dirMeta).1 ↔
      (Stale root dirMeta.path (mgr.projectMap.projectId dirMeta.path) →
        mgr.projectMap.projectId dirMeta.path ≤ maxProjectId → k.makeDirectory = .ok () →
          k.SetsFlag → k.SetsProjid) := by
  have hmgr : (mgr.createDataDirectory dirMeta).1 =
      { mgr with projectMap := mgr.projectMap.getProjectId dirMeta.path } := by
    rw [DataDirectoryManager.createDataDirectory, if_pos h.quota]
  rw [hmgr]
  -- What is on the disk is what the map has, also where the flag alone is set.
  have hkept : ∀ id, ((root dirMeta.path).getD ⟨false, 0⟩).activeProjid = some id →
      id = mgr.projectMap.projectId dirMeta.path := by
    intro id hid
    cases hroot : root dirMeta.path with
    | none =>
        rw [hroot] at hid
        exact absurd hid.symm (Option.some_ne_none id)
    | some attr =>
        rw [hroot] at hid
        exact (h.projectId (by rw [activeProjid, hroot]; exact hid)).symm
  refine createDataDirectory_root (P := fun t => MapAgrees t _ ↔ _) h.quota dirMeta rfl ?_ ?_ ?_ ?_
  · intro hne
    refine iff_of_true ?_ fun _ hid hmk => absurd ⟨hid, hmk⟩ hne
    have ha := h.getProjectId dirMeta.path (root dirMeta.path)
    rw [Function.update_eq_self] at ha
    exact ha.mpr fun id hid => (h.projectId hid).symm
  · intro hne
    exact iff_of_true ((h.getProjectId _ _).mpr hkept) fun _ _ _ hflag => absurd hflag hne
  · intro hid hmk hflag hne
    rw [h.getProjectId]
    constructor
    · rintro hwake ⟨attr, hroot, -, hzero, hother⟩
      rw [hroot] at hwake
      exact absurd (hwake _ (activeProjid_eq_some.mpr ⟨rfl, hzero, rfl⟩)) hother
    · intro hc id' hid'
      rcases activeProjid_eq_some.mp hid' with ⟨-, hzero, hproj⟩
      cases hroot : root dirMeta.path with
      | none =>
          rw [hroot] at hzero
          exact absurd rfl hzero
      | some attr =>
          rw [hroot] at hzero hproj hflag
          cases hinherit : attr.inherit with
          | true =>
              refine hkept id' ?_
              rw [hroot]
              exact activeProjid_eq_some.mpr ⟨hinherit, hzero, hproj⟩
          | false =>
              have hset : k.SetsFlag := hflag.resolve_left (by
                rw [Option.getD_some, hinherit]
                exact Bool.false_ne_true)
              by_contra hother
              refine hne (hc ⟨attr, hroot, hinherit, hzero, fun heq => hother ?_⟩ hid hmk hset)
              exact hproj.symm.trans heq
  · intro hsets
    refine iff_of_true ((h.getProjectId _ _).mpr fun id' hid' => ?_) fun _ _ _ _ => hsets
    exact (activeProjid_eq_some.mp hid').2.2.symm

/-- A creation changes no active id. -/
theorem create_keeps_active (h : MapAgrees root mgr) (dirMeta : DataDirMetadata)
    (k : DirKernel) {q : String} {id : Nat} (hq : activeProjid root q = some id) :
    activeProjid ((mgr.createDataDirectory dirMeta).2.eval k.serve root).1 q = some id := by
  -- Another directory is not touched.
  by_cases hqp : q = dirMeta.path
  swap
  · refine createDataDirectory_root (P := fun t => activeProjid t q = some id) h.quota dirMeta rfl
      (fun _ => hq) ?_ ?_ ?_
    · exact fun _ => (activeProjid_update_ne root _ hqp).trans hq
    · exact fun _ _ _ _ => (activeProjid_update_ne root _ hqp).trans hq
    · exact fun _ => (activeProjid_update_ne root _ hqp).trans hq
  subst hqp
  have hproj := h.projectId hq
  cases hroot : root dirMeta.path with
  | none =>
      rw [activeProjid, hroot] at hq
      exact absurd hq.symm (Option.some_ne_none id)
  | some attr =>
      have hattr : attr.activeProjid = some id := by
        rw [activeProjid, hroot] at hq
        exact hq
      -- Its own id is the one that is written again.
      rcases activeProjid_eq_some.mp hattr with ⟨hinherit, hzero, hid⟩
      refine createDataDirectory_root (P := fun t => activeProjid t dirMeta.path = some id)
        h.quota dirMeta (by rw [hroot, Option.getD_some]) (fun _ => hq) ?_ ?_ ?_
      · intro _
        rw [activeProjid_update_self]
        exact hattr
      · intro _ _ _ _
        rw [activeProjid_update_self]
        exact activeProjid_eq_some.mpr ⟨rfl, hzero, hid⟩
      · intro _
        rw [activeProjid_update_self, hproj]
        exact activeProjid_eq_some.mpr ⟨rfl, hid ▸ hzero, rfl⟩

/-- A removal keeps the map in agreement exactly when it leaves no active id. -/
theorem remove_agrees_iff (h : MapAgrees root mgr) (dir : DataDirectory) (k : DirKernel) :
    MapAgrees ((mgr.removeDataDirectory dir).2.eval k.serve root).1
        (mgr.removeDataDirectory dir).1 ↔
      ∀ id, activeProjid root dir.path = some id →
        (dir.quotaInfo.isSome = true ∧ k.SetsFlag) ∨ k.removeDirAll = .ok () := by
  refine removeDataDirectory_root (P := fun t => MapAgrees t _ ↔ _) mgr dir ?_ ?_ ?_
  · -- The directory is gone, and so is its entry.
    intro hgone
    refine iff_of_true ((h.erase _ none).mpr rfl) fun id hid => ?_
    rcases hgone with hrm | hroot
    · exact Or.inr hrm
    · rw [activeProjid, hroot] at hid
      exact absurd hid.symm (Option.some_ne_none id)
  · -- The directory stays as it was, while its entry is erased.
    intro hrm hne
    have ha := h.erase dir.path (root dir.path)
    rw [Function.update_eq_self] at ha
    refine ha.trans ⟨fun hnone id hid => ?_, fun hc => ?_⟩
    · exact absurd (hid.symm.trans hnone) (Option.some_ne_none id)
    · cases hid : activeProjid root dir.path with
      | none => exact hid
      | some id => exact absurd (hc id hid) (not_or.mpr ⟨hne, hrm⟩)
  · -- Its flag has been taken away, so its id is no longer active.
    intro attr hroot hrm hflag projid
    refine iff_of_true ((h.erase _ _).mpr rfl) fun id hid => Or.inl (hflag.resolve_left ?_)
    rw [activeProjid, hroot] at hid
    rw [(activeProjid_eq_some.mp hid).1]
    exact Bool.true_eq_false.mp

/-- A removal changes no other directory. -/
theorem remove_keeps_active (dir : DataDirectory) (k : DirKernel) {q : String}
    (hqp : q ≠ dir.path) :
    activeProjid ((mgr.removeDataDirectory dir).2.eval k.serve root).1 q =
      activeProjid root q := by
  refine removeDataDirectory_root (P := fun t => activeProjid t q = activeProjid root q) mgr dir
    (fun _ => activeProjid_update_ne root _ hqp) (fun _ _ => rfl) fun attr _ _ _ id => ?_
  exact activeProjid_update_ne root _ hqp

end Steps

section Runs

variable (dataRoot : String)

/-- A step keeps the map in agreement exactly when it keeps track. -/
theorem step_tracked_iff {s t : DataRootState} {e : DataEvent} (h : Tracked s)
    (hstep : dataStep dataRoot s e = some t) : Tracked t ↔ KeepsTrack s e := by
  cases e with
  | start scan =>
      rw [← Option.some.inj hstep]
      exact start_agrees_iff dataRoot h.distinct
  | create dirMeta k =>
      cases hmgr : s.manager with
      | none => simp only [dataStep, hmgr, Option.map_none, reduceCtorEq] at hstep
      | some mgr =>
          simp only [dataStep, hmgr, Option.map_some] at hstep
          rw [← Option.some.inj hstep]
          -- The map agrees with the disk before the step.
          have ha : MapAgrees s.root mgr := by
            rw [Tracked, hmgr] at h
            exact h
          have hc : KeepsTrack s (.create dirMeta k) ↔ ∀ mgr' ∈ s.manager, _ := Iff.rfl
          rw [hc, hmgr]
          refine (create_agrees_iff ha dirMeta k).trans ⟨fun hw mgr' hmgr' => ?_, fun hw => ?_⟩
          · rw [← Option.some.inj hmgr']
            exact hw
          · exact hw mgr rfl
  | remove dir k =>
      cases hmgr : s.manager with
      | none => simp only [dataStep, hmgr, Option.map_none, reduceCtorEq] at hstep
      | some mgr =>
          simp only [dataStep, hmgr, Option.map_some] at hstep
          rw [← Option.some.inj hstep]
          have ha : MapAgrees s.root mgr := by
            rw [Tracked, hmgr] at h
            exact h
          exact remove_agrees_iff ha dir k

/-- A step from where the map agrees changes no active id it is not to remove. -/
theorem step_stable {s t : DataRootState} {e : DataEvent} (h : Tracked s)
    (hstep : dataStep dataRoot s e = some t) : Stable s e t := by
  intro path id hid hstays hremove
  cases e with
  | start scan =>
      rw [← Option.some.inj hstep]
      exact hid
  | create dirMeta k =>
      cases hmgr : s.manager with
      | none => simp only [dataStep, hmgr, Option.map_none, reduceCtorEq] at hstep
      | some mgr =>
          simp only [dataStep, hmgr, Option.map_some] at hstep
          rw [← Option.some.inj hstep]
          rw [Tracked, hmgr] at h
          exact create_keeps_active h dirMeta k hid
  | remove dir k =>
      cases hmgr : s.manager with
      | none => simp only [dataStep, hmgr, Option.map_none, reduceCtorEq] at hstep
      | some mgr =>
          simp only [dataStep, hmgr, Option.map_some] at hstep
          rw [← Option.some.inj hstep]
          exact (remove_keeps_active dir k (hremove dir k rfl).symm).trans hid

/-- From any data root whose directories carry distinct ids on: the map has every
    active id in every state of a run exactly when every step keeps track, and then
    no two directories ever carry one id and none changes. -/
theorem project_ids_unique {root : DataRoot} (hroot : Distinct root) (es : List DataEvent) :
    (Always (dataStep dataRoot) Tracked ⟨root, none⟩ es ↔
        Along (dataStep dataRoot) KeepsTrack ⟨root, none⟩ es) ∧
      (Along (dataStep dataRoot) KeepsTrack ⟨root, none⟩ es →
        Always (dataStep dataRoot) (fun s => Distinct s.root) ⟨root, none⟩ es ∧
          Along (dataStep dataRoot)
            (fun s e => ∀ t, dataStep dataRoot s e = some t → Stable s e t) ⟨root, none⟩ es) := by
  have hiff : Always (dataStep dataRoot) Tracked ⟨root, none⟩ es ↔
      Along (dataStep dataRoot) KeepsTrack ⟨root, none⟩ es :=
    always_iff_along (fun _ _ _ hs hstep => step_tracked_iff dataRoot hs hstep) hroot
  refine ⟨hiff, fun h => ⟨?_, ?_⟩⟩
  · exact always_mono (fun _ hs => hs.distinct) (hiff.mpr h)
  · exact along_mono (fun _ _ hs _ _ hstep => step_stable dataRoot hs hstep) (hiff.mpr h) h

end Runs

/-- Every call goes well. -/
def DirKernel.fine : DirKernel where
  makeDirectory := .ok ()
  openDir := .ok ()
  getFlags := .ok ()
  setFlags := .ok ()
  getXattr := .ok ()
  setXattr := .ok ()
  setBlockLimits := .ok ()
  makeDataDir _ := .ok ()
  removeDirAll := .ok ()

/-- A data root with the directories of two packages. -/
def twoDirectories : DataRoot :=
  fun path =>
    if path = "/data/a" then some ⟨true, 1⟩
    else if path = "/data/b" then some ⟨true, 2⟩
    else none

theorem twoDirectories_active {path : String} {id : Nat}
    (h : activeProjid twoDirectories path = some id) :
    path = "/data/a" ∧ id = 1 ∨ path = "/data/b" ∧ id = 2 := by
  unfold activeProjid twoDirectories at h
  split at h
  · rename_i hpath
    exact Or.inl ⟨hpath, (Option.some.inj h).symm⟩
  · split at h
    · rename_i hpath
      exact Or.inr ⟨hpath, (Option.some.inj h).symm⟩
    · exact absurd h.symm (Option.some_ne_none id)

theorem twoDirectories_distinct : Distinct twoDirectories := by
  intro p q id hp hq
  rcases twoDirectories_active hp with ⟨rfl, rfl⟩ | ⟨rfl, rfl⟩ <;>
    rcases twoDirectories_active hq with ⟨rfl, hid⟩ | ⟨rfl, hid⟩ <;>
    first | rfl | exact absurd hid (by decide)

/-- A start that reads both ids, the creation of a third directory, and the removal of
    the second. -/
def replaceSecond : List DataEvent :=
  [.start ⟨.ok (), [.ok "/data/b", .ok "/data/a"], fun _ => true⟩,
    .create ⟨"c", "/data/c", none, none⟩ .fine,
    .remove ⟨"/data/b", none, some ⟨2, none⟩⟩ .fine]

theorem project_ids_unique_started :
    (exec (dataStep "/data") ⟨twoDirectories, none⟩ replaceSecond).map
        (fun s => ["/data/a", "/data/b", "/data/c"].map (activeProjid s.root)) =
      some [some 1, none, some 3] ∧
    Always (dataStep "/data") (fun s => Distinct s.root) ⟨twoDirectories, none⟩ replaceSecond ∧
    Along (dataStep "/data") (fun s e => ∀ t, dataStep "/data" s e = some t → Stable s e t)
      ⟨twoDirectories, none⟩ replaceSecond := by
  refine ⟨by decide, (project_ids_unique "/data" twoDirectories_distinct _).2 ?_⟩
  refine along_cons rfl (fun path id hid => ⟨rfl, ?_, ?_, rfl⟩) ?_
  · intro e he
    simp only [List.mem_cons, reduceCtorEq, List.not_mem_nil, or_self] at he
  · rcases twoDirectories_active hid with ⟨rfl, -⟩ | ⟨rfl, -⟩
    · exact List.mem_cons_of_mem _ List.mem_cons_self
    · exact List.mem_cons_self
  -- The new directory has no id to come back to, and the removed one is switched off.
  refine along_cons rfl (fun mgr _ _ _ _ _ => ⟨rfl, rfl⟩) ?_
  exact along_cons rfl (fun id _ => Or.inr rfl) trivial

/-- A data root with the directory of one package. -/
def oneDirectory : DataRoot := fun path => if path = "/data/a" then some ⟨true, 1⟩ else none

/-- The id of a directory is not read, and the next directory gets it as well. -/
theorem unread_id_taken_again :
    ¬ Always (dataStep "/data") (fun s => Distinct s.root) ⟨oneDirectory, none⟩
        [.start ⟨.ok (), [.ok "/data/a"], fun _ => false⟩,
          .create ⟨"b", "/data/b", none, none⟩ .fine] := by
  rintro ⟨-, h⟩
  have hboth := always_head ((h _ rfl).2 _ rfl)
  exact absurd (hboth "/data/a" "/data/b" 1 (by decide) (by decide)) (by decide)

end Volume

end Ssam
