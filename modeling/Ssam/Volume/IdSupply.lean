import Mathlib.Data.Finset.Card
import Ssam.Lib.Calls
import Ssam.Volume.ProjectIds

/-!
# The Supply of Project Ids

An id for a new directory is one more than the largest in the map, and it goes into the
map before anything is done with the directory. The ids of directories that are gone are
not looked for, and an id as large as a quota allows, wherever it was found, leaves none
for the next directory. A creation that fails leaves the new id in the map.

Whether a creation succeeds is told by the answers its calls get, one after another. With
that the steps of a run that neither fail for lack of an id nor leave one behind are told
exactly.

## Main definitions

* `supplyStep`: What happens to the data root, with and without quotas.
* `Created`: The calls of a creation all go well.
* `FewDirectories`: There are fewer directories than ids.
* `KeepsSupply`: A creation does not fail for lack of an id, and one that fails leaves
  the map as it was.
* `IdAvailable`: When that is so.

## Theorems

* `createDataDirectory_ok_iff`: When a creation succeeds.
* `keepsSupply_iff`: The condition on a step.
* `project_id_supply`: The condition on a run.
* `largest_id_leaves_none`: A directory with the largest id, and a second one.
-/

namespace Ssam

namespace Volume

open Lib

/-- What happens to the data root. The file system has quotas or has none. -/
def supplyStep (dataRoot : String) (quota : Bool) (s : DataRootState) :
    DataEvent → Option DataRootState
  | .start scan => some ⟨s.root, some (.new quota dataRoot s.root scan)⟩
  | e => dataStep dataRoot s e

/-- The calls that give an existing directory its quota go well. -/
structure SetsQuota (k : DirKernel) (inherit : Bool) : Prop where
  openDir : k.openDir = .ok ()
  getFlags : k.getFlags = .ok ()
  setFlags : inherit = true ∨ k.setFlags = .ok ()
  setsProjid : k.SetsProjid
  setBlockLimits : k.setBlockLimits = .ok ()

/-- The directories the package declares are safe and can be made. -/
def MakesDataDirs (k : DirKernel) (path : String) (dirs : List String) : Prop :=
  ∀ dir ∈ dirs, isSafeRelativePath (stripRoot dir) = true ∧
    k.makeDataDir (joinPath path (stripRoot dir)) = .ok ()

/-- The calls of a creation all go well. -/
structure Created (k : DirKernel) (root : DataRoot) (quota : Bool) (dirMeta : DataDirMetadata) :
    Prop where
  makeDirectory : k.makeDirectory = .ok ()
  quota : quota = true → SetsQuota k ((root dirMeta.path).getD ⟨false, 0⟩).inherit
  dataDirs : MakesDataDirs k dirMeta.path ((parseDataDirs dirMeta.dataDirs).getD [])

section Create

variable {k : DirKernel} {root : DataRoot} {path : String} {attr : DirAttr}
variable {Q : Except Error Unit → DataRoot → Prop} {C : Prop}

theorem isSome_update (attr : DirAttr) :
    (Function.update root path (some attr) path).isSome = true := by
  rw [Function.update_self]
  rfl

/-- The flag can be set: after it there is a directory still. -/
theorem setProjInheritance_iff (hroot : root path = some attr)
    (hok : ∀ t, (t path).isSome = true → (Q (.ok ()) t ↔ C)) (herr : ∀ e t, ¬ Q (.error e) t) :
    Prog.wp k.serve (fun _ _ => True) Q (setProjInheritance path true) root ↔
      k.getFlags = .ok () ∧ (attr.inherit = true ∨ k.setFlags = .ok ()) ∧ C := by
  have hthere : (root path).isSome = true := by
    rw [hroot]
    rfl
  simp only [setProjInheritance, Prog.bind_eq, Prog.wp_bind, Prog.wp_try_, DirKernel.serve,
    onDir_some _ _ hroot, true_and]
  cases hget : k.getFlags with
  | error e => exact iff_of_false (herr e root) (by rintro ⟨⟨⟩, -⟩)
  | ok u =>
      rw [Prog.branch_ok]
      by_cases hsame : true = attr.inherit
      · simp only [if_pos hsame, Prog.pure_eq, Prog.wp_done]
        rw [hok root hthere, ← hsame]
        simp only [true_or, true_and]
      · simp only [if_neg hsame, Prog.wp_context, Prog.wp_try_, DirKernel.serve,
          onDir_some _ _ hroot, true_and]
        have hne : ¬ attr.inherit = true := fun h => hsame h.symm
        cases hset : k.setFlags with
        | error e =>
            refine iff_of_false (herr _ _) ?_
            rintro ⟨h | h, -⟩
            · exact hne h
            · cases h
        | ok u =>
            refine (hok _ (isSome_update _)).trans ?_
            simp only [or_true, true_and]

theorem setProjid_iff {id : Nat} (hroot : root path = some attr) (hid : id < 2 ^ 32)
    (hok : ∀ t, (t path).isSome = true → (Q (.ok ()) t ↔ C)) (herr : ∀ e t, ¬ Q (.error e) t) :
    Prog.wp k.serve (fun _ _ => True) Q (setProjid path id) root ↔ k.SetsProjid ∧ C := by
  simp only [setProjid, Prog.bind_eq, Prog.wp_bind, Prog.wp_try_, DirKernel.serve,
    onDir_some _ _ hroot, true_and, DirKernel.SetsProjid]
  cases hget : k.getXattr with
  | error e => exact iff_of_false (herr e root) (by rintro ⟨⟨⟨⟩, -⟩, -⟩)
  | ok u =>
      simp only [Prog.branch_ok, if_pos hid, Prog.wp_try_, DirKernel.serve,
        onDir_some _ _ hroot, true_and]
      cases hset : k.setXattr with
      | error e => exact iff_of_false (herr e root) (by rintro ⟨⟨⟩, -⟩)
      | ok u =>
          refine (hok _ (isSome_update _)).trans ?_
          simp only [true_and]

/-- The quota of a directory that is there is set, and then its limits. -/
theorem setBlockLimit_iff {dir : DataDirectory} {quota : QuotaInfo}
    (hroot : root dir.path = some attr)
    (hquota : dir.quotaInfo = some quota) (hid : quota.id < 2 ^ 32)
    (hok : ∀ t, Q (.ok ()) t ↔ C) (herr : ∀ e t, ¬ Q (.error e) t) :
    Prog.wp k.serve (fun _ _ => True) Q (dir.setBlockLimit true) root ↔
      SetsQuota k attr.inherit ∧ C := by
  simp only [DataDirectory.setBlockLimit, hquota, Prog.bind_eq, Prog.wp_bind, Prog.wp_context,
    QuotaInfo.setProjectQuota, setProjectQuotaInner, if_true, Prog.wp_try_, DirKernel.serve,
    onDir_some _ _ hroot, true_and]
  cases hopen : k.openDir with
  | error e =>
      refine iff_of_false (herr _ _) ?_
      rintro ⟨h, -⟩
      exact absurd (hopen.symm.trans h.openDir) (by rintro ⟨⟩)
  | ok u =>
      simp only [Prog.branch_ok, Prog.wp_bind, Prog.wp_context]
      refine (setProjInheritance_iff (C := k.SetsProjid ∧ k.setBlockLimits = .ok () ∧ C) hroot
        (fun t ht => ?_) ?_).trans ?_
      -- With the flag set the id follows, and the limits after it.
      · rcases Option.isSome_iff_exists.mp ht with ⟨attr', ht⟩
        simp only [Prog.branch_ok, Prog.wp_context]
        refine setProjid_iff ht hid (fun t' ht' => ?_) ?_
        swap
        · exact fun e t' => herr _ t'
        simp only [Prog.branch_ok, QuotaInfo.setBlockLimits, Prog.wp_context, Prog.wp_try_,
          DirKernel.serve, true_and]
        cases hlimits : k.setBlockLimits with
        | error e => exact iff_of_false (herr _ _) (by rintro ⟨⟨⟩, -⟩)
        | ok u => exact (hok t').trans (and_iff_right rfl).symm
      · exact fun e t => herr _ t
      · constructor
        · rintro ⟨hget, hset, hprojid, hlimits, hc⟩
          exact ⟨⟨hopen, hget, hset, hprojid, hlimits⟩, hc⟩
        · rintro ⟨h, hc⟩
          exact ⟨h.getFlags, h.setFlags, h.setsProjid, h.setBlockLimits, hc⟩

theorem makeDataDirs_iff (dirs : List String) (hok : ∀ t, Q (.ok ()) t ↔ C)
    (herr : ∀ e t, ¬ Q (.error e) t) :
    Prog.wp k.serve (fun _ _ => True) Q (makeDataDirs path dirs) root ↔
      MakesDataDirs k path dirs ∧ C := by
  induction dirs with
  | nil =>
      refine (hok root).trans (and_iff_right ?_).symm
      exact fun dir h => absurd h List.not_mem_nil
  | cons dir dirs ih =>
      rw [MakesDataDirs, List.forall_mem_cons, and_assoc, ← MakesDataDirs, ← ih, makeDataDirs]
      by_cases hsafe : isSafeRelativePath (stripRoot dir) = true
      · simp only [if_pos hsafe, Prog.bind_eq, Prog.wp_bind, Prog.wp_context, Prog.wp_try_,
          DirKernel.serve, true_and]
        cases hmake : k.makeDataDir (joinPath path (stripRoot dir)) with
        | ok u => simp only [Prog.branch_ok, hsafe, true_and]
        | error e => exact iff_of_false (herr _ _) (by rintro ⟨⟨-, ⟨⟩⟩, -⟩)
      · rw [if_neg hsafe]
        exact iff_of_false (herr _ _) fun h => hsafe h.1.1

/-- What a creation does once its quota is known. -/
def createWith (dirMeta : DataDirMetadata) (quotaInfo : Option QuotaInfo) :
    DirProg DataDirectory := do
  let dir : DataDirectory := ⟨dirMeta.path, parseDataDirs dirMeta.dataDirs, quotaInfo⟩
  ((makeDirectory dirMeta.path).context
    s!"Failed to create data directory: {dirMeta.path}").context
      s!"Failed to create data directory for package: {dirMeta.packageName}"
  (dir.setBlockLimit true).context
    s!"Failed to set block limit for data directory: {dirMeta.path}"
  dir.ensureDataDirs.context
    s!"Failed to create data directory for package: {dirMeta.packageName}"
  pure dir

/-- What a creation is refused with when its id is too large. -/
def idOverflows (id : Nat) : Error :=
  [s!"Project id {id} overflows i32 — this should never happen",
    "out of range integral type conversion attempted"]

/-- A creation has an id first, if there are quotas. -/
theorem createDataDirectory_eq (mgr : DataDirectoryManager) (dirMeta : DataDirMetadata) :
    mgr.createDataDirectory dirMeta =
      if mgr.quotaRoot then
        ({ mgr with projectMap := mgr.projectMap.getProjectId dirMeta.path },
          if mgr.projectMap.projectId dirMeta.path ≤ maxProjectId then
            createWith dirMeta (some ⟨mgr.projectMap.projectId dirMeta.path, dirMeta.storageLimit⟩)
          else Prog.fail (idOverflows (mgr.projectMap.projectId dirMeta.path)))
      else (mgr, createWith dirMeta none) := rfl

theorem createWith_iff {dirMeta : DataDirMetadata} {quotaInfo : Option QuotaInfo}
    (hid : ∀ quota ∈ quotaInfo, quota.id < 2 ^ 32)
    {Q : Except Error DataDirectory → DataRoot → Prop} (hok : ∀ dir t, Q (.ok dir) t)
    (herr : ∀ e t, ¬ Q (.error e) t) :
    Prog.wp k.serve (fun _ _ => True) Q (createWith dirMeta quotaInfo) root ↔
      Created k root quotaInfo.isSome dirMeta := by
  simp only [createWith, Prog.bind_eq, Prog.wp_bind, Prog.wp_context, makeDirectory, Prog.wp_try_,
    DirKernel.serve, true_and]
  cases hmake : k.makeDirectory with
  | error e =>
      refine iff_of_false (herr _ _) fun h => ?_
      exact absurd (hmake.symm.trans h.makeDirectory) (by rintro ⟨⟩)
  | ok u =>
      simp only [Prog.branch_ok, Prog.wp_bind, Prog.wp_context]
      -- What follows the quota depends on the declared directories alone.
      have hdirs (t : DataRoot) : Prog.wp k.serve (fun _ _ => True) Q
          ((Prog.context s!"Failed to create data directory for package: {dirMeta.packageName}"
            (DataDirectory.ensureDataDirs
              ⟨dirMeta.path, parseDataDirs dirMeta.dataDirs, quotaInfo⟩)).bind fun _ =>
                pure ⟨dirMeta.path, parseDataDirs dirMeta.dataDirs, quotaInfo⟩) t ↔
          MakesDataDirs k dirMeta.path ((parseDataDirs dirMeta.dataDirs).getD []) := by
        rw [Prog.wp_bind, Prog.wp_context]
        unfold DataDirectory.ensureDataDirs
        cases hparse : parseDataDirs dirMeta.dataDirs with
        | none =>
            refine iff_of_true (hok _ _) ?_
            exact fun dir h => absurd h List.not_mem_nil
        | some dirs =>
            refine (makeDataDirs_iff (C := True) dirs (fun t => ?_) fun e t => herr _ t).trans ?_
            · exact iff_true_intro (hok _ t)
            · rw [and_true]
              rfl
      -- The directory is there by now, with the attributes it had or with none.
      have hbase : Function.update root dirMeta.path (some ((root dirMeta.path).getD ⟨false, 0⟩))
          dirMeta.path = some ((root dirMeta.path).getD ⟨false, 0⟩) := Function.update_self _ _ _
      cases quotaInfo with
      | none =>
          have hnone : Created k root false dirMeta ↔
              MakesDataDirs k dirMeta.path ((parseDataDirs dirMeta.dataDirs).getD []) :=
            ⟨fun h => h.dataDirs, fun h => ⟨hmake, fun hf => absurd hf Bool.false_ne_true, h⟩⟩
          exact (hdirs _).trans hnone.symm
      | some quota =>
          refine (setBlockLimit_iff hbase rfl (hid quota rfl) hdirs fun e t => herr _ t).trans ?_
          constructor
          · rintro ⟨hsets, hmakes⟩
            exact ⟨hmake, fun _ => hsets, hmakes⟩
          · exact fun h => ⟨h.quota rfl, h.dataDirs⟩

/-- What holds of any end of a program holds of the one it has. -/
theorem wp_of_all {α : Type} {Q : Except Error α → DataRoot → Prop} (h : ∀ r t, Q r t)
    (p : DirProg α) (s : DataRoot) : Prog.wp k.serve (fun _ _ => True) Q p s := by
  induction p generalizing s with
  | done r => exact h r s
  | call c next ih => exact ⟨trivial, ih _ _⟩

theorem createWith_ok_iff {dirMeta : DataDirMetadata} {quotaInfo : Option QuotaInfo}
    (hid : ∀ quota ∈ quotaInfo, quota.id < 2 ^ 32) :
    (∃ dir, ((createWith dirMeta quotaInfo).eval k.serve root).2 = .ok dir) ↔
      Created k root quotaInfo.isSome dirMeta := by
  rw [← createWith_iff (Q := fun r _ => ∃ dir, r = .ok dir) hid (fun dir t => ⟨dir, rfl⟩)
    (fun e t => by rintro ⟨dir, ⟨⟩⟩), Prog.wp_iff_eval]
  exact (and_iff_right (wp_of_all (fun _ _ => trivial) _ _)).symm

theorem head?_append {s : String} {c : Char} (h : s.toList.head? = some c) (t : String) :
    (s ++ t).toList.head? = some c := by
  rw [String.toList_append, List.head?_append, h, Option.some_or]

/-- A message that begins with another letter is not the one about the id. -/
theorem failed_ne_idOverflows {msg : String} (h : msg.toList.head? = some 'F') (e : Error)
    (id : Nat) : msg :: e ≠ idOverflows id := by
  intro heq
  have hproject : ("Project id " ++ toString id ++
      " overflows i32 — this should never happen").toList.head? = some 'P' :=
    head?_append (head?_append (by decide) _) _
  have hmsg : msg = "Project id " ++ toString id ++
      " overflows i32 — this should never happen" := (List.cons.inj heq).1
  rw [hmsg, hproject] at h
  exact absurd h (by decide)

/-- What fails after the id is taken is not said to fail over the id. -/
theorem createWith_ne_idOverflows (dirMeta : DataDirMetadata) (quotaInfo : Option QuotaInfo)
    (id : Nat) :
    ((createWith dirMeta quotaInfo).eval k.serve root).2 ≠ .error (idOverflows id) := by
  have hfailed {msg : String} (h : msg.toList.head? = some 'F') (e : Error) (x : String) :
      (Except.error ((msg ++ x) :: e) : Except Error DataDirectory) ≠ .error (idOverflows id) :=
    fun heq => failed_ne_idOverflows (head?_append h x) e id (Except.error.inj heq)
  refine Prog.eval_of_wp k.serve (G := fun _ _ => True) (Q := fun r _ => r ≠ _) ?_
  rw [createWith, Prog.bind_eq, Prog.wp_bind, Prog.wp_context]
  -- Every part of the creation has a message of its own.
  refine wp_of_all (fun r t => ?_) _ _
  cases r with
  | error e => exact hfailed (by decide) e _
  | ok u =>
      rw [Prog.branch_ok, Prog.branch_ok, Prog.bind_eq, Prog.wp_bind, Prog.wp_context]
      refine wp_of_all (fun r t => ?_) _ _
      cases r with
      | error e => exact hfailed (by decide) e _
      | ok u =>
          rw [Prog.branch_ok, Prog.branch_ok, Prog.bind_eq, Prog.wp_bind, Prog.wp_context]
          refine wp_of_all (fun r t => ?_) _ _
          cases r with
          | error e => exact hfailed (by decide) e _
          | ok u => exact fun h => absurd h (by rintro ⟨⟩)

/-- A creation succeeds if its id is one a quota can have and its calls go well. -/
theorem createDataDirectory_ok_iff (mgr : DataDirectoryManager) (dirMeta : DataDirMetadata)
    (k : DirKernel) (root : DataRoot) :
    (∃ dir, ((mgr.createDataDirectory dirMeta).2.eval k.serve root).2 = .ok dir) ↔
      (mgr.quotaRoot = true → mgr.projectMap.projectId dirMeta.path ≤ maxProjectId) ∧
        Created k root mgr.quotaRoot dirMeta := by
  rw [createDataDirectory_eq]
  cases hquota : mgr.quotaRoot with
  | false =>
      refine (createWith_ok_iff fun quota h => absurd h.symm (Option.some_ne_none _)).trans ?_
      simp only [Option.isSome_none, Bool.false_eq_true, false_implies, true_and]
  | true =>
      simp only [if_true, true_implies]
      by_cases hid : mgr.projectMap.projectId dirMeta.path ≤ maxProjectId
      · rw [if_pos hid, and_iff_right hid]
        refine createWith_ok_iff fun quota h => ?_
        rw [← Option.some.inj h]
        exact Nat.lt_of_le_of_lt hid (by decide)
      · rw [if_neg hid]
        exact iff_of_false (by rintro ⟨dir, ⟨⟩⟩) fun h => hid h.1

end Create

/-- There are fewer directories than ids. -/
def FewDirectories (root : DataRoot) : Prop :=
  ∃ paths : Finset String, (∀ path, (root path).isSome = true → path ∈ paths) ∧
    paths.card < maxProjectId

/-- A creation does not fail for lack of an id while there are fewer directories than ids,
    and one that fails leaves the map as it was. -/
def KeepsSupply (s : DataRootState) : DataEvent → Prop
  | .create dirMeta k =>
      ∀ mgr ∈ s.manager,
        (FewDirectories s.root → ∀ id,
          ((mgr.createDataDirectory dirMeta).2.eval k.serve s.root).2 ≠
            .error (idOverflows id)) ∧
        ((∃ e, ((mgr.createDataDirectory dirMeta).2.eval k.serve s.root).2 = .error e) →
          ∀ q, (mgr.createDataDirectory dirMeta).1.projectMap.get q = mgr.projectMap.get q)
  | _ => True

/-- The path has an id a quota can have, or will have it and the creation succeeds. An id
    that is too large is not taken anew, and there are no fewer directories than ids. -/
def IdAvailable (s : DataRootState) : DataEvent → Prop
  | .create dirMeta k =>
      ∀ mgr ∈ s.manager, mgr.quotaRoot = true →
        if mgr.projectMap.projectId dirMeta.path ≤ maxProjectId then
          (mgr.projectMap.get dirMeta.path).isSome = true ∨ Created k s.root true dirMeta
        else (mgr.projectMap.get dirMeta.path).isSome = true ∧ ¬ FewDirectories s.root
  | _ => True

section Supply

theorem getProjectId_get_iff (m : ProjectMap) (path : String) :
    (∀ q, (m.getProjectId path).get q = m.get q) ↔ (m.get path).isSome = true := by
  constructor
  · intro h
    rw [← h path, ProjectMap.get_getProjectId, if_pos rfl]
    rfl
  · intro h q
    rcases Option.isSome_iff_exists.mp h with ⟨id, hid⟩
    rw [ProjectMap.getProjectId, hid]

theorem keepsSupply_iff (s : DataRootState) (e : DataEvent) :
    KeepsSupply s e ↔ IdAvailable s e := by
  cases e with
  | start scan => exact Iff.rfl
  | remove dir k => exact Iff.rfl
  | create dirMeta k =>
      refine forall_congr' fun mgr => imp_congr_right fun _ => ?_
      have herror : (∃ e, ((mgr.createDataDirectory dirMeta).2.eval k.serve s.root).2 = .error e) ↔
          ¬ ∃ dir, ((mgr.createDataDirectory dirMeta).2.eval k.serve s.root).2 = .ok dir := by
        cases ((mgr.createDataDirectory dirMeta).2.eval k.serve s.root).2 with
        | ok dir => exact iff_of_false (by rintro ⟨e, ⟨⟩⟩) fun h => h ⟨dir, rfl⟩
        | error e => exact iff_of_true ⟨e, rfl⟩ (by rintro ⟨dir, ⟨⟩⟩)
      rw [herror, createDataDirectory_ok_iff, createDataDirectory_eq]
      cases hquota : mgr.quotaRoot with
      | false =>
          refine iff_of_true ⟨fun _ id => ?_, fun _ q => rfl⟩ fun h => absurd h Bool.false_ne_true
          exact createWith_ne_idOverflows _ _ id
      | true =>
          simp only [if_true, true_implies, getProjectId_get_iff]
          by_cases hid : mgr.projectMap.projectId dirMeta.path ≤ maxProjectId
          · -- The creation has its id, and an id that is new is left behind if it fails.
            simp only [hid, if_true, true_and]
            constructor
            · exact fun h => or_iff_not_imp_right.mpr h.2
            · exact fun h => ⟨fun _ id => createWith_ne_idOverflows _ _ id,
                or_iff_not_imp_right.mp h⟩
          -- An id that is too large is refused before anything is done.
          · simp only [hid, if_false, false_and, not_false_eq_true, true_implies]
            rw [and_comm]
            refine and_congr_right fun _ => ?_
            exact ⟨fun h hfew => h hfew _ rfl, fun h hfew => absurd hfew h⟩

/-- In a run every creation keeps the supply of ids exactly if every creation finds an id
    that is available. -/
theorem project_id_supply (dataRoot : String) (quota : Bool) (root : DataRoot)
    (es : List DataEvent) :
    Along (supplyStep dataRoot quota) KeepsSupply ⟨root, none⟩ es ↔
      Along (supplyStep dataRoot quota) IdAvailable ⟨root, none⟩ es :=
  along_congr (I := fun _ => True) (fun _ _ _ _ _ => trivial) (fun s e _ => keepsSupply_iff s e)
    trivial

/-- A data root with one directory, which has the largest id there is. -/
def largestId : DataRoot := fun path =>
  if path = "/data/a" then some ⟨true, maxProjectId⟩ else none

/-- The kernel makes no directories. -/
def DirKernel.full : DirKernel :=
  { DirKernel.fine with makeDirectory := .error ["No space left on device (os error 28)"] }

theorem largestId_path {path : String} (h : (largestId path).isSome = true) : path = "/data/a" := by
  unfold largestId at h
  split at h
  · assumption
  · cases h

/-- With the largest id on the disk there is none for a second directory, and a directory
    that cannot be made leaves its id in the map. -/
theorem largest_id_leaves_none :
    ¬ Along (supplyStep "/data" true) KeepsSupply ⟨largestId, none⟩
        [.start ⟨.ok (), [.ok "/data/a"], fun _ => true⟩,
          .create ⟨"b", "/data/b", none, none⟩ .fine] ∧
    ¬ Along (supplyStep "/data" true) KeepsSupply ⟨fun _ => none, none⟩
        [.start ⟨.ok (), [], fun _ => true⟩, .create ⟨"b", "/data/b", none, none⟩ .full] := by
  constructor
  · intro h
    have hcreate := ((h _ rfl).2 _ rfl).1 _ rfl
    exact hcreate.1 ⟨{"/data/a"}, fun path hpath => Finset.mem_singleton.mpr
      (largestId_path hpath), by decide⟩ _ rfl
  · intro h
    have hcreate := ((h _ rfl).2 _ rfl).1 _ rfl
    exact absurd (hcreate.2 ⟨_, rfl⟩ "/data/b") (by decide)

end Supply

end Volume

end Ssam
