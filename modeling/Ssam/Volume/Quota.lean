import Ssam.Volume.DataDirectory

/-!
# What the Operations Leave of a Directory

Setting the quota of a directory is a flag and then an id, and each of the two
may fail after it was read and before it is written. A creation and a removal
therefore leave one of a few directories behind, and which of them is decided by
the calls that failed.

The lemmas give these as the cases of a postcondition: whatever holds of each of
them holds of what the operation leaves.

## Main definitions

* `DirKernel.SetsFlag`, `DirKernel.SetsProjid`: The two calls go well.

## Theorems

* `setProjectQuotaInner_wp`: The flag is set before the id.
* `createDataDirectory_root`: What a creation leaves.
* `removeDataDirectory_root`: What a removal leaves.
-/

namespace Ssam

namespace Volume

open Lib

/-- The flag of a directory is set or cleared when it is to be. -/
def DirKernel.SetsFlag (k : DirKernel) : Prop :=
  k.openDir = .ok () ∧ k.getFlags = .ok () ∧ k.setFlags = .ok ()

/-- The project id of a directory is set when it is to be. -/
def DirKernel.SetsProjid (k : DirKernel) : Prop := k.getXattr = .ok () ∧ k.setXattr = .ok ()

section Operations

variable {k : DirKernel} {root : DataRoot} {path : String} {attr : DirAttr}

theorem onDir_some {α : Type} (outcome : Except Error Unit) (act : DirAttr → DataRoot × α)
    (hroot : root path = some attr) :
    onDir root path outcome act =
      match outcome with
      | .ok () => ((act attr).1, .ok (act attr).2)
      | .error e => (root, .error e) := by
  unfold onDir
  rw [hroot]
  cases outcome <;> rfl

theorem onDir_none {α : Type} (outcome : Except Error Unit) (act : DirAttr → DataRoot × α)
    (hroot : root path = none) : (onDir root path outcome act).1 = root ∧
      ∃ e, (onDir root path outcome act).2 = .error e := by
  unfold onDir
  rw [hroot]
  cases outcome with
  | ok u => exact ⟨rfl, _, rfl⟩
  | error e => exact ⟨rfl, _, rfl⟩

variable {Q : Except Error Unit → DataRoot → Prop}

/-- The flag ends up as asked for, or the call fails and nothing changes. -/
theorem setProjInheritance_wp {enabled : Bool} (hroot : root path = some attr)
    (hok : attr.inherit = enabled ∨ k.setFlags = .ok () → k.getFlags = .ok () →
      Q (.ok ()) (Function.update root path (some { attr with inherit := enabled })))
    (herr : ∀ e, ¬ (k.getFlags = .ok () ∧ k.setFlags = .ok ()) → Q (.error e) root) :
    Prog.wp k.serve (fun _ _ => True) Q (setProjInheritance path enabled) root := by
  simp only [setProjInheritance, Prog.bind_eq, Prog.wp_bind, Prog.wp_try_, DirKernel.serve,
    onDir_some _ _ hroot, true_and]
  cases hget : k.getFlags with
  | error e => exact herr e (by rw [hget]; rintro ⟨⟨⟩, -⟩)
  | ok u =>
      rw [Prog.branch_ok]
      -- The flag is written only if it is another one.
      by_cases hsame : enabled = attr.inherit
      · have hupd : Function.update root path (some { attr with inherit := enabled }) = root := by
          rw [hsame]
          exact Function.update_eq_self_iff.mpr hroot.symm
        rw [if_pos hsame]
        have h := hok (Or.inl hsame.symm) hget
        rw [hupd] at h
        exact h
      · simp only [if_neg hsame, Prog.wp_context, Prog.wp_try_, DirKernel.serve,
          onDir_some _ _ hroot, true_and]
        cases hset : k.setFlags with
        | error e => exact herr _ (by rw [hset]; rintro ⟨-, ⟨⟩⟩)
        | ok u => exact hok (Or.inr hset) hget

/-- The id is set, or nothing changes. -/
theorem setProjid_wp {id : Nat} (hroot : root path = some attr) (hid : id < 2 ^ 32)
    (hok : k.SetsProjid →
      Q (.ok ()) (Function.update root path (some { attr with projid := id })))
    (herr : ∀ e, ¬ k.SetsProjid → Q (.error e) root) :
    Prog.wp k.serve (fun _ _ => True) Q (setProjid path id) root := by
  simp only [setProjid, Prog.bind_eq, Prog.wp_bind, Prog.wp_try_, DirKernel.serve,
    onDir_some _ _ hroot, true_and]
  cases hget : k.getXattr with
  | error e => exact herr e (by rw [DirKernel.SetsProjid, hget]; rintro ⟨⟨⟩, -⟩)
  | ok u =>
      simp only [Prog.branch_ok, if_pos hid, Prog.wp_try_, DirKernel.serve,
        onDir_some _ _ hroot, true_and]
      cases hset : k.setXattr with
      | error e => exact herr e (by rw [DirKernel.SetsProjid, hset]; rintro ⟨-, ⟨⟩⟩)
      | ok u => exact hok ⟨hget, hset⟩

/-- The flag is set before the id, so a failure may leave the flag alone. -/
theorem setProjectQuotaInner_wp {enabled : Bool} {id : Nat} (hroot : root path = some attr)
    (hid : id < 2 ^ 32) (hclosed : ∀ e, ¬ k.SetsFlag → Q (.error e) root)
    (hhalf : ∀ e, attr.inherit = enabled ∨ k.SetsFlag → ¬ k.SetsProjid →
      Q (.error e) (Function.update root path (some { attr with inherit := enabled })))
    (hok : attr.inherit = enabled ∨ k.SetsFlag → k.SetsProjid →
      Q (.ok ()) (Function.update root path (some ⟨enabled, id⟩))) :
    Prog.wp k.serve (fun _ _ => True) Q (setProjectQuotaInner path enabled id) root := by
  simp only [setProjectQuotaInner, Prog.bind_eq, Prog.wp_bind, Prog.wp_context, Prog.wp_try_,
    DirKernel.serve, onDir_some _ _ hroot, true_and]
  cases hopen : k.openDir with
  | error e => exact hclosed _ (by rw [DirKernel.SetsFlag, hopen]; rintro ⟨⟨⟩, -⟩)
  | ok u =>
      simp only [Prog.branch_ok, Prog.wp_bind, Prog.wp_context]
      refine setProjInheritance_wp hroot (fun hset hget => ?_) fun e hne => ?_
      · rw [Prog.branch_ok, Prog.branch_ok, Prog.wp_context]
        -- The flag is set by now, and what can still fail is the id.
        have hflag : attr.inherit = enabled ∨ k.SetsFlag :=
          hset.imp_right fun hset => ⟨hopen, hget, hset⟩
        refine setProjid_wp (Function.update_self path _ root) hid (fun hsets => ?_)
          fun e hne => hhalf _ hflag hne
        rw [Function.update_idem]
        exact hok hflag hsets
      · exact hclosed _ fun h => hne ⟨h.2.1, h.2.2⟩

theorem setProjectQuotaInner_none_wp {enabled : Bool} {id : Nat} (hroot : root path = none)
    (herr : ∀ e, Q (.error e) root) :
    Prog.wp k.serve (fun _ _ => True) Q (setProjectQuotaInner path enabled id) root := by
  simp only [setProjectQuotaInner, Prog.bind_eq, Prog.wp_bind, Prog.wp_context, Prog.wp_try_,
    DirKernel.serve, true_and]
  rcases onDir_none k.openDir (fun _ => (root, ())) hroot with ⟨hsame, e, herror⟩
  rw [hsame, herror]
  exact herr _

theorem setBlockLimits_wp (quota : QuotaInfo) (softLimit hardLimit : Nat)
    (h : ∀ r, Q r root) :
    Prog.wp k.serve (fun _ _ => True) Q (quota.setBlockLimits softLimit hardLimit) root := by
  simp only [QuotaInfo.setBlockLimits, Prog.wp_context, Prog.wp_try_, DirKernel.serve, true_and]
  cases k.setBlockLimits <;> exact h _

/-- The limits change nothing of the directory, so what is left of it is what
    setting its quota leaves. -/
theorem setBlockLimit_wp {dir : DataDirectory} {quota : QuotaInfo} (enabled : Bool)
    (hquota : dir.quotaInfo = some quota)
    (h : Prog.wp k.serve (fun _ _ => True) (fun _ t => ∀ r, Q r t)
      (setProjectQuotaInner dir.path enabled (if enabled then quota.id else 0)) root) :
    Prog.wp k.serve (fun _ _ => True) Q (dir.setBlockLimit enabled) root := by
  simp only [DataDirectory.setBlockLimit, hquota, Prog.bind_eq, Prog.wp_bind, Prog.wp_context,
    QuotaInfo.setProjectQuota]
  refine Prog.wp_mono k.serve (fun _ _ _ => trivial) (fun r t ht => ?_) h
  cases r with
  | error e => exact ht _
  | ok u =>
      simp only [Prog.branch_ok, Prog.wp_context]
      refine setBlockLimits_wp quota _ _ fun r => ?_
      cases r <;> exact ht _

theorem makeDataDirs_wp (dirs : List String) (h : ∀ r, Q r root) :
    Prog.wp k.serve (fun _ _ => True) Q (makeDataDirs path dirs) root := by
  induction dirs with
  | nil => exact h _
  | cons dir dirs ih =>
      rw [makeDataDirs]
      split
      · simp only [Prog.bind_eq, Prog.wp_bind, Prog.wp_context, Prog.wp_try_, DirKernel.serve,
          true_and]
        cases k.makeDataDir (joinPath path (stripRoot dir)) with
        | ok u => exact ih
        | error e => exact h _
      · exact h _

theorem ensureDataDirs_wp (dir : DataDirectory) (h : ∀ r, Q r root) :
    Prog.wp k.serve (fun _ _ => True) Q dir.ensureDataDirs root := by
  unfold DataDirectory.ensureDataDirs
  split
  · exact h _
  · exact makeDataDirs_wp _ h

/-- What a creation makes of the data root: nothing, a directory without an id,
    one whose flag alone is set, or one with its id. -/
theorem createDataDirectory_root {mgr : DataDirectoryManager} (hquota : mgr.quotaRoot = true)
    (dirMeta : DataDirMetadata) {P : DataRoot → Prop} {base : DirAttr}
    (hbase : (root dirMeta.path).getD ⟨false, 0⟩ = base)
    (hsame : ¬ (mgr.projectMap.projectId dirMeta.path ≤ maxProjectId ∧
      k.makeDirectory = .ok ()) → P root)
    (hmade : ¬ k.SetsFlag → P (Function.update root dirMeta.path (some base)))
    (hhalf : mgr.projectMap.projectId dirMeta.path ≤ maxProjectId → k.makeDirectory = .ok () →
      base.inherit = true ∨ k.SetsFlag → ¬ k.SetsProjid →
      P (Function.update root dirMeta.path (some { base with inherit := true })))
    (hok : k.SetsProjid → P (Function.update root dirMeta.path
      (some ⟨true, mgr.projectMap.projectId dirMeta.path⟩))) :
    P ((mgr.createDataDirectory dirMeta).2.eval k.serve root).1 := by
  refine Prog.eval_of_wp k.serve (G := fun _ _ => True) (Q := fun _ t => P t) ?_
  simp only [DataDirectoryManager.createDataDirectory, hquota, if_true]
  by_cases hid : mgr.projectMap.projectId dirMeta.path ≤ maxProjectId
  swap
  · rw [if_neg hid]
    exact hsame fun h => hid h.1
  have hid32 : mgr.projectMap.projectId dirMeta.path < 2 ^ 32 :=
    Nat.lt_of_le_of_lt hid (by decide)
  simp only [if_pos hid, Prog.bind_eq, Prog.wp_bind, Prog.wp_context, makeDirectory, Prog.wp_try_,
    DirKernel.serve, true_and]
  cases hmk : k.makeDirectory with
  | error e => exact hsame fun h => absurd (hmk.symm.trans h.2) (by rintro ⟨⟩)
  | ok u =>
      simp only [Prog.branch_ok, Prog.wp_bind, Prog.wp_context, hbase]
      have hpath : Function.update root dirMeta.path (some base) dirMeta.path = some base :=
        Function.update_self _ _ _
      have hset : Prog.wp k.serve (fun _ _ => True) (fun _ t => P t)
          (setProjectQuotaInner dirMeta.path true (mgr.projectMap.projectId dirMeta.path))
          (Function.update root dirMeta.path (some base)) := by
        refine setProjectQuotaInner_wp hpath hid32 (fun e hne => hmade hne)
          (fun e hflag hne => ?_) fun _ hsets => ?_
        · rw [Function.update_idem]
          exact hhalf hid hmk hflag hne
        · rw [Function.update_idem]
          exact hok hsets
      -- Whatever follows the quota leaves the directories as they are.
      refine setBlockLimit_wp true rfl (Prog.wp_mono k.serve (fun _ _ h => h) (fun r t ht r' => ?_)
        hset)
      cases r' with
      | error e => exact ht
      | ok u =>
          simp only [Prog.branch_ok, Prog.wp_bind, Prog.wp_context]
          refine ensureDataDirs_wp _ fun r'' => ?_
          cases r'' <;> exact ht

theorem remove_wp (dir : DataDirectory) {P : DataRoot → Prop}
    (hgone : k.removeDirAll = .ok () ∨ root dir.path = none →
      P (Function.update root dir.path none))
    (hleft : k.removeDirAll ≠ .ok () → P root) :
    Prog.wp k.serve (fun _ _ => True) (fun _ t => P t) dir.remove root := by
  simp only [DataDirectory.remove, Prog.wp_context, Prog.wp_try_, DirKernel.serve, true_and]
  cases hroot : root dir.path with
  | none =>
      have h := onDir_none k.removeDirAll
        (fun _ => (Function.update root dir.path none, ())) hroot
      rw [h.1, h.2.choose_spec]
      have hupd : Function.update root dir.path none = root :=
        Function.update_eq_self_iff.mpr hroot.symm
      have hgone' := hgone (Or.inr hroot)
      rw [hupd] at hgone'
      exact hgone'
  | some attr =>
      rw [onDir_some _ _ hroot]
      cases hrm : k.removeDirAll with
      | ok u => exact hgone (Or.inl hrm)
      | error e => exact hleft (by rw [hrm]; rintro ⟨⟩)

/-- What a removal makes of the directory: it is gone, or what its quota left. -/
theorem removeDataDirectory_root (mgr : DataDirectoryManager) (dir : DataDirectory)
    {P : DataRoot → Prop}
    (hgone : k.removeDirAll = .ok () ∨ root dir.path = none →
      P (Function.update root dir.path none))
    (hleft : k.removeDirAll ≠ .ok () →
      ¬ (dir.quotaInfo.isSome = true ∧ k.SetsFlag) → P root)
    (hoff : ∀ attr, root dir.path = some attr → k.removeDirAll ≠ .ok () →
      (attr.inherit = false ∨ dir.quotaInfo.isSome = true ∧ k.SetsFlag) →
      ∀ id, P (Function.update root dir.path (some ⟨false, id⟩))) :
    P ((mgr.removeDataDirectory dir).2.eval k.serve root).1 := by
  refine Prog.eval_of_wp k.serve (G := fun _ _ => True) (Q := fun _ t => P t) ?_
  simp only [DataDirectoryManager.removeDataDirectory, Prog.bind_eq, Prog.wp_bind,
    Prog.wp_attempt]
  have hkept (hne : ¬ (dir.quotaInfo.isSome = true ∧ k.SetsFlag)) :
      Prog.wp k.serve (fun _ _ => True) (fun _ t => P t) dir.remove root :=
    remove_wp dir hgone fun hrm => hleft hrm hne
  cases hquota : dir.quotaInfo with
  | none =>
      simp only [DataDirectory.setBlockLimit, hquota]
      exact hkept (by rw [hquota]; rintro ⟨⟨⟩, -⟩)
  | some quota =>
      have hsome : dir.quotaInfo.isSome = true := by rw [hquota]; rfl
      refine setBlockLimit_wp false hquota ?_
      cases hroot : root dir.path with
      | none =>
          have hupd : Function.update root dir.path none = root :=
            Function.update_eq_self_iff.mpr hroot.symm
          have hself := hgone (Or.inr hroot)
          rw [hupd] at hself
          exact setProjectQuotaInner_none_wp hroot fun e r =>
            remove_wp dir (fun _ => hgone (Or.inr hroot)) fun _ => hself
      | some attr =>
          -- The directory is there: its quota is off, half off or as it was.
          have hcleared (id : Nat) (hflag : attr.inherit = false ∨ k.SetsFlag) :
              Prog.wp k.serve (fun _ _ => True) (fun _ t => P t) dir.remove
                (Function.update root dir.path (some ⟨false, id⟩)) := by
            refine remove_wp dir (fun h => ?_) fun hrm =>
              hoff attr hroot hrm (hflag.imp_right fun h => ⟨hsome, h⟩) id
            rw [Function.update_idem]
            rcases h with h | h
            · exact hgone (Or.inl h)
            · rw [Function.update_self] at h
              exact absurd h (Option.some_ne_none _)
          have hid : (if false = true then quota.id else 0) < 2 ^ 32 := by
            rw [if_neg Bool.false_ne_true]
            decide
          exact setProjectQuotaInner_wp hroot hid (fun e hne r => hkept fun h => hne h.2)
            (fun e hflag _ r => hcleared attr.projid hflag) fun hflag _ r => hcleared _ hflag

end Operations

end Volume

end Ssam
