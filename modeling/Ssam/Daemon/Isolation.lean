import Ssam.Daemon.Step

/-!
# Data of other Packages

What an action on one package does to the data directories of the others.

All that is done to the data of a package is done in its own directory, but for one
thing: an upgrade that removes the data first clears the place it sets the old data
aside at, which is the path of the directory with `.old` after it. That is the data
directory of a package as well, of the one whose name is the first one's with `.old`
after it.

## Main definitions

* `Isolated`: An action keeps the data of all packages but its own.
* `AboutToSetAside`: An upgrade is about to set the data of its package aside.
* `SparesNeighbour`: There is nothing in its way that is not spared.

## Theorems

* `isolated_of_within`: An action in its own directory.
* `states_of_upgrade_setAside`: What an upgrade that sets data aside comes to.
* `isolated_iff`: When an action keeps the data of the others.
* `data_isolated_iff`: When all actions of a run do.
* `neighbour_lost`: A package whose name ends in `.old` loses its data.
-/

namespace Ssam

namespace Daemon

open Lib Manager Volume Function

variable {C F V B : Type} [LE V] [DecidableLE V] [ToString V] (env : DaemonEnv C F V)

/-- What is in the data directory at the path is still there. -/
def Keeps (path : String) (disk : Disk B) (w : World C B) : Prop :=
  ∀ rel node, disk.nodeAt path rel = some node → w.disk.nodeAt path rel = some node

/-- What is in the data directory of any other package is there in every state the
    action goes through. -/
def Isolated (d : DaemonState C F B) (e : DaemonEvent C) : Prop :=
  ∀ p q, e.action.packageName env = some p → p ≠ q → isSafePathSegment p = true →
    isSafePathSegment q = true → ∀ w program, begin env d e.action = some (w, program) →
      ∀ n, Keeps (joinPath env.dataRoot q) d.world.disk
        (program.cut (serve e.kernel env) n w).1

/-- What an upgrade does before it comes to the data. -/
def readies (info : InstallInfo C F) (existing : Package F) : DaemonProg C F Unit := do
  Prog.try_ (.inr (.prepareUpgrade existing))
  transaction (placeFile info (installMode env.toEnv (some existing)))

/-- The install is an upgrade that removes the data, and is about to set aside what
    there is. -/
structure AboutToSetAside (k : Nat → CallKernel C) (store : PackageStore F) (w : World C B)
    (msg : InstallPackage C) (info : InstallInfo C F) (existing : Package F) (w' : World C B) :
    Prop where
  plan : planInstall env.toEnv store msg = .ok (info, some existing)
  removeData : msg.removeData = true
  ready : (readies env info existing).eval (serve k env) w = (w', .ok ())

/-- An upgrade that sets data aside finds nothing in its way that is not spared. -/
def SparesNeighbour (d : DaemonState C F B) (e : DaemonEvent C) : Prop :=
  match e.action with
  | .install msg => ∀ store info existing w', d.store = some store →
      AboutToSetAside env e.kernel store d.world msg info existing w' →
        isSafePathSegment (info.packageName ++ ".old") = true →
          ∀ rel node, d.world.disk.nodeAt (joinPath env.dataRoot (info.packageName ++ ".old")) rel =
            some node → (e.kernel w'.calls).disk.removeDirAll ≠ .ok () ∧
              (e.kernel w'.calls).disk.spares rel = true
  | _ => True

variable {env} {k : Nat → CallKernel C} {path : String} {disk : Disk B}

omit [LE V] [DecidableLE V] [ToString V] in
theorem Keeps.of_grows {w w' : World C B} (h : Keeps path disk w) (hgrows : Grows w.disk w'.disk) :
    Keeps path disk w' :=
  fun rel node hnode => hgrows.keeps path rel node (h rel node hnode)

omit [LE V] [DecidableLE V] [ToString V] in
/-- What a program keeps that does not look at the directory. -/
theorem keeps_of_within_states {α : Type} {w : World C B} {p : String} {dirs : String → Prop}
    {program : DaemonProg C F α} (h : program.Only (within env.dataRoot p dirs))
    (hnamed : Named env.dataRoot w.volumes) (hp : dirs (joinPath env.dataRoot p))
    (hpath : ¬ dirs path) (hkeeps : Keeps path disk w) :
    Prog.wp (serve k env) (fun s _ => Keeps path disk s) (fun _ s => Keeps path disk s)
      program w := by
  have hstates : ∀ s : World C B, (Named env.dataRoot s.volumes ∧ ∀ path rel node, ¬ dirs path →
      w.disk.nodeAt path rel = some node → s.disk.nodeAt path rel = some node) →
        Keeps path disk s :=
    fun s hs rel node hnode => hs.2 path rel node hpath (hkeeps rel node hnode)
  exact Prog.wp_mono _ (fun s _ hs => hstates s hs) (fun _ s hs => hstates s hs)
    (states_within k h hnamed hp)

omit [LE V] [DecidableLE V] [ToString V] in
theorem keeps_of_addsData {α : Type} {w : World C B} {program : DaemonProg C F α}
    (h : program.Only (addsData env.dataRoot)) (hkeeps : Keeps path disk w) :
    Prog.wp (serve k env) (fun s _ => Keeps path disk s) (fun _ s => Keeps path disk s)
      program w :=
  Prog.wp_of_only _ (I := fun s : World C B => Keeps path disk s)
    (fun s _ hc hs => hs.of_grows (grows_of_addsData k env s hc).1) h hkeeps

/-- An action about `p` that makes no call on another directory is isolated from it. -/
theorem isolated_of_within {d : DaemonState C F B} {a : Action C} {p q : String}
    {dirs : String → Prop} {w : World C B} {program : DaemonProg C F (PackageStore F)}
    (hnamed : Named env.dataRoot d.world.volumes)
    (hbegin : begin env d a = some (w, program))
    (honly : program.Only (within env.dataRoot p dirs)) (hp : dirs (joinPath env.dataRoot p))
    (hq : ¬ dirs (joinPath env.dataRoot q)) (n : Nat) :
    Keeps (joinPath env.dataRoot q) d.world.disk (program.cut (serve k env) n w).1 := by
  rcases begin_cases env hbegin with ⟨hdisk, hnames, -⟩
  refine (Prog.forall_cut_iff _).mpr ?_ n
  refine keeps_of_within_states honly (hnames hnamed) hp hq ?_
  rw [← hdisk]
  exact fun rel node hnode => hnode

omit [LE V] [DecidableLE V] [ToString V] in
/-- Up to the data, what an upgrade keeps is what it keeps from there on. -/
theorem states_of_upgrade {w : World C B} {info : InstallInfo C F} {removeData : Bool}
    {existing : Package F} (hkeeps : Keeps path disk w) :
    Prog.wp (serve k env) (fun s _ => Keeps path disk s) (fun _ s => Keeps path disk s)
        (upgrade env.toEnv info removeData existing) w ↔
      ∀ w', (readies env info existing).eval (serve k env) w = (w', .ok ()) →
        Prog.wp (serve k env) (fun s _ => Keeps path disk s) (fun _ s => Keeps path disk s)
          (transaction
            (finishInstall info removeData (installMode env.toEnv (some existing)))) w' := by
  let mode := installMode env.toEnv (some existing)
  let w₁ := (serve k env w (.inr (.prepareUpgrade existing))).1
  have hkeeps₁ : Keeps path disk w₁ := hkeeps
  -- Placing the file only adds to the data, so it keeps every directory.
  have hplace : (transaction (placeFile info mode) : DaemonProg C F Unit).Only
      (addsData env.dataRoot) := addsData_transaction (only_placeFile info mode)
  unfold upgrade
  rw [executeInstallInner_eq, transaction_bind]
  simp only [Prog.bind_eq, Prog.wp_bind, Prog.wp_context, Prog.wp_try_, readies,
    Prog.eval_bind, Prog.eval_try_]
  rw [and_iff_right hkeeps]
  cases hprepare : (serve k env w (.inr (.prepareUpgrade existing))).2 with
  | error e =>
      refine ⟨fun _ w' h => absurd (congrArg Prod.snd h) ?_, fun _ => hkeeps₁⟩
      simp only [reduceCtorEq, not_false_eq_true]
  | ok _ =>
      simp only [Prog.branch_ok, Prog.wp_attempt, Prog.wp_bind]
      -- The states up to there are kept anyway, and the rest begins in the last of them.
      rw [Prog.wp_iff_eval]
      have hall := keeps_of_addsData (k := k) hplace hkeeps₁
      have hend := Prog.eval_of_wp _ hall
      have hstates := ((Prog.wp_iff_eval _ _ _).mp hall).1
      rw [and_iff_right hstates]
      generalize hrun : (transaction (placeFile info mode)).eval (serve k env) w₁ = run at hend ⊢
      rcases run with ⟨w', r⟩
      cases r with
      | error e => exact ⟨fun _ w'' h => absurd (congrArg Prod.snd h)
          (by simp only [reduceCtorEq, not_false_eq_true]), fun _ => hend⟩
      | ok _ =>
          constructor
          · intro h w'' hw''
            have hw : w' = w'' := congrArg Prod.fst hw''
            rw [← hw]
            exact h
          · exact fun h => h w' rfl

omit [LE V] [DecidableLE V] [ToString V] in
/-- A directory with anything in it is no place for another. -/
theorem moveDir_of_nodeAt {src dst rel : String} {node : Node B} {outcome : Except Error Unit}
    (h : disk.nodeAt dst rel = some node) :
    (moveDir disk src dst outcome).1 = disk ∧ (moveDir disk src dst outcome).2 ≠ .ok () := by
  have hfull : (disk dst).any (fun there => !there.tree.isEmpty) = true := by
    unfold Disk.nodeAt at h
    rcases Option.bind_eq_some_iff.mp h with ⟨dir, hdir, hget⟩
    rw [hdir, Option.any_some, Bool.not_eq_true', ← Bool.not_eq_true, HashMap.isEmpty_iff]
    intro hempty
    exact absurd (hget.symm.trans (hempty rel)) (Option.some_ne_none node)
  unfold moveDir
  split
  · exact ⟨rfl, by simp only [ne_eq, reduceCtorEq, not_false_eq_true]⟩
  · exact ⟨rfl, by simp only [ne_eq, reduceCtorEq, not_false_eq_true]⟩
  · rw [if_pos hfull]
    exact ⟨rfl, by simp only [ne_eq, reduceCtorEq, not_false_eq_true]⟩

omit [LE V] [DecidableLE V] [ToString V] in
/-- Setting data aside keeps what is at that place exactly if the removal that comes
    first spares all of it. Then it is in the way of the rename, and the install goes
    no further. -/
theorem states_of_setAside {w : World C B} {info : InstallInfo C F} {mode : InstallMode}
    (hmode : mode ≠ .fresh) (hnamed : Named env.dataRoot w.volumes)
    (hmeta : info.volumeMeta.packageName = info.packageName)
    (hdir : info.volumeMeta.dataDir = joinPath env.dataRoot info.packageName)
    (hkeeps : Keeps (info.volumeMeta.dataDir ++ ".old") disk w) :
    Prog.wp (serve k env) (fun s _ => Keeps (info.volumeMeta.dataDir ++ ".old") disk s)
        (fun _ s => Keeps (info.volumeMeta.dataDir ++ ".old") disk s)
        (transaction (finishInstall info true mode)) w ↔
      ∀ rel node, disk.nodeAt (info.volumeMeta.dataDir ++ ".old") rel = some node →
        (k w.calls).disk.removeDirAll ≠ .ok () ∧ (k w.calls).disk.spares rel = true := by
  let old := info.volumeMeta.dataDir ++ ".old"
  let w₁ := (serve k env w (.inl (.removeDirAll old))).1
  have hspares : Keeps old disk w₁ ↔ ∀ rel node, disk.nodeAt old rel = some node →
      (k w.calls).disk.removeDirAll ≠ .ok () ∧ (k w.calls).disk.spares rel = true := by
    refine forall_congr' fun rel => forall_congr' fun node => imp_congr_right fun hnode => ?_
    rw [nodeAt_removeDirAll, and_iff_left (hkeeps rel node hnode)]
  rw [finishInstall_eq, if_pos ⟨rfl, hmode⟩, transaction, Prog.wp_lift, ← hspares]
  simp only [backupDataDir, Prog.bind_eq, Prog.wp_bind, Prog.wp_onError, Prog.wp_ask,
    Prog.branch_ok]
  rw [and_iff_right hkeeps]
  refine ⟨fun h => h.1, fun hkeeps₁ => ⟨hkeeps₁, ?_⟩⟩
  let rename : FileCall C F (Except IoError Unit) := .renameDir info.volumeMeta.dataDir old
  let w₂ := (serve k env w₁ (.inl rename)).1
  -- Either there is nothing to keep, or what is there keeps the rename from happening.
  have hrenamed : (∀ s : World C B, Keeps old disk s) ∨
      w₂.disk = w₁.disk ∧ (serve k env w₁ (.inl rename)).2 ≠ .ok () := by
    by_cases hnone : ∀ rel node, disk.nodeAt old rel ≠ some node
    · exact Or.inl fun s rel node hnode => absurd hnode (hnone rel node)
    · simp only [ne_eq, not_forall, not_not] at hnone
      rcases hnone with ⟨rel, node, hnode⟩
      exact Or.inr (moveDir_of_nodeAt (hkeeps₁ rel node hnode))
  have hkeeps₂ : Keeps old disk w₂ := by
    rcases hrenamed with hall | ⟨hdisk, -⟩
    · exact hall w₂
    · intro rel node hnode
      rw [hdisk]
      exact hkeeps₁ rel node hnode
  have hrollback : Prog.wp (fun s c => serve k env s (.inl c))
      (fun s _ => Keeps old disk s) (fun _ s => Keeps old disk s)
      (rollbackFileOps mode info.dest : FileProg C F Unit) w₂ :=
    (Prog.wp_lift _ _ _).mp (keeps_of_addsData
      (addsData_transaction (only_rollbackFileOps mode info.dest)) hkeeps₂)
  have hfinish : ∀ backup, (backup = none ∨ ∀ s : World C B, Keeps old disk s) →
      Prog.wp (fun s c => serve k env s (.inl c)) (fun s _ => Keeps old disk s)
        (fun _ s => Keeps old disk s) (finishWith info true mode backup) w₂ := by
    rintro backup (hbackup | hall)
    · have honly : (transaction (finishWith info true mode backup)).Only
          (within env.dataRoot info.packageName fun x => x = info.volumeMeta.dataDir) :=
        only_transaction (only_finishWith rfl hmeta hdir fun backupPath hpath =>
          absurd (hbackup.symm.trans hpath).symm (Option.some_ne_none backupPath))
      have hnamed₂ : Named env.dataRoot w₂.volumes := hnamed
      exact (Prog.wp_lift _ _ _).mp (keeps_of_within_states honly hnamed₂ hdir.symm
        (append_ne_self (by decide)) hkeeps₂)
    · exact Prog.wp_of_forall _ hall _ _
  have hanswer : ∀ r, (serve k env w₁ (.inl rename)).2 = r → r = .ok () →
      ∀ s : World C B, Keeps old disk s := by
    rintro r hr rfl
    exact hrenamed.resolve_right fun h => h.2 hr
  generalize hr : (serve k env w₁ (.inl rename)).2 = r
  rcases r with (_ | e) | _
  · exact hfinish none (Or.inl rfl)
  · exact hrollback
  · exact hfinish (some old) (Or.inr (hanswer _ hr rfl))

omit [LE V] [DecidableLE V] [ToString V] in
/-- What comes before the data is touched leaves it as it is. -/
theorem data_of_readies {info : InstallInfo C F} {existing : Package F} {w w' : World C B}
    {r : Except Error Unit} (h : (readies env info existing).eval (serve k env) w = (w', r)) :
    w'.disk = w.disk ∧ w'.volumes = w.volumes := by
  have honly : (readies env info existing).Only leavesData :=
    Prog.only_bind (Prog.only_try_ trivial) fun _ => only_transaction (only_placeFile _ _)
  have heval := data_of_only k env w honly
  rw [h] at heval
  exact heval

omit [LE V] [DecidableLE V] [ToString V] in
theorem installMode_ne_fresh (existing : Package F) :
    installMode env.toEnv (some existing) ≠ .fresh := by
  rw [installMode]
  split
  · simp only [ne_eq, reduceCtorEq, not_false_eq_true]
  · simp only [ne_eq, reduceCtorEq, not_false_eq_true]

omit [LE V] [DecidableLE V] [ToString V] in
/-- An upgrade that removes data keeps what is in its way exactly if the removal that
    comes first spares it. -/
theorem states_of_upgrade_setAside {w : World C B} {info : InstallInfo C F}
    {existing : Package F} (hnamed : Named env.dataRoot w.volumes)
    (hmeta : info.volumeMeta.packageName = info.packageName)
    (hdir : info.volumeMeta.dataDir = joinPath env.dataRoot info.packageName) :
    Prog.wp (serve k env)
        (fun s _ => Keeps (joinPath env.dataRoot (info.packageName ++ ".old")) w.disk s)
        (fun _ s => Keeps (joinPath env.dataRoot (info.packageName ++ ".old")) w.disk s)
        (upgrade env.toEnv info true existing) w ↔
      ∀ w', (readies env info existing).eval (serve k env) w = (w', .ok ()) → ∀ rel node,
        w.disk.nodeAt (joinPath env.dataRoot (info.packageName ++ ".old")) rel = some node →
          (k w'.calls).disk.removeDirAll ≠ .ok () ∧ (k w'.calls).disk.spares rel = true := by
  rw [states_of_upgrade fun _ _ hnode => hnode]
  refine forall_congr' fun w' => imp_congr_right fun hready => ?_
  rcases data_of_readies hready with ⟨hdisk, hvolumes⟩
  have hnamed' : Named env.dataRoot w'.volumes := by rw [hvolumes]; exact hnamed
  rw [← joinPath_append, ← hdir]
  refine states_of_setAside (installMode_ne_fresh existing) hnamed' hmeta hdir ?_
  intro rel node hnode
  rw [hdisk]
  exact hnode

/-- An install over a package keeps what its upgrade keeps. -/
theorem states_of_install {w : World C B} {store : PackageStore F} {msg : InstallPackage C}
    {info : InstallInfo C F} {existing : Package F}
    (hplan : planInstall env.toEnv store msg = .ok (info, some existing)) :
    Prog.wp (serve k env) (fun s _ => Keeps path disk s) (fun _ s => Keeps path disk s)
        (handleInstallPackage env.toEnv store msg) w ↔
      Prog.wp (serve k env) (fun s _ => Keeps path disk s) (fun _ s => Keeps path disk s)
        (upgrade env.toEnv info msg.removeData existing) w := by
  rw [handleInstallPackage, hplan]
  refine (Prog.wp_bind_of_keeps _ _ (fun r s hkeeps => ?_) w).trans (Prog.wp_attempt _ _ _)
  rcases r with e | e | built
  · exact hkeeps
  · exact keeps_of_addsData (Prog.only_bind (only_tryRecover env _ _ _) fun _ => trivial) hkeeps
  · exact hkeeps

/-- An action keeps the data of all other packages exactly if what it clears away to
    set data aside is spared. -/
theorem isolated_iff {d : DaemonState C F B} {e : DaemonEvent C}
    (hnamed : Named env.dataRoot d.world.volumes) :
    Isolated env d e ↔ SparesNeighbour env d e := by
  rcases e with ⟨a, k, killed⟩
  cases a with
  | start quota scan bundled downloaded =>
      exact ⟨fun _ => trivial, fun _ p q hp => absurd hp.symm (Option.some_ne_none p)⟩
  | remove msg =>
      refine ⟨fun _ => trivial, fun _ p q hp hne _ _ w program hbegin => ?_⟩
      rcases Option.map_eq_some_iff.mp hbegin with ⟨store, -, hw⟩
      have hname : msg.packageName = p := Option.some.inj hp
      have honly : program.Only
          (within env.dataRoot p fun x => x = joinPath env.dataRoot p) := by
        rw [← (Prod.mk.inj hw).2, ← hname]
        exact Prog.only_bind (only_handleRemovePackage env store msg) fun _ => trivial
      exact isolated_of_within hnamed hbegin honly rfl fun h => hne (joinPath_inj h).symm
  | install msg =>
      have hbegins : ∀ store, d.store = some store → begin env d (.install msg) =
          some (d.world, do
            let handled ← handleInstallPackage env.toEnv store msg
            pure handled.1) := by
        intro store hstore
        rw [begin, hstore, Option.map_some]
      constructor
      · intro h store info existing w' hstore habout hsafe
        rcases planInstall_eq_ok habout.plan with ⟨content, hplanned⟩
        rcases volumeMetadata_eq_ok env hplanned.volume with ⟨hmeta, hdir, hpsafe⟩
        rw [← hplanned.name] at hmeta hdir hpsafe
        have hcut := h info.packageName (info.packageName ++ ".old")
          (congrArg some (packageNameOf_planned hplanned)) (append_ne_self (by decide)).symm
          hpsafe hsafe _ _ (hbegins store hstore)
        have hstates := (Prog.forall_cut_iff _).mp hcut
        rw [Prog.bind_eq, Prog.wp_bind_of_keeps _ _ (fun _ _ hs => hs),
          states_of_install habout.plan, habout.removeData,
          states_of_upgrade_setAside hnamed hmeta hdir] at hstates
        exact hstates w' habout.ready
      · intro h p q hp hne _ hqsafe w program hbegin
        have hname : packageNameOf env.toEnv msg = p := Option.some.inj hp
        cases hstore : d.store with
        | none =>
            rw [begin, hstore] at hbegin
            exact absurd hbegin.symm (Option.some_ne_none _)
        | some store =>
            have hbegun := Option.some.inj ((hbegins store hstore).symm.trans hbegin)
            rw [Prod.mk.injEq] at hbegun
            by_cases hclear : msg.removeData = true → store.get p ≠ none →
                joinPath env.dataRoot p ++ ".old" ≠ joinPath env.dataRoot q
            · -- Nothing is done but in the directories that are not the other's.
              have hown : joinPath env.dataRoot p ≠ joinPath env.dataRoot q :=
                fun h => hne (joinPath_inj h)
              have honly : program.Only
                  (within env.dataRoot p fun x => x ≠ joinPath env.dataRoot q) := by
                rw [← hbegun.2, ← hname]
                rw [← hname] at hown hclear
                exact Prog.only_bind (only_handleInstallPackage env store msg hown hclear)
                  fun _ => trivial
              exact isolated_of_within hnamed hbegin honly hown fun hq => hq rfl
            · simp only [ne_eq, not_forall, not_not] at hclear
              rcases hclear with ⟨hremove, hstored, hold⟩
              rw [joinPath_append] at hold
              rw [← hbegun.1, ← hbegun.2]
              refine (Prog.forall_cut_iff _).mpr ?_
              rw [Prog.bind_eq, Prog.wp_bind_of_keeps _ _ (fun _ _ hs => hs)]
              cases hplan : planInstall env.toEnv store msg with
              | error e =>
                  rw [handleInstallPackage, hplan]
                  exact fun _ _ hnode => hnode
              | ok plan =>
                  rcases plan with ⟨info, origPkg⟩
                  rcases planInstall_eq_ok hplan with ⟨content, hplanned⟩
                  rcases volumeMetadata_eq_ok env hplanned.volume with ⟨hmeta, hdir, -⟩
                  rw [← hplanned.name] at hmeta hdir
                  have hinfo : info.packageName = p :=
                    (packageNameOf_planned hplanned).symm.trans hname
                  cases horig : origPkg with
                  | none =>
                      rw [← hinfo, ← hplanned.orig, horig] at hstored
                      exact absurd rfl hstored
                  | some existing =>
                      rw [horig] at hplan
                      rw [states_of_install hplan, hremove, ← hold, ← hinfo,
                        states_of_upgrade_setAside hnamed hmeta hdir]
                      intro w' hready
                      refine h store info existing w' hstore ⟨hplan, hremove, hready⟩ ?_
                      rw [hinfo, joinPath_inj hold]
                      exact hqsafe

/-- In every run of the daemon, with its kills and restarts, the actions keep the data
    of all packages but their own exactly if they spare what they clear away to set
    data aside. -/
theorem data_isolated_iff (files : Files C) (disk : Disk B) (es : List (DaemonEvent C)) :
    Along (daemonStep env) (Isolated env) (stopped files disk) es ↔
      Along (daemonStep env) (SparesNeighbour env) (stopped files disk) es :=
  along_congr (fun _ _ _ => named_daemonStep) (fun _ _ => isolated_iff)
    (named_stopped env.dataRoot files disk)

/-- An upgrade of the package `a` that removes its data removes that of the package
    `a.old`. -/
theorem neighbour_lost :
    ¬ Along (daemonStep (plainDaemon fun _ => .ok ())) (Isolated (plainDaemon fun _ => .ok ()))
      (stopped (AList.insert ⟨"/d", "a.ssam"⟩ ("a", 1) ∅) (diskWith "/data/a.old"))
      [startWith "a.ssam", ⟨.install { installFrom ("a", 2) with removeData := true },
        fun _ => .fine ("", 0), none⟩] := by
  intro h
  have hisolated := ((h _ rfl).2 _ rfl).1
  have hlost := hisolated "a" "a.old" rfl (by decide) (by decide) (by decide) _ _ rfl 20 "f"
    (.file 7) rfl
  exact absurd hlost (by decide +kernel)

end Daemon

end Ssam
