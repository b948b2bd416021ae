import Ssam.Lib.Calls
import Ssam.Lib.Escape
import Ssam.Mount.Pkgfs

/-!
# The Options of an Overlay

What the kernel makes of the option string an overlay is mounted with. The string is
split at the commas, an option is a key and a value, and the lower directories are
split once more, at the colons. A backslash takes the character after it for itself in
both splittings, and is taken away at the end.

Only the lower directory is escaped. The two others are given as they are, which is
right as long as no root has a comma or a backslash in it: a package name has neither.

## Main definitions

* `replaceChar`: A character of a text replaced wherever it stands.
* `OverlayDirs`, `parseOverlayOptions`: The directories an option string names.
* `Mounts`: The call mounts an overlay over the directories it should.

## Theorems

* `escapeOverlayOpt_eq_replace`: Three replacements are one escaping.
* `parseOverlayOptions_build`: The string is read back as what it was made of.
* `mountOverlayfs_parses`: The mounting of an overlay.
-/

namespace Ssam

namespace Mount

open Lib

/-- The text with every `c` replaced by `new`. -/
def replaceChar (c : Char) (new s : List Char) : List Char :=
  s.flatMap fun d => if d = c then new else [d]

/-- The directories an option string names. -/
structure OverlayDirs where
  lowerdir : List String
  upperdir : Option String
  workdir : Option String
  deriving DecidableEq

/-- Take an option into account. An option with another key is an error. -/
def parseOverlayOption (dirs : OverlayDirs) (opt : List Char) : Option OverlayDirs :=
  let key := opt.takeWhile (· ≠ '=')
  let value := (opt.dropWhile (· ≠ '=')).drop 1
  let path := fun s => String.ofList (unescape '\\' s)
  if key = "lowerdir".toList then
    some { dirs with lowerdir := (splitUnescaped '\\' ':' value).map path }
  else if key = "upperdir".toList then some { dirs with upperdir := some (path value) }
  else if key = "workdir".toList then some { dirs with workdir := some (path value) }
  else none

/-- The directories the kernel reads from an option string. -/
def parseOverlayOptions (options : String) : Option OverlayDirs :=
  (splitUnescaped '\\' ',' options.toList).foldlM parseOverlayOption ⟨[], none, none⟩

/-- What is mounted is an overlay, with these options. Other calls are of no matter. -/
def Mounts (options : String) {β : Type} : Syscall β → Prop
  | .mount layer _ _ data => layer = .overlay ∧ data = some options
  | _ => True

/-- Neither a comma nor a backslash. -/
def Unquoted (s : String) : Prop := ',' ∉ s.toList ∧ '\\' ∉ s.toList

section Escape

/-- The characters that are escaped in a lower directory. -/
def overlaySpecial : List Char := ['\\', ',', ':']

theorem toList_escapeOverlayOpt (path : String) :
    (escapeOverlayOpt path).toList = escape '\\' overlaySpecial path.toList := by
  rw [escapeOverlayOpt, String.toList_ofList, escape]
  refine congrArg (List.flatMap · path.toList) (funext fun c => ?_)
  simp only [overlaySpecial, List.mem_cons, List.not_mem_nil, or_false]

/-- The backslashes go first, or those in front of the other two would be doubled. -/
theorem escapeOverlayOpt_eq_replace (path : String) :
    (escapeOverlayOpt path).toList =
      replaceChar ':' ['\\', ':'] (replaceChar ',' ['\\', ',']
        (replaceChar '\\' ['\\', '\\'] path.toList)) := by
  rw [toList_escapeOverlayOpt, escape, replaceChar, replaceChar, replaceChar,
    List.flatMap_assoc, List.flatMap_assoc]
  refine congrArg (List.flatMap · path.toList) (funext fun c => ?_)
  by_cases hback : c = '\\'
  · subst hback
    decide
  · by_cases hcomma : c = ','
    · subst hcomma
      decide
    · by_cases hcolon : c = ':'
      · subst hcolon
        decide
      · simp [overlaySpecial, hback, hcomma, hcolon]

theorem unescape_escapeOverlayOpt (path : String) :
    String.ofList (unescape '\\' (escapeOverlayOpt path).toList) = path := by
  rw [toList_escapeOverlayOpt, unescape_escape (by decide), String.ofList_toList]

end Escape

section Paths

/-- The characters of a path put together of two. -/
theorem mem_joinPath {root name : String} {c : Char} (h : c ∈ (joinPath root name).toList) :
    c ∈ root.toList ∨ c = '/' ∨ c ∈ name.toList := by
  unfold joinPath at h
  split at h
  · rw [String.toList_append, List.mem_append] at h
    exact h.imp_right Or.inr
  · rw [String.toList_append, String.toList_append, List.mem_append, List.mem_append] at h
    rcases h with (h | h) | h
    · exact Or.inl h
    · exact Or.inr (Or.inl (List.mem_singleton.mp h))
    · exact Or.inr (Or.inr h)

theorem Unquoted.joinPath {root name : String} (hroot : Unquoted root) (hname : Unquoted name) :
    Unquoted (joinPath root name) := by
  constructor
  · intro h
    rcases mem_joinPath h with h | h | h
    · exact hroot.1 h
    · exact absurd h (by decide)
    · exact hname.1 h
  · intro h
    rcases mem_joinPath h with h | h | h
    · exact hroot.2 h
    · exact absurd h (by decide)
    · exact hname.2 h

/-- The check on names is what keeps them from being quoted. -/
theorem unquoted_of_isSafePathSegment {name : String} (h : isSafePathSegment name = true) :
    Unquoted name := by
  -- Commas and backslashes are among the four characters a name may not have.
  simp only [isSafePathSegment, Bool.and_eq_true, Bool.not_eq_true', List.any_eq_false] at h
  constructor
  · exact fun hc => h.1.2 ',' hc (by decide)
  · exact fun hc => h.1.2 '\\' hc (by decide)

end Paths

section Options

/-- A key, an `=` and a value are one piece if the value is. -/
theorem whole_option {key : List Char} (hkey : Whole '\\' ',' (key ++ ['='])) {value : List Char}
    (hvalue : Whole '\\' ',' value) : Whole '\\' ',' (key ++ '=' :: value) := by
  have h := hkey.append hvalue
  rw [List.append_assoc] at h
  exact h

/-- What stands before and after the first `=`. -/
theorem takeWhile_option (key : List Char) (hkey : '=' ∉ key) (value : List Char) :
    (key ++ '=' :: value).takeWhile (· ≠ '=') = key ∧
      ((key ++ '=' :: value).dropWhile (· ≠ '=')).drop 1 = value := by
  have hall : ∀ c ∈ key, decide (c ≠ '=') = true := fun c hc =>
    decide_eq_true fun h => hkey (h ▸ hc)
  rw [List.takeWhile_append_of_pos hall, List.dropWhile_append_of_pos hall]
  exact ⟨List.append_nil key, rfl⟩

theorem parseOverlayOption_lowerdir (dirs : OverlayDirs) (path : String) :
    parseOverlayOption dirs ("lowerdir".toList ++ '=' :: (escapeOverlayOpt path).toList) =
      some { dirs with lowerdir := [path] } := by
  have h := takeWhile_option "lowerdir".toList (by decide) (escapeOverlayOpt path).toList
  -- The escaped path is a single lower directory, and unescaped it is the path.
  have hwhole : Whole '\\' ':' (escapeOverlayOpt path).toList := by
    rw [toList_escapeOverlayOpt]
    exact whole_escape (by decide) (by decide) _
  simp only [parseOverlayOption, h.1, h.2, if_true, splitUnescaped_whole hwhole, List.map_cons,
    List.map_nil, unescape_escapeOverlayOpt]

theorem parseOverlayOption_upperdir (dirs : OverlayDirs) {path : String} (hpath : Unquoted path) :
    parseOverlayOption dirs ("upperdir".toList ++ '=' :: path.toList) =
      some { dirs with upperdir := some path } := by
  have h := takeWhile_option "upperdir".toList (by decide) path.toList
  have hne : ¬ "upperdir".toList = "lowerdir".toList := by decide
  simp only [parseOverlayOption, h.1, h.2, if_neg hne, if_true, unescape_of_not_mem hpath.2,
    String.ofList_toList]

theorem parseOverlayOption_workdir (dirs : OverlayDirs) {path : String} (hpath : Unquoted path) :
    parseOverlayOption dirs ("workdir".toList ++ '=' :: path.toList) =
      some { dirs with workdir := some path } := by
  have h := takeWhile_option "workdir".toList (by decide) path.toList
  have hlower : ¬ "workdir".toList = "lowerdir".toList := by decide
  have hupper : ¬ "workdir".toList = "upperdir".toList := by decide
  simp only [parseOverlayOption, h.1, h.2, if_neg hlower, if_neg hupper, if_true,
    unescape_of_not_mem hpath.2, String.ofList_toList]

/-- The three options of the string, with commas between them. -/
theorem toList_buildOverlayOptions (lowerdir upperdir workdir : String) :
    (buildOverlayOptions lowerdir upperdir workdir).toList =
      ("lowerdir".toList ++ '=' :: (escapeOverlayOpt lowerdir).toList) ++ ',' ::
        (("upperdir".toList ++ '=' :: upperdir.toList) ++ ',' ::
          ("workdir".toList ++ '=' :: workdir.toList)) := by
  have hlower : "lowerdir=".toList = "lowerdir".toList ++ ['='] := by decide
  have hupper : ",upperdir=".toList = ',' :: ("upperdir".toList ++ ['=']) := by decide
  have hwork : ",workdir=".toList = ',' :: ("workdir".toList ++ ['=']) := by decide
  have hbuild : buildOverlayOptions lowerdir upperdir workdir =
      "lowerdir=" ++ escapeOverlayOpt lowerdir ++ ",upperdir=" ++ upperdir ++ ",workdir=" ++
        workdir := rfl
  rw [hbuild]
  simp only [String.toList_append, hlower, hupper, hwork, List.append_assoc, List.cons_append,
    List.nil_append]

/-- The option string is read back as the directories it was made of. -/
theorem parseOverlayOptions_build (lowerdir : String) {upperdir workdir : String}
    (hupper : Unquoted upperdir) (hwork : Unquoted workdir) :
    parseOverlayOptions (buildOverlayOptions lowerdir upperdir workdir) =
      some ⟨[lowerdir], some upperdir, some workdir⟩ := by
  -- Each option is one piece: escaped, or free of commas and backslashes anyway.
  have hwhole (path : String) (h : Unquoted path) : Whole '\\' ',' path.toList :=
    whole_of_not_mem h.2 h.1
  have hlower :
      Whole '\\' ',' ("lowerdir".toList ++ '=' :: (escapeOverlayOpt lowerdir).toList) := by
    refine whole_option (whole_of_not_mem (by decide) (by decide)) ?_
    rw [toList_escapeOverlayOpt]
    exact whole_escape (by decide) (by decide) _
  have hup : Whole '\\' ',' ("upperdir".toList ++ '=' :: upperdir.toList) :=
    whole_option (whole_of_not_mem (by decide) (by decide)) (hwhole _ hupper)
  have hwk : Whole '\\' ',' ("workdir".toList ++ '=' :: workdir.toList) :=
    whole_option (whole_of_not_mem (by decide) (by decide)) (hwhole _ hwork)
  have hsplit : splitUnescaped '\\' ',' (buildOverlayOptions lowerdir upperdir workdir).toList =
      ["lowerdir".toList ++ '=' :: (escapeOverlayOpt lowerdir).toList,
        "upperdir".toList ++ '=' :: upperdir.toList,
        "workdir".toList ++ '=' :: workdir.toList] := by
    rw [toList_buildOverlayOptions, splitUnescaped_append (by decide) hlower,
      splitUnescaped_append (by decide) hup, splitUnescaped_whole hwk]
  rw [parseOverlayOptions, hsplit]
  simp only [List.foldlM_cons, List.foldlM_nil, parseOverlayOption_lowerdir,
    parseOverlayOption_upperdir _ hupper, parseOverlayOption_workdir _ hwork, Option.bind_eq_bind,
    Option.bind_some]
  rfl

end Options

section Mounting

variable {cfg : MountConfig} {packageName : String}

/-- The directories of an overlay lie in the root for overlays. -/
theorem unquoted_packageOverlayfsRoot (hroot : Unquoted cfg.packagesOverlayfsRoot)
    (hname : isSafePathSegment packageName = true) :
    Unquoted (packageOverlayfsRoot cfg packageName) := by
  unfold packageOverlayfsRoot
  split
  · constructor <;> decide
  · exact hroot.joinPath (unquoted_of_isSafePathSegment hname)

/-- The options of the overlay of a package. -/
def overlayOptions (pkgfs : PackageFsMetadata cfg) : String :=
  buildOverlayOptions pkgfs.mountPoint (joinPath pkgfs.overlayfsRoot "upper")
    (joinPath pkgfs.overlayfsRoot "work")

/-- Every mount an overlay is mounted with passes the same options. -/
theorem mountOverlayfs_only (pkgfs : PackageFsMetadata cfg) :
    (mountOverlayfs pkgfs).Only (Mounts (overlayOptions pkgfs)) := by
  have hdirs (dir : MountDir) (shown : String) {options : String} :
      (makeDirs dir shown).Only (Mounts options) := Prog.only_context (Prog.only_try_ trivial)
  refine Prog.only_bind (hdirs _ _) fun _ => Prog.only_bind (hdirs _ _) fun _ => ?_
  have hmount {source fstype : String} {options : String} :
      (Prog.try_ (Syscall.mount .overlay source fstype (some options))).Only (Mounts options) :=
    Prog.only_try_ ⟨rfl, rfl⟩
  refine Prog.only_bind (Prog.only_ask trivial) fun present => ?_
  cases present with
  | true => exact Prog.only_context hmount
  | false => exact Prog.only_bind (hdirs _ _) fun _ => Prog.only_context hmount

/-- A package with an accepted name is given its directories. -/
theorem packageFsMetadata_new_ok (cfg : MountConfig) (path : String)
    (hname : isSafePathSegment packageName = true)
    (fstype : String) (extent : Nat × Nat) :
    ∃ pkgfs, PackageFsMetadata.new cfg path packageName (.ok ⟨fstype, some extent⟩) = .ok pkgfs ∧
      pkgfs.mountPoint = joinPath cfg.packagesMntRoot packageName ∧
      pkgfs.overlayfsRoot = packageOverlayfsRoot cfg packageName := by
  exact ⟨_, ensure_bind_eq_ok.mpr ⟨hname, rfl⟩, rfl, rfl⟩

/-- The kernel mounts the overlay of a package over its mount point alone, with the
    two directories in the root for overlays. Only that root has to be free of commas
    and backslashes: the mount point is escaped. -/
theorem mountOverlayfs_parses (path : String) (hname : isSafePathSegment packageName = true)
    (fstype : String) (extent : Nat × Nat) (henabled : cfg.overlayEnabled = true)
    (hroot : Unquoted cfg.packagesOverlayfsRoot) :
    (∃ pkgfs, PackageFsMetadata.new cfg path packageName (.ok ⟨fstype, some extent⟩) = .ok pkgfs ∧
      (mountOverlayfs pkgfs).Only (Mounts (overlayOptions pkgfs)) ∧
      parseOverlayOptions (overlayOptions pkgfs) = some {
        lowerdir := [joinPath cfg.packagesMntRoot packageName]
        upperdir := joinPath (joinPath cfg.packagesOverlayfsRoot packageName) "upper"
        workdir := joinPath (joinPath cfg.packagesOverlayfsRoot packageName) "work" }) ∧
    Function.Injective escapeOverlayOpt ∧
    ∀ s, String.ofList (unescape '\\' (escapeOverlayOpt s).toList) = s := by
  have hleft : Function.LeftInverse (fun s => String.ofList (unescape '\\' s.toList))
      escapeOverlayOpt := unescape_escapeOverlayOpt
  refine ⟨?_, hleft.injective, unescape_escapeOverlayOpt⟩
  rcases packageFsMetadata_new_ok cfg path hname fstype extent with
    ⟨pkgfs, hnew, hmount, hover⟩
  refine ⟨pkgfs, hnew, mountOverlayfs_only pkgfs, ?_⟩
  have hquoted : Unquoted pkgfs.overlayfsRoot := by
    rw [hover]
    exact unquoted_packageOverlayfsRoot hroot hname
  have hne : ¬ cfg.packagesOverlayfsRoot = "" := of_decide_eq_true henabled
  -- The two directories are one component below the package's own.
  rw [overlayOptions, parseOverlayOptions_build _ (hquoted.joinPath (by constructor <;> decide))
    (hquoted.joinPath (by constructor <;> decide)), hmount, hover, packageOverlayfsRoot, if_neg hne]

/-- A name with a colon in it, below a root with one. -/
theorem mountOverlayfs_parses_colon :
    ∃ (cfg : MountConfig) (name : String), isSafePathSegment name = true ∧
      cfg.overlayEnabled = true ∧ Unquoted cfg.packagesOverlayfsRoot ∧
      ∃ pkgfs,
        PackageFsMetadata.new cfg "/packages/a" name (.ok ⟨"ext4", some (0, 1)⟩) = .ok pkgfs ∧
        (mountOverlayfs pkgfs).Only (Mounts (overlayOptions pkgfs)) ∧
        parseOverlayOptions (overlayOptions pkgfs) = some {
          lowerdir := [joinPath cfg.packagesMntRoot name]
          upperdir := joinPath (joinPath cfg.packagesOverlayfsRoot name) "upper"
          workdir := joinPath (joinPath cfg.packagesOverlayfsRoot name) "work" } := by
  refine ⟨⟨"/over:lay", "/mnt,a"⟩, "a:b", by decide, by decide, ⟨by decide, by decide⟩, ?_⟩
  exact (mountOverlayfs_parses "/packages/a" (by decide) "ext4" (0, 1) (by decide)
    ⟨by decide, by decide⟩).1

end Mounting

end Mount

end Ssam
