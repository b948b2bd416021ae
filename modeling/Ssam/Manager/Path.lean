import Mathlib.Tactic.Basic
import Mathlib.Data.List.Basic
import Ssam.Utils

/-!
# Names of Package Files

The files the package manager handles by name: the package files themselves, the
backups it makes of them, and the temporary files it copies into.

What tells a package file from any other file of a package directory is its
extension, so everything the manager names is here with the extension it gets.
A backup has the extension `old` and a temporary file none, which keeps both of
them out of a reload unless the configured extension is `old` itself.

## Main definitions

* `Path`: A file in a directory.
* `extension`, `withExtension`: The end of a file name, read and replaced.
* `isPackageFileName`: The name ends in the extension of package files.
* `destFileName`: The name a package is installed under.
* `backupFileName`: The name an installed file is set aside under.
* `TempName`: A name for a temporary file.

## Theorems

* `extension_append`, `extension_temp`: The extensions of the names.
* `backupFileName_ne`: A backup has a name of its own.
* `isPackageFileName_dest`: A package is installed as a package file.
-/

namespace Ssam

namespace Manager

/-- A file by its directory and its name there. -/
structure Path where
  parent : String
  fileName : String
  deriving DecidableEq

/-- The path as text. -/
def Path.display (path : Path) : String := joinPath path.parent path.fileName

/-- What stands before and after the last dot, if there is a dot. -/
def rsplitDot : List Char → Option (List Char × List Char)
  | [] => none
  | c :: cs =>
      match rsplitDot cs with
      | some (before, after) => some (c :: before, after)
      | none => if c = '.' then some ([], cs) else none

/-- The extension of a file name: what follows its last dot, unless that dot
    is the first character. -/
def extension (fileName : String) : Option String :=
  match rsplitDot fileName.toList with
  | some (_ :: _, after) => some (String.ofList after)
  | _ => none

/-- The file name without its extension. -/
def fileStem (fileName : String) : String :=
  match rsplitDot fileName.toList with
  | some (c :: before, _) => String.ofList (c :: before)
  | _ => fileName

/-- The file name with another extension. -/
def withExtension (fileName ext : String) : String :=
  if ext = "" then fileStem fileName else fileStem fileName ++ "." ++ ext

/-- The name a file is set aside under before another takes its place. -/
def backupFileName (fileName : String) : String :=
  withExtension fileName ((extension fileName).getD "" ++ ".old")

/-- The name the package `name` is installed under. -/
def destFileName (packagesExt name : String) : String := name ++ "." ++ packagesExt

/-- Equality up to the case of ASCII letters. -/
def eqIgnoreAsciiCase (s t : String) : Bool := s.toList.map Char.toLower = t.toList.map Char.toLower

/-- The name ends in the extension of package files. -/
def isPackageFileName (packagesExt fileName : String) : Bool :=
  (extension fileName).any fun ext => eqIgnoreAsciiCase ext packagesExt

/-- The name of a temporary file: `.tmp` and some letters and digits. -/
structure TempName where
  random : String
  alphanumeric : random.toList.all Char.isAlphanum = true

/-- The temporary file's name. -/
def TempName.fileName (temp : TempName) : String := ".tmp" ++ temp.random

/-- The path of the backup of `path`. -/
def backupPathOf (path : Path) : Path := ⟨path.parent, backupFileName path.fileName⟩

theorem rsplitDot_eq_none {cs : List Char} : rsplitDot cs = none ↔ '.' ∉ cs := by
  induction cs with
  | nil => simp only [rsplitDot, List.not_mem_nil, not_false_eq_true]
  | cons c cs ih =>
      rw [rsplitDot, List.mem_cons, not_or, ← ih]
      cases hcs : rsplitDot cs with
      | some p => simp only [reduceCtorEq, and_false]
      | none =>
          by_cases hc : c = '.'
          · simp only [hc, if_true, reduceCtorEq, not_true_eq_false, false_and]
          · simp only [if_neg hc, and_true, true_iff]
            exact fun h => hc h.symm

/-- The last dot of a text is the one no dot follows. -/
theorem rsplitDot_append {before after : List Char} (h : '.' ∉ after) :
    rsplitDot (before ++ '.' :: after) = some (before, after) := by
  induction before with
  | nil => rw [List.nil_append, rsplitDot, rsplitDot_eq_none.mpr h]; rfl
  | cons c cs ih => rw [List.cons_append, rsplitDot, ih]

theorem eq_of_rsplitDot {cs before after : List Char} (h : rsplitDot cs = some (before, after)) :
    cs = before ++ '.' :: after ∧ '.' ∉ after := by
  induction cs generalizing before after with
  | nil => exact absurd h (by simp only [rsplitDot, reduceCtorEq, not_false_eq_true])
  | cons c cs ih =>
      rw [rsplitDot] at h
      split at h
      · next before' after' hcs =>
          rcases ih hcs with ⟨htext, hdot⟩
          simp only [Option.some.injEq, Prod.mk.injEq] at h
          rw [← h.1, ← h.2, htext]
          exact ⟨rfl, hdot⟩
      · next hcs =>
          split at h
          · next hc =>
              simp only [Option.some.injEq, Prod.mk.injEq] at h
              rw [← h.1, ← h.2, hc]
              exact ⟨rfl, rsplitDot_eq_none.mp hcs⟩
          · exact absurd h (by simp only [reduceCtorEq, not_false_eq_true])

/-- A name that ends in a dot and a text without one has that text as its
    extension, if anything precedes the dot. -/
theorem extension_append {stem ext : String} (hstem : stem ≠ "") (hext : '.' ∉ ext.toList) :
    extension (stem ++ "." ++ ext) = some ext := by
  have hlist : (stem ++ "." ++ ext).toList = stem.toList ++ '.' :: ext.toList := by
    rw [String.toList_append, String.toList_append, List.append_assoc]
    rfl
  have hne : stem.toList ≠ [] := fun h => hstem (String.toList_eq_nil_iff.mp h)
  rw [extension, hlist, rsplitDot_append hext]
  cases hcs : stem.toList with
  | nil => exact absurd hcs hne
  | cons c cs => simp only [String.ofList_toList]

/-- No extension contains a dot. -/
theorem not_mem_of_extension {fileName ext : String} (h : extension fileName = some ext) :
    '.' ∉ ext.toList := by
  rw [extension] at h
  split at h
  · next c before after hsplit =>
      rw [← Option.some.inj h, String.toList_ofList]
      exact (eq_of_rsplitDot hsplit).2
  · exact absurd h (by simp only [reduceCtorEq, not_false_eq_true])

/-- Without its extension a name is what precedes the dot. -/
theorem fileName_eq_of_extension {fileName ext : String} (h : extension fileName = some ext) :
    fileName = fileStem fileName ++ "." ++ ext ∧ fileStem fileName ≠ "" := by
  rw [extension] at h
  split at h
  · next c before after hsplit =>
      have hext := Option.some.inj h
      rw [fileStem, hsplit, ← hext]
      refine ⟨?_, fun hnil => ?_⟩
      · apply String.toList_injective
        rw [(eq_of_rsplitDot hsplit).1]
        simp only [String.toList_append, String.toList_ofList, List.append_assoc]
        rfl
      · have := congrArg String.toList hnil
        simp only [String.toList_ofList, String.toList_empty, reduceCtorEq] at this
  · exact absurd h (by simp only [reduceCtorEq, not_false_eq_true])

/-- A name without an extension is its own stem. -/
theorem fileStem_eq_self {fileName : String} (h : extension fileName = none) :
    fileStem fileName = fileName := by
  rw [extension] at h
  unfold fileStem
  split at h
  · exact absurd h (by simp only [reduceCtorEq, not_false_eq_true])
  · rfl

/-- A backup is named by what it is a backup of, and more. -/
theorem backupFileName_eq (fileName : String) :
    backupFileName fileName = fileName ++ ".old" ∨
      backupFileName fileName = fileName ++ "..old" := by
  have hne : ∀ ext : String, ext ++ ".old" ≠ "" := by
    intro ext h
    rw [String.append_eq_empty_iff] at h
    exact absurd h.2 (by decide)
  rw [backupFileName, withExtension, if_neg (hne _)]
  cases hext : extension fileName with
  | none =>
      right
      rw [fileStem_eq_self hext, String.append_assoc]
      rfl
  | some ext =>
      left
      have hname := (fileName_eq_of_extension hext).1
      rw [Option.getD_some, ← String.append_assoc, ← hname]

/-- A backup is another file than what it is a backup of. -/
theorem backupFileName_ne (fileName : String) : backupFileName fileName ≠ fileName := by
  intro h
  have hlen := congrArg String.length h
  rcases backupFileName_eq fileName with heq | heq
  · rw [heq, String.length_append] at hlen
    exact absurd hlen (by have : String.length ".old" = 4 := rfl; omega)
  · rw [heq, String.length_append] at hlen
    exact absurd hlen (by have : String.length "..old" = 5 := rfl; omega)

theorem backupPathOf_ne (path : Path) : backupPathOf path ≠ path :=
  fun h => backupFileName_ne path.fileName (congrArg Path.fileName h)

/-- A temporary file has no extension. -/
theorem extension_temp (temp : TempName) : extension temp.fileName = none := by
  have hdot : '.' ∉ 't' :: 'm' :: 'p' :: temp.random.toList := by
    intro h
    simp only [List.mem_cons] at h
    rcases h with h | h | h | h
    · exact absurd h (by decide)
    · exact absurd h (by decide)
    · exact absurd h (by decide)
    · exact absurd (List.all_eq_true.mp temp.alphanumeric '.' h) (by decide)
  have hlist : temp.fileName.toList = [] ++ '.' :: 't' :: 'm' :: 'p' :: temp.random.toList := by
    rw [TempName.fileName, String.toList_append]; rfl
  rw [extension, hlist, rsplitDot_append hdot]

/-- Temporary files are no package files. -/
@[simp] theorem isPackageFileName_temp (packagesExt : String) (temp : TempName) :
    isPackageFileName packagesExt temp.fileName = false := by
  rw [isPackageFileName, extension_temp]; rfl

/-- Changing the case of letters neither makes a dot nor removes one. -/
theorem toLower_eq_dot {c : Char} (h : c.toLower = '.') : c = '.' := by
  by_contra hne
  unfold Char.toLower at h
  split at h
  · next hupper =>
      have hval : (c.val + 32).toNat = 46 := congrArg (fun c => c.val.toNat) h
      have hle : 65 ≤ c.val.toNat := hupper.1
      have hge : c.val.toNat ≤ 90 := hupper.2
      rw [UInt32.toNat_add] at hval
      have h32 : UInt32.toNat 32 = 32 := rfl
      omega
  · exact hne h

theorem eqIgnoreAsciiCase_refl (s : String) : eqIgnoreAsciiCase s s = true :=
  decide_eq_true rfl

/-- Where some name ends in the extension of package files, a package is
    installed under a name that does. -/
theorem isPackageFileName_dest {packagesExt fileName name : String}
    (h : isPackageFileName packagesExt fileName = true) (hname : name ≠ "") :
    isPackageFileName packagesExt (destFileName packagesExt name) = true := by
  have hdot : '.' ∉ packagesExt.toList := by
    rw [isPackageFileName, Option.any_eq_true] at h
    rcases h with ⟨ext, hext, heq⟩
    have hmap := of_decide_eq_true heq
    intro hmem
    have hmem' : ('.' : Char).toLower ∈ packagesExt.toList.map Char.toLower :=
      List.mem_map_of_mem hmem
    rw [← hmap, List.mem_map] at hmem'
    rcases hmem' with ⟨c, hc, hlower⟩
    rw [toLower_eq_dot hlower] at hc
    exact not_mem_of_extension hext hc
  rw [isPackageFileName, destFileName, extension_append hname hdot]
  exact eqIgnoreAsciiCase_refl packagesExt

end Manager

end Ssam
