import Ssam.Lib.Utf8
import Ssam.Oci.Bundle
import Ssam.ProcMacros.Lines

/-!
# The Listing of AppArmor Profiles

The kernel lists the profiles it has loaded in a file, one on a line: the name, and the
mode in parentheses behind it. The name may have parentheses and blanks in it as well, so
a line is cut at the last blank with a parenthesis behind it.

The mode is cut out by byte positions, and the last byte of the line is left out without
a look at it. In a line of the kernel this is the parenthesis. In any other line it can
be the last byte of a longer character, and then the daemon panics.

## Main definitions

* `Profile`, `ProfileMode`: A profile, and what it does about violations.
* `parseProfiles`: The profiles of a listing.
* `getProfiles`, `getProfile`: The profiles of the host, and one of them.
* `listing`: The listing of the kernel.

## Theorems

* `parseProfile_isSome_iff`: The lines that are cut between two characters.
* `parseProfiles_listing`: What is read from a listing of the kernel.
* `parse_profiles_iff`: The two together.
* `buildApparmorProfile_listing`: The profile a container gets.
-/

namespace Ssam

namespace Oci

open Lib Lib.Utf8 ProcMacros

/-- What is done about a violation of a profile. -/
inductive ProfileMode where
  | enforce
  | complain
  | kill
  | unconfined
  | unknown (s : String)
  deriving DecidableEq

def ProfileMode.ofString (s : String) : ProfileMode :=
  if s = "enforce" then .enforce
  else if s = "complain" then .complain
  else if s = "kill" then .kill
  else if s = "unconfined" then .unconfined
  else .unknown s

structure Profile where
  name : String
  mode : ProfileMode
  deriving DecidableEq

/-- What stands between a name and its mode. -/
def modeSeparator : List Char := [' ', '(']

/-- The profile of a line, if there is one. Nothing if the line is cut inside a character,
    which panics. -/
def parseProfile (line : List Char) : Option (Option Profile) :=
  match rfind modeSeparator line with
  | none => some none
  | some idx =>
      -- The separator is in the line, so its length is not too small for the subtraction.
      if idx + 2 ≥ byteLen line - 1 then some none
      else do
        let name ← slice 0 idx line
        let modeStr ← slice (idx + 2) (byteLen line - 1) line
        some (some ⟨String.ofList name, .ofString (String.ofList modeStr)⟩)

/-- The profiles of a listing. Nothing if a line of it panics. -/
def parseProfiles (content : String) : Option (List Profile) :=
  ((lines content).mapM parseProfile).map fun profiles => profiles.filterMap id

/-- What the host answers when it is asked for its profiles. -/
structure ProfilesHost where
  findMountpoint : Except Error (Option String)
  /-- There is a file of profiles below the mount point. -/
  profilesExist : Bool
  readToString : Except Error String

def getProfiles (host : ProfilesHost) : Option (Except Error (List Profile)) :=
  match host.findMountpoint with
  | .error e => some (.error e)
  | .ok none => some (.ok [])
  | .ok (some _) =>
      if host.profilesExist then
        match host.readToString with
        | .error e => some (.error e)
        | .ok content => (parseProfiles content).map .ok
      else some (.ok [])

/-- The first profile with the name. -/
def getProfile (host : ProfilesHost) (name : String) : Option (Except Error (Option Profile)) :=
  (getProfiles host).map fun profiles => profiles.map fun ps => ps.find? fun p => p.name = name

/-- The line of a profile. -/
def profileLine (profile : String × String) : List Char :=
  profile.1.toList ++ modeSeparator ++ profile.2.toList ++ [')']

/-- The listing of profiles, each with its name and its mode. -/
def listing (profiles : List (String × String)) : String :=
  String.ofList (profiles.flatMap fun profile => profileLine profile ++ ['\n'])

/-- A profile the kernel can list on a line of its own. -/
structure Listable (profile : String × String) : Prop where
  feed_notMem_name : '\n' ∉ profile.1.toList
  feed_notMem_mode : '\n' ∉ profile.2.toList
  mode_ne_empty : profile.2 ≠ ""
  separator_mode : ¬ modeSeparator <:+: profile.2.toList

/-- The host lists these profiles. -/
structure ProfilesHost.Lists (host : ProfilesHost) (profiles : List (String × String)) : Prop where
  mounted : ∃ mountpoint, host.findMountpoint = .ok (some mountpoint)
  profilesExist : host.profilesExist = true
  readToString : host.readToString = .ok (listing profiles)
  listable : ∀ profile ∈ profiles, Listable profile

/-- What a bundle asks its host is whether `getProfile` finds a profile. -/
def AsksListing (host : BundleHost) (profilesHost : ProfilesHost) : Prop :=
  ∀ name, (getProfile profilesHost name).map (fun found => found.map Option.isSome) =
    some (host.apparmorProfile name)

section Line

/-- No separator begins behind the last one. -/
theorem separator_not_infix {mode : List Char} (h : ¬ modeSeparator <:+: mode) :
    ¬ modeSeparator <:+: '(' :: (mode ++ [')']) := by
  intro hin
  rw [List.infix_cons_iff] at hin
  rcases hin with hprefix | ⟨before, after, heq⟩
  · exact absurd (List.cons_prefix_cons.mp hprefix).1 (by decide)
  · -- The parenthesis at the end is no part of a separator.
    rcases List.eq_nil_or_concat after with rfl | ⟨after', last, rfl⟩
    · have hlast := congrArg List.getLast? heq
      simp [modeSeparator] at hlast
    · rw [List.concat_eq_append, ← List.append_assoc] at heq
      exact h ⟨before, after', (List.append_inj' heq rfl).1⟩

@[simp]
theorem byteLen_modeSeparator : byteLen modeSeparator = 2 := rfl

/-- A separator with less than two bytes behind it makes no profile. -/
theorem parseProfile_short {name rest : List Char}
    (hfind : rfind modeSeparator (name ++ modeSeparator ++ rest) = some (byteLen name))
    (hrest : byteLen rest ≤ 1) :
    parseProfile (name ++ modeSeparator ++ rest) = some none := by
  have hge : byteLen name + 2 ≥ byteLen (name ++ modeSeparator ++ rest) - 1 := by
    rw [byteLen_append, byteLen_append, byteLen_modeSeparator]
    omega
  simp only [parseProfile, hfind, if_pos hge]

/-- The mode is what lies before the last character, and this has to be a single byte. -/
theorem parseProfile_cut {name mode : List Char} {last : Char}
    (hfind : rfind modeSeparator (name ++ modeSeparator ++ (mode ++ [last])) = some (byteLen name))
    (hmode : 1 < byteLen (mode ++ [last])) :
    parseProfile (name ++ modeSeparator ++ (mode ++ [last])) =
      if last.utf8Size = 1 then
        some (some ⟨String.ofList name, .ofString (String.ofList mode)⟩)
      else none := by
  have hlt : ¬ byteLen name + 2 ≥ byteLen (name ++ modeSeparator ++ (mode ++ [last])) - 1 := by
    rw [byteLen_append, byteLen_append, byteLen_modeSeparator]
    omega
  have hname : slice 0 (byteLen name) (name ++ modeSeparator ++ (mode ++ [last])) = some name := by
    rw [List.append_assoc]
    exact slice_zero_append _ _
  have hline : name ++ modeSeparator ++ (mode ++ [last]) =
      name ++ modeSeparator ++ mode ++ [last] := (List.append_assoc _ _ _).symm
  have hlen : byteLen (name ++ modeSeparator ++ (mode ++ [last])) =
      byteLen (name ++ modeSeparator ++ mode) + last.utf8Size := by
    rw [hline, byteLen_append]
    rfl
  have hmodeStr : slice (byteLen name + 2) (byteLen (name ++ modeSeparator ++ (mode ++ [last])) - 1)
      (name ++ modeSeparator ++ (mode ++ [last])) =
        if last.utf8Size = 1 then some mode else none := by
    rw [hlen, hline]
    split
    · rename_i hone
      rw [hone, Nat.add_sub_cancel, ← byteLen_modeSeparator, ← byteLen_append]
      exact slice_append _ _ _
    · rename_i hone
      have hinside := mt (splitAtByte_concat_iff (name ++ modeSeparator ++ mode) last).mp hone
      rw [slice, Option.not_isSome_iff_eq_none.mp hinside]
      rfl
  simp only [parseProfile, hfind, if_neg hlt, hname, hmodeStr, Option.bind_eq_bind,
    Option.bind_some]
  split
  · rfl
  · rfl

/-- A line with the parenthesis at its end, and something before it. -/
theorem parseProfile_profileLine {profile : String × String} (h : Listable profile) :
    parseProfile (profileLine profile) = some (some ⟨profile.1, .ofString profile.2⟩) := by
  have hfind : rfind modeSeparator
      (profile.1.toList ++ modeSeparator ++ (profile.2.toList ++ [')'])) =
        some (byteLen profile.1.toList) := by
    have hbehind := separator_not_infix h.separator_mode
    exact rfind_append hbehind _
  have hmode : byteLen profile.2.toList ≠ 0 := fun hzero =>
    h.mode_ne_empty (String.toList_eq_nil_iff.mp (byteLen_eq_zero.mp hzero))
  have hlong : 1 < byteLen (profile.2.toList ++ [')']) := by
    have hparen : byteLen [')'] = 1 := rfl
    rw [byteLen_append, hparen]
    omega
  rw [profileLine, List.append_assoc, parseProfile_cut hfind hlong, String.ofList_toList,
    String.ofList_toList]
  exact if_pos rfl

/-- A line does not panic where it has no separator, or ends in a character of one byte. -/
theorem parseProfile_isSome_iff (line : List Char) :
    (parseProfile line).isSome ↔
      (modeSeparator <:+: line → ∀ c ∈ line.getLast?, c.utf8Size = 1) := by
  cases hfind : rfind modeSeparator line with
  | none => simp [parseProfile, hfind, rfind_eq_none_iff.mp hfind]
  | some idx =>
      rcases rfind_eq_some hfind with ⟨name, rest, rfl, rfl⟩
      have hin : modeSeparator <:+: name ++ modeSeparator ++ rest := ⟨name, rest, rfl⟩
      rcases List.eq_nil_or_concat rest with rfl | ⟨mode, last, rfl⟩
      · -- The line ends in the separator.
        rw [parseProfile_short hfind (Nat.zero_le 1), List.append_nil]
        have hlast : (name ++ modeSeparator).getLast? = some '(' :=
          List.getLast?_append_of_ne_nil _ (List.cons_ne_nil _ _)
        simp only [hlast, Option.mem_some_iff, forall_eq', Option.isSome_some, true_iff]
        exact fun _ => rfl
      · rw [List.concat_eq_append] at hfind hin ⊢
        have hlast : (name ++ modeSeparator ++ (mode ++ [last])).getLast? = some last := by
          rw [← List.append_assoc, List.getLast?_concat]
        simp only [hin, hlast, Option.mem_some_iff, forall_eq', true_imp_iff]
        by_cases hshort : byteLen (mode ++ [last]) ≤ 1
        · have hpos := Char.utf8Size_pos last
          rw [parseProfile_short hfind hshort]
          rw [byteLen_append, byteLen_cons, byteLen_nil] at hshort
          simp only [Option.isSome_some, true_iff]
          omega
        · rw [parseProfile_cut hfind (Nat.lt_of_not_le hshort)]
          split
          · rename_i hone
            simp [hone]
          · rename_i hone
            simp [hone]

end Line

section Listing

variable {profiles : List (String × String)}

/-- What is done for each element fails where it fails for one of them. -/
theorem isSome_mapM_iff {α β : Type} {f : α → Option β} {xs : List α} :
    (xs.mapM f).isSome ↔ ∀ x ∈ xs, (f x).isSome := by
  induction xs with
  | nil => simp
  | cons x xs ih =>
      rw [List.mapM_cons, List.forall_mem_cons, ← ih]
      cases f x with
      | none => simp
      | some y => cases xs.mapM f <;> simp

/-- What is read line by line is read on each of the lines. -/
theorem parseProfiles_isSome_iff (content : String) :
    (parseProfiles content).isSome ↔ ∀ line ∈ lines content,
      modeSeparator <:+: line → ∀ c ∈ line.getLast?, c.utf8Size = 1 := by
  rw [parseProfiles, Option.isSome_map, isSome_mapM_iff]
  exact forall₂_congr fun line _ => parseProfile_isSome_iff line

theorem feed_notMem_profileLine {profile : String × String} (h : Listable profile) :
    '\n' ∉ profileLine profile := by
  simp [profileLine, modeSeparator, h.feed_notMem_name, h.feed_notMem_mode]

/-- The lines of a listing are those of the profiles. -/
theorem lines_listing (h : ∀ profile ∈ profiles, Listable profile) :
    lines (listing profiles) = profiles.map profileLine := by
  induction profiles with
  | nil => rfl
  | cons profile profiles ih =>
      rw [List.forall_mem_cons] at h
      have hkept : stripCr (profileLine profile) = profileLine profile := by
        rw [stripCr, profileLine, List.getLast?_concat]
        exact if_neg (by decide)
      have htext : listing (profile :: profiles) = String.ofList (profileLine profile ++
          '\n' :: profiles.flatMap fun profile => profileLine profile ++ ['\n']) := by
        rw [listing, List.flatMap_cons, List.append_assoc]
        rfl
      rw [htext, lines_append (feed_notMem_profileLine h.1), hkept, List.map_cons]
      exact congrArg _ (ih h.2)

/-- A listing of the kernel is read as the profiles it was made from. -/
theorem parseProfiles_listing (h : ∀ profile ∈ profiles, Listable profile) :
    parseProfiles (listing profiles) =
      some (profiles.map fun profile => ⟨profile.1, .ofString profile.2⟩) := by
  rw [parseProfiles, lines_listing h]
  have hread : (profiles.map profileLine).mapM parseProfile =
      some (profiles.map fun profile => some ⟨profile.1, .ofString profile.2⟩) := by
    induction profiles with
    | nil => rfl
    | cons profile profiles ih =>
        rw [List.forall_mem_cons] at h
        rw [List.map_cons, List.mapM_cons, parseProfile_profileLine h.1, ih h.2]
        rfl
  rw [hread, Option.map_some, List.filterMap_map]
  simp

/-- A listing of the kernel is read as it was made. Any text at all is read without a panic
    exactly where each line of it with a separator ends in a character of one byte. -/
theorem parse_profiles_iff (h : ∀ profile ∈ profiles, Listable profile) (content : String) :
    parseProfiles (listing profiles) =
        some (profiles.map fun profile => ⟨profile.1, .ofString profile.2⟩) ∧
      ((parseProfiles content).isSome ↔ ∀ line ∈ lines content,
        modeSeparator <:+: line → ∀ c ∈ line.getLast?, c.utf8Size = 1) :=
  ⟨parseProfiles_listing h, parseProfiles_isSome_iff content⟩

/-- A line whose last character has two bytes is cut inside of it. -/
theorem parse_profiles_panics : ¬ ∀ content, (parseProfiles content).isSome := by
  intro h
  have hline := h "x (é"
  have hpanic : parseProfiles "x (é" = none := by decide
  rw [hpanic] at hline
  cases hline

/-- A name with a separator of its own, and one with characters of several bytes. -/
theorem parse_profiles_two : ∃ profiles : List (String × String), profiles.length = 2 ∧
    parseProfiles (listing profiles) =
        some (profiles.map fun profile => ⟨profile.1, .ofString profile.2⟩) ∧
      ((parseProfiles "x (é").isSome ↔ ∀ line ∈ lines "x (é",
        modeSeparator <:+: line → ∀ c ∈ line.getLast?, c.utf8Size = 1) := by
  have hlistable : ∀ profile ∈ [("a (b) (c)", "enforce"), ("é ü", "weird)")],
      Listable profile := by
    rw [List.forall_mem_cons, List.forall_mem_singleton]
    exact ⟨⟨by decide, by decide, by decide, by decide⟩, by decide, by decide, by decide,
      by decide⟩
  exact ⟨_, rfl, parse_profiles_iff hlistable "x (é"⟩

theorem getProfiles_of_lists {host : ProfilesHost} (h : host.Lists profiles) :
    getProfiles host =
      some (.ok (profiles.map fun profile => ⟨profile.1, .ofString profile.2⟩)) := by
  rcases h.mounted with ⟨mountpoint, hmounted⟩
  simp only [getProfiles, hmounted, h.profilesExist, h.readToString, if_true,
    parseProfiles_listing h.listable, Option.map_some]

/-- With AppArmor a container gets the profile of its package where the kernel lists it. -/
theorem buildApparmorProfile_listing {host : BundleHost} {profilesHost : ProfilesHost}
    (hlists : profilesHost.Lists profiles) (hasks : AsksListing host profilesHost)
    (henabled : host.apparmorEnabled = .ok true) (packageName : String) :
    buildApparmorProfile host packageName =
      some (if "ssam-prof-" ++ packageName ∈ profiles.map Prod.fst then "ssam-prof-" ++ packageName
        else "container-default") := by
  have hfind : ((profiles.map fun profile => Profile.mk profile.1 (.ofString profile.2)).find?
      fun p => p.name = "ssam-prof-" ++ packageName).isSome =
        decide ("ssam-prof-" ++ packageName ∈ profiles.map Prod.fst) := by
    rw [Bool.eq_iff_iff, decide_eq_true_eq, List.find?_isSome]
    simp
  have hanswer := hasks ("ssam-prof-" ++ packageName)
  rw [getProfile, getProfiles_of_lists hlists] at hanswer
  simp only [Option.map_some, Except.map, Option.some.injEq, hfind] at hanswer
  have hname : s!"ssam-prof-{packageName}" = "ssam-prof-" ++ packageName := rfl
  simp only [buildApparmorProfile, henabled, hname, ← hanswer, Except.toOption, Option.bind_eq_bind,
    Option.bind_some, if_true, decide_eq_true_eq]

end Listing

end Oci

end Ssam
