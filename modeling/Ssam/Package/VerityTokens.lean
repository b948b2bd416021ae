import Ssam.Lib.Args
import Ssam.Package.Verity

/-!
# The Fields of a Verity Table

The kernel splits the table of a device at white space, where a backslash takes the next
character for itself. What comes back are the fields the table was made of if and only if
the algorithm is not empty and has neither a backslash nor a byte that the kernel takes
for white space in it. The other fields are digits, letters and the like.

The algorithm is checked for white space as a text. The kernel splits bytes, and has no
notion of the characters they encode: to it the no-break space of Latin-1 is a space, and
that byte is a part of other characters.

## Main definitions

* `splitTable`: The arguments the kernel finds in a table.
* `tableFields`: The fields a table is made of.
* `PlainAlgorithm`: The algorithm is one argument.

## Theorems

* `plain_of_word`: Texts of digits, letters and the like.
* `getAlgorithm_eq_ok`: What is known of an algorithm that is accepted.
* `resolveTable_eq`: The table of a device is its fields with blanks between them.
* `table_fields_iff`: When the kernel finds the fields.
* `algorithm_lost`: Superblocks whose algorithm the kernel does not find.
-/

namespace Ssam

namespace Package

open Lib
open Network (isWhitespace)

/-- What the kernel takes for white space. -/
def isKernelSpace (b : UInt8) : Bool := (9 ≤ b && b ≤ 13) || b == 32 || b == 160

/-- The bytes of a text. -/
def utf8Bytes (s : String) : Bytes := s.toList.flatMap String.utf8EncodeChar

/-- The arguments the kernel finds in a table, where a backslash quotes. -/
def splitTable (table : String) : List Bytes := splitArgs isKernelSpace 92 (utf8Bytes table)

def isHexDigit (c : Char) : Bool :=
  c.isDigit || ('a' ≤ c && c ≤ 'f') || ('A' ≤ c && c ≤ 'F')

/-- The path of a loop device. -/
def loopPath (n : Nat) : String := s!"/dev/loop{n}"

namespace VeritySuperBlock

/-- The salt in digits, or the sign for none. -/
def saltText (sb : VeritySuperBlock) : String :=
  if sb.saltSize = 0 then "-"
  else String.join ((sb.salt.take sb.saltSize.toNat).map hexByte)

/-- The algorithm is not empty, and has no backslash and no byte of a Latin-1 space. -/
def PlainAlgorithm (sb : VeritySuperBlock) : Prop :=
  sb.algorithmBytes ≠ [] ∧ 92 ∉ sb.algorithmBytes ∧ 160 ∉ sb.algorithmBytes

end VeritySuperBlock

/-- The fields of the table of a device, in their order. -/
def tableFields (sb : VeritySuperBlock) (dataSize : UInt64) (rootHash devPath : String) :
    List Bytes :=
  [utf8Bytes (toString sb.version), utf8Bytes devPath, utf8Bytes devPath,
    utf8Bytes (toString sb.dataBlockSize), utf8Bytes (toString sb.hashBlockSize),
    utf8Bytes (toString sb.dataBlocks),
    utf8Bytes (toString (hashStartBlock dataSize sb.dataBlockSize)), sb.algorithmBytes,
    utf8Bytes rootHash, utf8Bytes sb.saltText]

section Bytes

theorem utf8Bytes_append (s t : String) : utf8Bytes (s ++ t) = utf8Bytes s ++ utf8Bytes t := by
  rw [utf8Bytes, String.toList_append, List.flatMap_append]
  rfl

theorem utf8Bytes_intercalate (ss : List String) :
    utf8Bytes (" ".intercalate ss) = [32].intercalate (ss.map utf8Bytes) := by
  induction ss with
  | nil => rfl
  | cons s ss ih =>
      cases ss with
      | nil => rw [String.intercalate_singleton, List.map_cons, List.map_nil,
          List.intercalate_singleton]
      | cons t ss =>
          rw [String.intercalate_cons_cons, utf8Bytes_append, utf8Bytes_append, ih,
            List.map_cons, List.map_cons, List.map_cons, List.intercalate_cons_cons]
          rfl

/-- A text that is read from bytes has these. -/
theorem utf8Bytes_of_fromUTF8 {bytes : Bytes} {text : String}
    (h : String.fromUTF8? ⟨bytes.toArray⟩ = some text) : utf8Bytes text = bytes := by
  have harray : text.toByteArray = ⟨bytes.toArray⟩ := by
    unfold String.fromUTF8? at h
    split at h
    · rw [← Option.some.inj h]
      rfl
    · exact absurd h.symm (Option.some_ne_none _)
  have hencode : (utf8Bytes text).toByteArray = ⟨bytes.toArray⟩ :=
    String.utf8Encode_toList.trans harray
  have hdata := congrArg (fun b => b.data.toList) hencode
  simp only [List.data_toByteArray] at hdata
  exact hdata

/-- A byte of the ASCII range encodes itself. -/
theorem eq_of_mem_utf8EncodeChar {c : Char} {b : UInt8} (h : b ∈ String.utf8EncodeChar c)
    (hb : b.toNat < 128) : c.toNat = b.toNat := by
  have hlow : ∀ m n : Nat, 128 ≤ n → m + n < 256 → (UInt8.ofNat (m + n)).toNat < 128 → False := by
    intro m n hn hmn hlt
    rw [UInt8.toNat_ofNat', Nat.mod_eq_of_lt (by omega)] at hlt
    omega
  unfold String.utf8EncodeChar at h
  dsimp only at h
  split at h
  · rename_i hc
    rw [List.mem_singleton.mp h, UInt8.toNat_ofNat', Nat.mod_eq_of_lt (by omega)]
    rfl
  · -- Every byte of a longer encoding has its highest bit set.
    exfalso
    split at h
    · simp only [List.mem_cons, List.not_mem_nil, or_false] at h
      rcases h with rfl | rfl
      · exact hlow _ _ (by omega) (by omega) hb
      · exact hlow _ _ (by omega) (by omega) hb
    · split at h
      · simp only [List.mem_cons, List.not_mem_nil, or_false] at h
        rcases h with rfl | rfl | rfl
        · exact hlow _ _ (by omega) (by omega) hb
        · exact hlow _ _ (by omega) (by omega) hb
        · exact hlow _ _ (by omega) (by omega) hb
      · simp only [List.mem_cons, List.not_mem_nil, or_false] at h
        rcases h with rfl | rfl | rfl | rfl
        · exact hlow _ _ (by omega) (by omega) hb
        · exact hlow _ _ (by omega) (by omega) hb
        · exact hlow _ _ (by omega) (by omega) hb
        · exact hlow _ _ (by omega) (by omega) hb

theorem isKernelSpace_iff {b : UInt8} :
    isKernelSpace b = true ↔ 9 ≤ b.toNat ∧ b.toNat ≤ 13 ∨ b.toNat = 32 ∨ b.toNat = 160 := by
  simp only [isKernelSpace, Bool.or_eq_true, Bool.and_eq_true, decide_eq_true_eq, beq_iff_eq,
    UInt8.le_iff_toNat_le, ← UInt8.toNat_inj, or_assoc]
  rfl

/-- The character is between the dash and the last letter, and no backslash. -/
def IsWordChar (c : Char) : Prop := 45 ≤ c.toNat ∧ c.toNat ≤ 122 ∧ c.toNat ≠ 92

instance (c : Char) : Decidable (IsWordChar c) :=
  inferInstanceAs (Decidable (45 ≤ c.toNat ∧ c.toNat ≤ 122 ∧ c.toNat ≠ 92))

/-- The characters of a given text are looked at one by one. -/
theorem word_of_all {cs : List Char} (h : cs.all (fun c => decide (IsWordChar c)) = true) :
    ∀ c ∈ cs, IsWordChar c := fun c hc => of_decide_eq_true (List.all_eq_true.mp h c hc)

/-- A text of digits, letters and the like is one argument. -/
theorem plain_of_word {s : String} (hne : s ≠ "") (h : ∀ c ∈ s.toList, IsWordChar c) :
    Plain isKernelSpace 92 (utf8Bytes s) := by
  -- Characters of this range are encoded by one byte, which is their number.
  have hencode : ∀ c ∈ s.toList, String.utf8EncodeChar c = [UInt8.ofNat c.toNat] := by
    intro c hc
    have hword := h c hc
    have hlow : c.val.toNat ≤ 127 := hword.2.1.trans (by decide)
    unfold String.utf8EncodeChar
    exact if_pos hlow
  have hbyte : ∀ b ∈ utf8Bytes s, 45 ≤ b.toNat ∧ b.toNat ≤ 122 ∧ b.toNat ≠ 92 := by
    intro b hb
    rcases List.mem_flatMap.mp hb with ⟨c, hc, hbc⟩
    rw [hencode c hc, List.mem_singleton] at hbc
    have hword := h c hc
    have hnat : b.toNat = c.toNat := by
      rw [hbc, UInt8.toNat_ofNat', Nat.mod_eq_of_lt (by have := hword.2.1; omega)]
    rw [hnat]
    exact hword
  refine ⟨fun hnil => hne ?_, fun hquote => ?_, fun b hb => ?_⟩
  · cases hs : s.toList with
    | nil => exact String.toList_eq_nil_iff.mp hs
    | cons c cs =>
        rw [utf8Bytes, hs, List.flatMap_cons, hencode c (hs ▸ List.mem_cons_self)] at hnil
        exact absurd hnil (List.cons_ne_nil _ _)
  · exact (hbyte 92 hquote).2.2 rfl
  · rw [Bool.eq_false_iff, Ne, isKernelSpace_iff]
    have hb := hbyte b hb
    omega

/-- Numbers are written in digits. -/
theorem word_repr (n : Nat) : n.repr ≠ "" ∧ ∀ c ∈ n.repr.toList, IsWordChar c := by
  constructor
  · intro hnil
    have hlist := congrArg String.toList hnil
    rw [Nat.toList_repr] at hlist
    exact Nat.toDigits_ne_nil hlist
  · intro c hc
    rw [Nat.toList_repr] at hc
    have hdigit := Nat.isDigit_of_mem_toDigits (by decide) (by decide) hc
    simp only [Char.isDigit, Bool.and_eq_true, decide_eq_true_eq] at hdigit
    have hlow : 48 ≤ c.toNat := hdigit.1
    have hhigh : c.toNat ≤ 57 := hdigit.2
    exact ⟨by omega, by omega, by omega⟩

theorem repr_ne_blank (n : Nat) : ∀ c ∈ n.repr.toList, c ≠ ' ' := by
  intro c hc heq
  have hword := (word_repr n).2 c hc
  rw [heq] at hword
  exact absurd hword.1 (by decide)

/-- Bytes are written in digits of the base sixteen. -/
theorem word_hexByte (b : UInt8) : ∀ c ∈ (hexByte b).toList, IsWordChar c := by
  have hdigit : ∀ n : Fin 16, IsWordChar n.val.digitChar := by decide
  have hb := b.toNat_lt
  intro c hc
  rw [hexByte, String.toList_ofList, List.mem_cons, List.mem_singleton] at hc
  rcases hc with rfl | rfl
  · exact hdigit ⟨b.toNat / 16, by omega⟩
  · exact hdigit ⟨b.toNat % 16, by omega⟩

theorem word_of_isHexDigit {c : Char} (h : isHexDigit c = true) : IsWordChar c := by
  simp only [isHexDigit, Char.isDigit, Bool.or_eq_true, Bool.and_eq_true, decide_eq_true_eq] at h
  rcases h with (⟨hlow, hhigh⟩ | ⟨hlow, hhigh⟩) | ⟨hlow, hhigh⟩
  · have hlow : 48 ≤ c.toNat := hlow
    have hhigh : c.toNat ≤ 57 := hhigh
    exact ⟨by omega, by omega, by omega⟩
  · have hlow : 97 ≤ c.toNat := hlow
    have hhigh : c.toNat ≤ 102 := hhigh
    exact ⟨by omega, by omega, by omega⟩
  · have hlow : 65 ≤ c.toNat := hlow
    have hhigh : c.toNat ≤ 70 := hhigh
    exact ⟨by omega, by omega, by omega⟩

theorem word_loopPath (n : Nat) : loopPath n ≠ "" ∧ ∀ c ∈ (loopPath n).toList, IsWordChar c := by
  have happend : (loopPath n).toList = "/dev/loop".toList ++ n.repr.toList := by
    rw [← String.toList_append]
    rfl
  constructor
  · intro hnil
    rw [hnil] at happend
    exact absurd happend.symm (List.append_ne_nil_of_left_ne_nil (by decide) _)
  · intro c hc
    rw [happend, List.mem_append] at hc
    rcases hc with hc | hc
    · have hall : "/dev/loop".toList.all (fun c => decide (IsWordChar c)) = true := by decide
      exact word_of_all hall c hc
    · exact (word_repr n).2 c hc

end Bytes

section Superblock

variable {sb : VeritySuperBlock}

/-- The salt is written in digits, or as the sign for none. -/
theorem getSalt_eq_ok {salt : String} (h : sb.getSalt = .ok salt) :
    salt = sb.saltText ∧ salt ≠ "" ∧ ∀ c ∈ salt.toList, IsWordChar c := by
  unfold VeritySuperBlock.getSalt at h
  rcases ensure_bind_eq_ok.mp h with ⟨hfits, h⟩
  have hfits : sb.saltSize.toNat ≤ sb.salt.length := of_decide_eq_true hfits
  unfold VeritySuperBlock.saltText
  by_cases hzero : sb.saltSize = 0
  · rw [if_pos (by rw [hzero]; rfl), Except.ok.injEq] at h
    rw [if_pos hzero, ← h]
    exact ⟨rfl, by decide, word_of_all (by decide)⟩
  · have hpos : sb.saltSize.toNat ≠ 0 := fun heq => hzero (UInt16.toNat_inj.mp heq)
    rw [if_neg hpos, ← List.foldl_map, ← String.join_eq_foldl, Except.ok.injEq] at h
    rw [if_neg hzero, ← h]
    refine ⟨rfl, fun hnil => ?_, fun c hc => ?_⟩
    · -- There is a first byte, and it has a digit.
      have hlen := sb.length_salt
      rcases hsalt : sb.salt.take sb.saltSize.toNat with _ | ⟨b, bs⟩
      · have hshort := congrArg List.length hsalt
        rw [List.length_take, List.length_nil] at hshort
        omega
      · have hlist := congrArg String.toList hnil
        rw [hsalt, String.toList_join, List.map_cons, List.flatMap_cons, hexByte,
          String.toList_ofList] at hlist
        exact absurd hlist (List.cons_ne_nil _ _)
    · rw [String.toList_join, List.mem_flatMap] at hc
      rcases hc with ⟨digits, hdigits, hc⟩
      rcases List.mem_map.mp hdigits with ⟨b, -, rfl⟩
      exact word_hexByte b c hc

/-- An algorithm that is accepted is the bytes before the first zero, and none of them is
    white space of the ASCII range. -/
theorem getAlgorithm_eq_ok {algorithm : String} (h : sb.getAlgorithm = .ok algorithm) :
    utf8Bytes algorithm = sb.algorithmBytes ∧
      ∀ b ∈ sb.algorithmBytes, ¬ (9 ≤ b.toNat ∧ b.toNat ≤ 13 ∨ b.toNat = 32) := by
  unfold VeritySuperBlock.getAlgorithm at h
  cases hutf : String.fromUTF8? ⟨sb.algorithmBytes.toArray⟩ with
  | none =>
      rw [hutf] at h
      exact absurd h (by rintro ⟨⟩)
  | some text =>
      rw [hutf] at h
      dsimp only at h
      rcases ensure_bind_eq_ok.mp h with ⟨hspace, heq⟩
      rw [Except.ok.injEq] at heq
      subst heq
      have hbytes : utf8Bytes text = sb.algorithmBytes := utf8Bytes_of_fromUTF8 hutf
      refine ⟨hbytes, fun b hb hwhite => ?_⟩
      rw [← hbytes] at hb
      rcases List.mem_flatMap.mp hb with ⟨c, hc, hbc⟩
      -- A byte of the ASCII range is a character by itself, and that was checked.
      have hcb : c.toNat = b.toNat := eq_of_mem_utf8EncodeChar hbc (by omega)
      have hno : isWhitespace c = false := by
        have hall := Bool.not_eq_true' _ |>.mp hspace
        exact Bool.eq_false_iff.mpr (List.any_eq_false.mp hall c hc)
      rw [Bool.eq_false_iff] at hno
      apply hno
      simp only [isWhitespace, hcb, Bool.or_eq_true, Bool.and_eq_true, decide_eq_true_eq,
        beq_iff_eq]
      omega

/-- An algorithm that is accepted is one argument if it is plain. -/
theorem plain_algorithm_iff {algorithm : String} (h : sb.getAlgorithm = .ok algorithm) :
    Plain isKernelSpace 92 sb.algorithmBytes ↔ sb.PlainAlgorithm := by
  have hwhite := (getAlgorithm_eq_ok h).2
  constructor
  · intro hplain
    refine ⟨hplain.ne_nil, hplain.unquoted, fun hmem => ?_⟩
    -- The kernel takes this byte for a blank, though no character of the text is one.
    have hspace := hplain.unspaced 160 hmem
    exact absurd hspace (by decide)
  · rintro ⟨hne, hquote, hlatin⟩
    refine ⟨hne, hquote, fun b hb => ?_⟩
    rw [Bool.eq_false_iff, Ne, isKernelSpace_iff]
    have hascii := hwhite b hb
    have hne : b.toNat ≠ 160 := fun heq =>
      hlatin ((UInt8.toNat_inj.mp heq : b = 160) ▸ hb)
    omega

end Superblock

section Table

/-- A text is cut at the first blank. -/
theorem splitOnce_append {s t : String} (h : ∀ c ∈ s.toList, c ≠ ' ') :
    splitOnce (s ++ " " ++ t) = some (s, t) := by
  have hlist : (s ++ " " ++ t).toList = s.toList ++ ' ' :: t.toList := by
    rw [String.toList_append, String.toList_append, List.append_assoc]
    rfl
  have hall : ∀ c ∈ s.toList, decide (c ≠ ' ') = true := fun c hc => decide_eq_true (h c hc)
  rw [splitOnce, hlist, List.dropWhile_append_of_pos hall, List.takeWhile_append_of_pos hall]
  simp only [ne_eq, decide_not, decide_true, Bool.not_true, List.dropWhile_cons_of_neg,
    List.takeWhile_cons_of_neg, List.append_nil, String.ofList_toList, Bool.false_eq_true,
    not_false_eq_true]

/-- The table of a device is its fields with blanks between them. -/
theorem resolveTable_eq {info : PackageFsVerityInfo} {version dataBlockSize hashBlockSize : UInt32}
    {dataBlocks start : UInt64} {algorithm rootHash salt : String} (devPath : String)
    (h : info.tableParams =
      buildTableParams version dataBlockSize hashBlockSize dataBlocks start algorithm rootHash
        salt) :
    info.resolveTable devPath =
      .ok (" ".intercalate [toString version, devPath, devPath, toString dataBlockSize,
        toString hashBlockSize, toString dataBlocks, toString start, algorithm, rootHash,
        salt]) := by
  have hblank : ∀ c ∈ (toString version).toList, c ≠ ' ' := repr_ne_blank version.toNat
  -- The version is the part before the first blank, where the paths go in.
  have hparams : info.tableParams = toString version ++ " " ++
      " ".intercalate [toString dataBlockSize, toString hashBlockSize, toString dataBlocks,
        toString start, algorithm, rootHash, salt] := by
    rw [h, buildTableParams]
    simp only [String.intercalate_cons_cons, String.intercalate_singleton, String.append_assoc]
    rfl
  rw [PackageFsVerityInfo.resolveTable, hparams, splitOnce_append hblank]
  simp only [String.intercalate_cons_cons, String.append_assoc]
  rfl

variable {decode : Bytes → Except Error VeritySuperBlock} {imagePath : String} {hashFile : Bytes}
  {dataSize hashSize hashOffset : UInt64} {rootHash : String} {info : PackageFsVerityInfo}
  {sb : VeritySuperBlock}

/-- The bytes of the table of a device are the fields, with blanks between them. -/
theorem utf8Bytes_resolveTable
    (h : fromVerityImage decode imagePath (.ok hashFile) dataSize hashSize hashOffset rootHash =
      .ok info)
    (hsb : readSuperBlock decode hashFile hashOffset = .ok sb) (devPath : String) :
    ∃ table, info.resolveTable devPath = .ok table ∧
      utf8Bytes table = [32].intercalate (tableFields sb dataSize rootHash devPath) := by
  rcases fromVerityImage_eq_ok h with
    ⟨sb', algorithm, salt, hsb', halgorithm, hsalt, -, -, rfl⟩
  rw [hsb, Except.ok.injEq] at hsb'
  subst hsb'
  refine ⟨_, resolveTable_eq devPath rfl, ?_⟩
  rw [utf8Bytes_intercalate, tableFields, ← (getAlgorithm_eq_ok halgorithm).1,
    ← (getSalt_eq_ok hsalt).1]
  rfl

/-- The kernel finds the ten fields of the table exactly if the algorithm is plain. -/
theorem table_fields_iff
    (h : fromVerityImage decode imagePath (.ok hashFile) dataSize hashSize hashOffset rootHash =
      .ok info)
    (hsb : readSuperBlock decode hashFile hashOffset = .ok sb) (hroot : rootHash ≠ "")
    (hhex : ∀ c ∈ rootHash.toList, isHexDigit c = true) (n : Nat) :
    (∃ table, info.resolveTable (loopPath n) = .ok table ∧
      splitTable table = tableFields sb dataSize rootHash (loopPath n)) ↔ sb.PlainAlgorithm := by
  rcases fromVerityImage_eq_ok h with
    ⟨sb', algorithm, salt, hsb', halgorithm, hsalt, -, -, -⟩
  rw [hsb, Except.ok.injEq] at hsb'
  subst hsb'
  rcases utf8Bytes_resolveTable h hsb (loopPath n) with ⟨table, htable, hbytes⟩
  rcases getSalt_eq_ok hsalt with ⟨rfl, hsaltne, hsaltword⟩
  -- All fields but the algorithm are plain, whatever the superblock says.
  have hnumber : ∀ m : Nat, Plain isKernelSpace 92 (utf8Bytes m.repr) := fun m =>
    plain_of_word (word_repr m).1 (word_repr m).2
  have hpath := plain_of_word (word_loopPath n).1 (word_loopPath n).2
  have hhash := plain_of_word hroot fun c hc => word_of_isHexDigit (hhex c hc)
  have hsaltplain := plain_of_word hsaltne hsaltword
  -- The salt is the last of the fields, and plain.
  have hsplit : splitTable table = tableFields sb dataSize rootHash (loopPath n) ↔
      ∀ t ∈ (tableFields sb dataSize rootHash (loopPath n)).dropLast,
        Plain isKernelSpace 92 t := by
    have hspace : isKernelSpace 32 = true := rfl
    have hne : (32 : UInt8) ≠ 92 := by decide
    rw [splitTable, hbytes]
    exact @splitArgs_intercalate_iff _ _ _ _ rfl _ hspace hne
      (tableFields sb dataSize rootHash (loopPath n)).dropLast _ hsaltplain
  rw [← plain_algorithm_iff halgorithm]
  constructor
  · rintro ⟨table', htable', hfields⟩
    rw [htable, Except.ok.injEq] at htable'
    subst htable'
    refine hsplit.mp hfields _ ?_
    simp only [tableFields, List.dropLast_cons_cons, List.mem_cons, true_or, or_true]
  · intro hplain
    refine ⟨table, htable, hsplit.mpr fun t ht => ?_⟩
    simp only [tableFields, List.dropLast_cons_cons, List.dropLast_singleton, List.mem_cons,
      List.not_mem_nil, or_false] at ht
    rcases ht with rfl | rfl | rfl | rfl | rfl | rfl | rfl | rfl | rfl
    · exact hnumber _
    · exact hpath
    · exact hpath
    · exact hnumber _
    · exact hnumber _
    · exact hnumber _
    · exact hnumber _
    · exact hplain
    · exact hhash

end Table

section Sample

/-- A superblock with this algorithm, and a salt of three bytes. -/
def superBlockOf (algorithm : Bytes) (h : algorithm.length ≤ 32) : VeritySuperBlock where
  version := 1
  algorithm := algorithm ++ List.replicate (32 - algorithm.length) 0
  dataBlockSize := 4096
  hashBlockSize := 4096
  dataBlocks := 100
  saltSize := 3
  salt := [0xab, 0xcd, 0xef] ++ List.replicate 253 0
  length_algorithm := by
    rw [List.length_append, List.length_replicate]
    omega
  length_salt := by rw [List.length_append, List.length_replicate]; rfl

/-- The bytes of the superblock. -/
def encVerity (sb : VeritySuperBlock) : Bytes :=
  asciiBytes "verity" ++ [0, 0] ++ leBytes 4 sb.version.toNat ++ leBytes 4 1 ++
    List.replicate 16 0 ++ sb.algorithm ++ leBytes 4 sb.dataBlockSize.toNat ++
    leBytes 4 sb.hashBlockSize.toNat ++ leBytes 8 sb.dataBlocks.toNat ++
    leBytes 2 sb.saltSize.toNat ++ List.replicate 6 0 ++ sb.salt ++ List.replicate 168 0

/-- The superblock of these bytes. -/
def decodeVerity (bytes : Bytes) : Except Error VeritySuperBlock :=
  if h : 512 ≤ bytes.length then
    let field (pos n : Nat) : Nat := leValue ((bytes.drop pos).take n)
    .ok {
      -- The fields that nothing reads are skipped.
      version := UInt32.ofNat (field 8 4)
      algorithm := (bytes.drop 32).take 32
      dataBlockSize := UInt32.ofNat (field 64 4)
      hashBlockSize := UInt32.ofNat (field 68 4)
      dataBlocks := UInt64.ofNat (field 72 8)
      saltSize := UInt16.ofNat (field 80 2)
      salt := (bytes.drop 88).take 256
      length_algorithm := by
        rw [List.length_take, List.length_drop]
        omega
      length_salt := by
        rw [List.length_take, List.length_drop]
        omega }
  else .error ["UnexpectedEnd"]

/-- What is signed of an image whose hash tree has this superblock. -/
def tableOf (sb : VeritySuperBlock) : Except Error PackageFsVerityInfo :=
  fromVerityImage decodeVerity "filesystem.img" (.ok (encVerity sb)) 8192 512 0 "cafebabe"

/-- The table of the first loop device. -/
def resolvedOf (sb : VeritySuperBlock) : Option String :=
  (tableOf sb).toOption.bind fun info => (info.resolveTable (loopPath 0)).toOption

example : resolvedOf (superBlockOf (asciiBytes "sha256") (by decide)) =
    some "1 /dev/loop0 /dev/loop0 4096 4096 100 3 sha256 cafebabe abcdef" := by
  decide +kernel

/-- The fields of a table whose algorithm is plain. -/
theorem table_fields_sha256 :
    ∃ info, tableOf (superBlockOf (asciiBytes "sha256") (by decide)) = .ok info ∧
      ((∃ table, info.resolveTable (loopPath 0) = .ok table ∧
          splitTable table = tableFields (superBlockOf (asciiBytes "sha256") (by decide)) 8192
            "cafebabe" (loopPath 0)) ↔
        (superBlockOf (asciiBytes "sha256") (by decide)).PlainAlgorithm) := by
  have hsome : (tableOf (superBlockOf (asciiBytes "sha256") (by decide))).toOption.isSome =
      true := by
    decide +kernel
  cases htable : tableOf (superBlockOf (asciiBytes "sha256") (by decide)) with
  | error e =>
      rw [htable] at hsome
      exact absurd hsome Bool.false_ne_true
  | ok info =>
      have hread : readSuperBlock decodeVerity
          (encVerity (superBlockOf (asciiBytes "sha256") (by decide))) 0 =
            .ok (superBlockOf (asciiBytes "sha256") (by decide)) := by
        decide +kernel
      have hhex := List.all_eq_true.mp (show "cafebabe".toList.all isHexDigit = true by decide)
      exact ⟨info, rfl, table_fields_iff htable hread (by decide) hhex 0⟩

theorem tableOf_of_resolvedOf {sb : VeritySuperBlock} {table : String}
    (h : resolvedOf sb = some table) :
    ∃ info, tableOf sb = .ok info ∧ info.resolveTable (loopPath 0) = .ok table := by
  unfold resolvedOf at h
  cases hinfo : tableOf sb with
  | error e =>
      rw [hinfo] at h
      exact absurd h.symm (Option.some_ne_none _)
  | ok info =>
      rw [hinfo] at h
      refine ⟨info, rfl, ?_⟩
      change (info.resolveTable (loopPath 0)).toOption = some table at h
      cases htable : info.resolveTable (loopPath 0) with
      | error e =>
          rw [htable] at h
          exact absurd h.symm (Option.some_ne_none _)
      | ok table' =>
          rw [htable] at h
          rw [Option.some.inj h]

/-- Without an algorithm there are two blanks between its neighbours, and the kernel finds
    nine fields. With a backslash in it the kernel finds another. -/
theorem algorithm_lost :
    (∃ info table, tableOf (superBlockOf [] (by decide)) = .ok info ∧
      info.resolveTable (loopPath 0) = .ok table ∧ (splitTable table).length = 9) ∧
    ∃ info table, tableOf (superBlockOf (asciiBytes "sha\\256") (by decide)) = .ok info ∧
      info.resolveTable (loopPath 0) = .ok table ∧
      splitTable table ≠ tableFields (superBlockOf (asciiBytes "sha\\256") (by decide)) 8192
        "cafebabe" (loopPath 0) := by
  constructor
  · have hresolved : resolvedOf (superBlockOf [] (by decide)) =
        some "1 /dev/loop0 /dev/loop0 4096 4096 100 3  cafebabe abcdef" := by
      decide +kernel
    rcases tableOf_of_resolvedOf hresolved with ⟨info, hinfo, htable⟩
    exact ⟨info, _, hinfo, htable, by decide +kernel⟩
  · have hresolved : resolvedOf (superBlockOf (asciiBytes "sha\\256") (by decide)) =
        some "1 /dev/loop0 /dev/loop0 4096 4096 100 3 sha\\256 cafebabe abcdef" := by
      decide +kernel
    rcases tableOf_of_resolvedOf hresolved with ⟨info, hinfo, htable⟩
    exact ⟨info, _, hinfo, htable, by decide +kernel⟩

end Sample

end Package

end Ssam
