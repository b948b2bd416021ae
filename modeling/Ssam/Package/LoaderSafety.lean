import Ssam.Package.Stream

/-!
# The Loader Stays Inside the File

Whatever bytes a file has, the loader ends, with a package or with a reason to refuse the
file. It never computes a sum that overflows, it is never at a position outside the file,
and it never asks for bytes that the file does not have.

Each part of the loader is compared with what it comes to on the bytes of the file. The
comparison is carried along by sequences and loops, so that it is argued only where a call
is made on the file, or where numbers are added.

## Main definitions

* `Inside`: A call that is made inside the file, and asks for nothing outside.
* `Computes`: A part of the loader stays inside, and comes to this result.

## Theorems

* `computes_bind`, `computes_foldlM`: Sequences and loops.
* `computes_loadPayloadsInfo`: The loader comes to what it comes to on the bytes.
* `loader_safe`: The loader ends, inside the file and without overflow, and what it
  returns are regions of the file.
-/

namespace Ssam

namespace Package

open Lib

/-- The call is made from a position in the file, and asks for nothing outside: a seek
    from the end goes back, and where it would go to before the file it is refused. -/
def Inside (file : RegularFile) {β : Type} (pos : Nat) (c : FileCall β) : Prop :=
  pos ≤ file.bytes.length ∧
    match c with
    | .seekEnd offset => offset ≤ 0
    | .seekStart offset => offset.toNat ≤ file.bytes.length
    | .readExact n => pos + n ≤ file.bytes.length
    | _ => True

section Computes

variable {Metadata RuntimeConfig : Type} (decoders : Decoders Metadata RuntimeConfig)
  (taken : Taken) (file : RegularFile) {α β : Type}

/-- From this position the program stays inside the file, and comes to the result, which is
    no overflow. -/
def ComputesAt (pos : Nat) (p : Loading α) (r : Parsed α) : Prop :=
  p.wp (serve decoders taken file) (Inside file)
    (fun r' pos' => r' = r.mapError .refused ∧ pos' ≤ file.bytes.length) pos

/-- The program does so from every position in the file. -/
def Computes (p : Loading α) (r : Parsed α) : Prop :=
  ∀ pos ≤ file.bytes.length, ComputesAt decoders taken file pos p r

variable {decoders taken file}

theorem computes_settle (r : Parsed α) : Computes decoders taken file (settle r) r :=
  fun _ hpos => ⟨rfl, hpos⟩

theorem computes_pure (a : α) : Computes decoders taken file (pure a) (.ok a) :=
  fun _ hpos => ⟨rfl, hpos⟩

theorem computes_refuse (e : PackageParseError) :
    Computes decoders taken file (refuse e : Loading α) (.error e) :=
  fun _ hpos => ⟨rfl, hpos⟩

theorem computesAt_bind {pos : Nat} {p : Loading α} {f : α → Loading β} {x : Parsed α}
    {g : α → Parsed β} (hp : ComputesAt decoders taken file pos p x)
    (hf : ∀ a, x = .ok a → Computes decoders taken file (f a) (g a)) :
    ComputesAt decoders taken file pos (p >>= f) (x >>= g) := by
  rw [ComputesAt, Prog.bind_eq, Prog.wp_bind]
  refine Prog.wp_mono _ (fun _ _ h => h) (fun r pos' h => ?_) hp
  rcases h with ⟨rfl, hpos'⟩
  cases x with
  | ok a => exact hf a rfl pos' hpos'
  | error e => exact ⟨rfl, hpos'⟩

/-- A sequence comes to what its parts come to. -/
theorem computes_bind {p : Loading α} {f : α → Loading β} {x : Parsed α} {g : α → Parsed β}
    (hp : Computes decoders taken file p x)
    (hf : ∀ a, x = .ok a → Computes decoders taken file (f a) (g a)) :
    Computes decoders taken file (p >>= f) (x >>= g) :=
  fun pos hpos => computesAt_bind (hp pos hpos) hf

/-- What follows a value is done with it. -/
theorem computes_value {p : Loading α} {f : α → Loading β} {a : α} {r : Parsed β}
    (hp : Computes decoders taken file p (.ok a)) (hf : Computes decoders taken file (f a) r) :
    Computes decoders taken file (p >>= f) r := by
  refine computes_bind (g := fun _ => r) hp fun a' ha => ?_
  rw [← Except.ok.inj ha]
  exact hf

/-- What follows a seek is done from where it goes to. -/
theorem computes_seek (target : Nat) {p : Loading Unit} {f : Unit → Loading β} {r : Parsed β}
    (hp : ∀ pos ≤ file.bytes.length, p.wp (serve decoders taken file) (Inside file)
      (fun r pos' => r = .ok () ∧ pos' = target) pos)
    (hf : ComputesAt decoders taken file target (f ()) r) :
    Computes decoders taken file (p >>= f) r := by
  intro pos hpos
  rw [ComputesAt, Prog.bind_eq, Prog.wp_bind]
  refine Prog.wp_mono _ (fun _ _ h => h) (fun r' pos' h => ?_) (hp pos hpos)
  rcases h with ⟨rfl, rfl⟩
  exact hf

/-- A loop comes to what its body comes to. -/
theorem computes_foldlM {f : β → α → Loading β} {g : β → α → Parsed β}
    (h : ∀ b a, Computes decoders taken file (f b a) (g b a)) (l : List α) (b : β) :
    Computes decoders taken file (l.foldlM f b) (l.foldlM g b) := by
  induction l generalizing b with
  | nil => exact computes_pure b
  | cons a l ih =>
      rw [List.foldlM_cons, List.foldlM_cons]
      exact computes_bind (h b a) fun b' _ => ih b'

end Computes

section Numbers

theorem toNat_saturatingSub (a b : UInt64) :
    (saturatingSub a b).toNat = a.toNat - b.toNat := by
  unfold saturatingSub
  split
  · rename_i hle
    have hle : a.toNat ≤ b.toNat := UInt64.le_iff_toNat_le.mp hle
    rw [Nat.sub_eq_zero_of_le hle]
    rfl
  · rename_i hlt
    have hle : b.toNat ≤ a.toNat := by
      rw [UInt64.le_iff_toNat_le] at hlt
      omega
    rw [UInt64.toNat_sub_of_le _ _ (UInt64.le_iff_toNat_le.mpr hle)]

theorem toNat_saturatingAdd (a b : UInt64) :
    (saturatingAdd a b).toNat = min (a.toNat + b.toNat) (2 ^ 64 - 1) := by
  unfold saturatingAdd
  split
  · rename_i hlt
    rw [UInt64.toNat_add, Nat.mod_eq_of_lt hlt, Nat.min_eq_left (by omega)]
  · rename_i hge
    have hmax : (UInt64.ofNat (2 ^ 64 - 1)).toNat = 2 ^ 64 - 1 := by decide
    rw [hmax, Nat.min_eq_right (by omega)]

/-- The size of the file less `n` is the place that far before its end. -/
theorem RegularFile.toNat_size_saturatingSub (file : RegularFile) (n : UInt64) :
    (saturatingSub file.size n).toNat = file.bytes.length - n.toNat := by
  rw [toNat_saturatingSub, file.toNat_size]

end Numbers

section Calls

variable {Metadata RuntimeConfig : Type} {decoders : Decoders Metadata RuntimeConfig}
  {taken : Taken} {file : RegularFile}

theorem computes_checkedAdd {a b : UInt64} (h : a.toNat + b.toNat < 2 ^ 64) :
    Computes decoders taken file (checkedAdd a b) (.ok (a + b)) := by
  rw [checkedAdd, if_pos h]
  exact computes_pure (a + b)

theorem wp_ioFault {α : Type} (message : String) (p : Prog FileCall Error α)
    {Q : Except LoadFault α → Nat → Prop} (pos : Nat) :
    (ioFault message p).wp (serve decoders taken file) (Inside file) Q pos ↔
      p.wp (serve decoders taken file) (Inside file)
        (Prog.branch (fun a => Q (.ok a)) fun e => Q (.error (.refused (.io message e)))) pos :=
  Prog.wp_mapError _ _ p pos

theorem computes_metadataLen (message msg : String) :
    Computes decoders taken file
      (ioFault message ((Prog.try_ .metadataLen).context msg)) (.ok file.size) := by
  intro pos hpos
  rw [ComputesAt, wp_ioFault, Prog.wp_context, Prog.wp_try_]
  exact ⟨⟨hpos, trivial⟩, rfl, hpos⟩

/-- A seek to a place in the file goes there. -/
theorem wp_seekStart {offset : UInt64} (h : offset.toNat ≤ file.bytes.length)
    {Q : Except Error Unit → Nat → Prop} {pos : Nat} (hpos : pos ≤ file.bytes.length)
    (hQ : Q (.ok ()) offset.toNat) :
    (Prog.try_ (.seekStart offset)).wp (serve decoders taken file) (Inside file) Q pos := by
  have hserve : serve decoders taken file pos (.seekStart offset) = (offset.toNat, .ok ()) :=
    if_pos (Nat.lt_of_le_of_lt h file.length_lt)
  rw [Prog.wp_try_, hserve]
  exact ⟨⟨hpos, h⟩, hQ⟩

/-- A seek back from the end goes there where the file is long enough, and is refused
    where it is not. -/
theorem wp_seekEnd {n : Nat} {Q : Except Error Unit → Nat → Prop} {pos : Nat}
    (hpos : pos ≤ file.bytes.length)
    (hshort : file.bytes.length < n → Q (.error invalidArgument) pos)
    (hlong : n ≤ file.bytes.length → Q (.ok ()) (file.bytes.length - n)) :
    (Prog.try_ (.seekEnd (-n))).wp (serve decoders taken file) (Inside file) Q pos := by
  have hlen := file.length_lt
  have hback : (-(n : Int)) ≤ 0 := by omega
  rw [Prog.wp_try_]
  refine ⟨⟨hpos, hback⟩, ?_⟩
  -- Where the file is shorter, the place would be a negative one.
  by_cases hn : n ≤ file.bytes.length
  · have hserve : serve decoders taken file pos (.seekEnd (-n)) =
        (((file.bytes.length : Int) + -n).toNat, .ok ()) := if_pos (by omega)
    have htarget : ((file.bytes.length : Int) + -n).toNat = file.bytes.length - n := by omega
    rw [hserve, htarget]
    exact hlong hn
  · have hserve : serve decoders taken file pos (.seekEnd (-n)) = (pos, .error invalidArgument) :=
      if_neg (by omega)
    rw [hserve]
    exact hshort (Nat.lt_of_not_le hn)

/-- Bytes that the file has are read. -/
theorem wp_readExact {n : Nat} {Q : Except Error Bytes → Nat → Prop} {pos : Nat}
    (h : pos + n ≤ file.bytes.length) (hQ : Q (readExact file.bytes pos n) (pos + n)) :
    (Prog.try_ (.readExact n)).wp (serve decoders taken file) (Inside file) Q pos := by
  have htarget : min (pos + n) (max pos file.bytes.length) = pos + n := by omega
  rw [Prog.wp_try_]
  refine ⟨⟨by omega, h⟩, ?_⟩
  rw [serve, htarget]
  exact hQ

/-- The decoders have the bytes from where the file is. -/
theorem computesAt_decodeSize {pos : Nat} (h : pos ≤ file.bytes.length) (msg : String) :
    ComputesAt decoders taken file pos (parseFault msg (Prog.try_ .decodeSize))
      (parseFailed msg (decoders.payloadsSize (file.bytes.drop pos))) := by
  have hlen : (file.bytes.drop pos).length = file.bytes.length - pos := List.length_drop
  rw [ComputesAt, parseFault, Prog.wp_mapError, Prog.wp_try_]
  refine ⟨⟨h, trivial⟩, ?_⟩
  have hpos : (serve decoders taken file pos .decodeSize).1 ≤ file.bytes.length := by
    change pos + min _ _ ≤ _
    omega
  have hanswer : (serve decoders taken file pos .decodeSize).2 =
      decoders.payloadsSize (file.bytes.drop pos) := rfl
  rw [hanswer]
  cases decoders.payloadsSize (file.bytes.drop pos) with
  | ok n => exact ⟨rfl, hpos⟩
  | error e => exact ⟨rfl, hpos⟩

theorem computesAt_decodePayloads {pos : Nat} (h : pos ≤ file.bytes.length) (msg : String) :
    ComputesAt decoders taken file pos (parseFault msg (Prog.try_ .decodePayloads))
      (parseFailed msg (decoders.payloads (file.bytes.drop pos))) := by
  have hlen : (file.bytes.drop pos).length = file.bytes.length - pos := List.length_drop
  rw [ComputesAt, parseFault, Prog.wp_mapError, Prog.wp_try_]
  refine ⟨⟨h, trivial⟩, ?_⟩
  have hpos : (serve decoders taken file pos .decodePayloads).1 ≤ file.bytes.length := by
    change pos + min _ _ ≤ _
    omega
  have hanswer : (serve decoders taken file pos .decodePayloads).2 =
      decoders.payloads (file.bytes.drop pos) := rfl
  rw [hanswer]
  cases decoders.payloads (file.bytes.drop pos) with
  | ok n => exact ⟨rfl, hpos⟩
  | error e => exact ⟨rfl, hpos⟩

end Calls

section Loader

variable {Metadata RuntimeConfig : Type} {decoders : Decoders Metadata RuntimeConfig}
  {taken : Taken} {file : RegularFile}

/-- A field of the footer is read where the file is long enough to have it. -/
theorem computes_readFooterField {n offsetFromEnd : Nat} (hn : n ≤ offsetFromEnd)
    (hsmall : offsetFromEnd < 2 ^ 63) :
    Computes decoders taken file (Stream.readFooterField n offsetFromEnd)
      (readFooterField file.bytes n offsetFromEnd) := by
  intro pos hpos
  rw [Stream.readFooterField, if_neg (Nat.not_le_of_lt hsmall), readFooterField, ComputesAt,
    Prog.bind_eq, Prog.wp_bind, wp_ioFault, Prog.wp_context]
  refine wp_seekEnd hpos (fun hshort => ?_) fun hlong => ?_
  · rw [if_pos hshort]
    exact ⟨rfl, hpos⟩
  · have hin : file.bytes.length - offsetFromEnd + n ≤ file.bytes.length := by omega
    rw [if_neg (Nat.not_lt_of_le hlong)]
    change ComputesAt decoders taken file _ _ _
    rw [ComputesAt, wp_ioFault, Prog.wp_context]
    refine wp_readExact hin ?_
    rw [readExact, if_pos hin]
    exact ⟨rfl, hin⟩

theorem computes_verifyFooter :
    Computes decoders taken file Stream.verifyFooter (verifyFooter file.bytes) := by
  refine computes_bind (computes_readFooterField (by decide) (by decide)) fun magic _ => ?_
  split
  · exact computes_refuse _
  · refine computes_bind (computes_readFooterField (by decide) (by decide)) fun version _ => ?_
    split
    · exact computes_refuse _
    · exact computes_pure ()

/-- Whether a region is found too long is not changed by where its end saturates. -/
theorem RegularFile.size_lt_saturatingAdd_iff (file : RegularFile) (offset size : UInt64) :
    file.size < saturatingAdd offset size ↔
      file.bytes.length < min (offset.toNat + size.toNat) (2 ^ 64 - 1) := by
  rw [UInt64.lt_iff_toNat_lt, file.toNat_size, toNat_saturatingAdd]

theorem computes_readPayload (offset size : UInt64) (maxAllowedSize : Nat) :
    Computes decoders taken file (Stream.readPayload offset size file.size maxAllowedSize)
      (readPayload file.bytes offset size maxAllowedSize) := by
  rw [Stream.readPayload, readPayload]
  split
  · exact computes_refuse _
  · have hiff := file.size_lt_saturatingAdd_iff offset size
    by_cases hout : file.bytes.length < min (offset.toNat + size.toNat) (2 ^ 64 - 1)
    · -- Both refuse the region, in the same words.
      have hsize : toString file.size = toString file.bytes.length :=
        congrArg toString file.toNat_size
      rw [Stream.seekToPayload, seekToPayload, if_pos hout, if_pos (hiff.mpr hout), hsize]
      exact computes_refuse _
    · -- The file is shorter than the largest offset, so the sum has not saturated.
      have hlt := file.length_lt
      have hin : offset.toNat + size.toNat ≤ file.bytes.length := by omega
      rw [Stream.seekToPayload, seekToPayload, if_neg hout, if_neg (mt hiff.mp hout)]
      refine computes_seek offset.toNat (fun pos hpos => ?_) ?_
      · rw [wp_ioFault]
        exact wp_seekStart (Nat.le_trans (Nat.le_add_right _ _) hin) hpos ⟨rfl, rfl⟩
      · rw [ComputesAt, wp_ioFault]
        refine wp_readExact hin ?_
        rw [readExact, if_pos hin]
        exact ⟨rfl, hin⟩

theorem computes_verifyEntry (p : Payloads) (acc : Bytes × VerifiedPayloads) (t : PayloadType) :
    Computes decoders taken file (Stream.verifyEntry file.size p acc t)
      (p.verifyEntry file.bytes acc t) := by
  rw [Stream.verifyEntry, Payloads.verifyEntry]
  cases p t with
  | none => exact computes_pure acc
  | some payload =>
      dsimp only
      split
      · match payload with
        | none => exact computes_refuse _
        | some (.internal offset size) =>
            exact computes_bind (computes_readPayload _ _ _) fun buf _ => computes_pure _
        | some (.external _) => exact computes_refuse _
        | some (.data _) => exact computes_refuse _
      · exact computes_pure acc

theorem computes_readSignature (p : Payloads) (key : PublicKey) :
    Computes decoders taken file (Stream.readSignature file.size p key)
      (p.readSignature file.bytes key) := by
  rw [Stream.readSignature, Payloads.readSignature]
  match p.get .signature with
  | none => exact computes_refuse _
  | some (.internal offset size) => exact computes_readPayload _ _ _
  | some (.external _) => exact computes_refuse _
  | some (.data _) => exact computes_refuse _

theorem computes_verify (sha256 : Bytes → Bytes) (publicKey : Except Error PublicKey)
    (p : Payloads) :
    Computes decoders taken file (Stream.verify sha256 publicKey p)
      (p.verify sha256 publicKey file.bytes) := by
  refine computes_bind (x := .ok file.size) (g := fun _ => p.verify sha256 publicKey file.bytes)
    (computes_metadataLen _ _) fun fileSize hsize => ?_
  cases Except.ok.inj hsize
  cases publicKey with
  -- A key that cannot be read ends the loader before the signature is looked for.
  | error e => exact computes_refuse _
  | ok key =>
      refine computes_bind (computes_pure key) fun key _ => ?_
      refine computes_bind (computes_readSignature p key) fun signature _ => ?_
      refine computes_bind (computes_foldlM (computes_verifyEntry p) _ _) fun acc _ => ?_
      rcases acc with ⟨hashed, verified⟩
      dsimp only
      split
      · exact computes_pure _
      · exact computes_refuse _

/-- The size of the footer and of the field before it are added as they were. -/
theorem toNat_trailer (n : UInt64) (h : n.toNat < 2 ^ 63) :
    (Stream.footerLen + Stream.payloadsSizeLen).toNat + n.toNat < 2 ^ 64 ∧
      (Stream.footerLen + Stream.payloadsSizeLen + n).toNat =
        pkgFooterLen + payloadsSizeLen + n.toNat := by
  have hends : (Stream.footerLen + Stream.payloadsSizeLen).toNat = 40 := by decide
  have hfooter : pkgFooterLen + payloadsSizeLen = 40 := by decide
  have hsum : (Stream.footerLen + Stream.payloadsSizeLen + n).toNat = (40 + n.toNat) % 2 ^ 64 := by
    rw [UInt64.toNat_add (Stream.footerLen + Stream.payloadsSizeLen), hends]
  rw [hsum, hends, hfooter]
  omega

/-- The loader comes to what it comes to on the bytes of the file. -/
theorem computes_loadPayloadsInfo (sha256 : Bytes → Bytes) (publicKey : Except Error PublicKey) :
    Computes decoders taken file (Stream.loadPayloadsInfo sha256 publicKey)
      (loadPayloadsInfo decoders sha256 publicKey file.bytes) := by
  have hlt := file.length_lt
  have hfits : Stream.footerLen.toNat + Stream.payloadsSizeLen.toNat < 2 ^ 64 := by decide
  have hmax := file.toNat_size_saturatingSub (Stream.footerLen + Stream.payloadsSizeLen)
  rw [Stream.loadPayloadsInfo, loadPayloadsInfo]
  refine computes_bind computes_verifyFooter fun _ _ => ?_
  refine computes_value (computes_metadataLen _ _) ?_
  refine computes_value (computes_checkedAdd hfits) ?_
  refine computes_seek (file.bytes.length - (pkgFooterLen + payloadsSizeLen))
    (fun pos hpos => ?_) ?_
  · rw [wp_ioFault, Prog.wp_context]
    exact wp_seekStart (by omega) hpos ⟨rfl, hmax⟩
  refine computesAt_bind (computesAt_decodeSize (Nat.sub_le _ _) _) fun payloadsSize _ => ?_
  refine computes_value (computes_checkedAdd hfits) ?_
  -- What is before the footer and the field is all that a table may take.
  have hiff : saturatingSub file.size (Stream.footerLen + Stream.payloadsSizeLen) < payloadsSize ↔
      file.bytes.length - (pkgFooterLen + payloadsSizeLen) < payloadsSize.toNat := by
    rw [UInt64.lt_iff_toNat_lt, hmax]
    rfl
  by_cases hbig : file.bytes.length - (pkgFooterLen + payloadsSizeLen) < payloadsSize.toNat
  · have htext : toString (saturatingSub file.size (Stream.footerLen + Stream.payloadsSizeLen)) =
        toString (file.bytes.length - (pkgFooterLen + payloadsSizeLen)) := congrArg toString hmax
    dsimp only
    rw [if_pos hbig, if_pos (hiff.mpr hbig), htext]
    exact computes_refuse _
  · dsimp only
    rw [if_neg hbig, if_neg (mt hiff.mp hbig)]
    rcases toNat_trailer payloadsSize (by omega) with ⟨hadd, htrailer⟩
    have htable := file.toNat_size_saturatingSub
      (Stream.footerLen + Stream.payloadsSizeLen + payloadsSize)
    rw [htrailer] at htable
    refine computes_value (computes_checkedAdd hfits) ?_
    refine computes_value (computes_checkedAdd hadd) ?_
    refine computes_seek (file.bytes.length - (pkgFooterLen + payloadsSizeLen + payloadsSize.toNat))
      (fun pos hpos => ?_) ?_
    · rw [wp_ioFault, Prog.wp_context]
      exact wp_seekStart (by omega) hpos ⟨rfl, htable⟩
    refine computesAt_bind (computesAt_decodePayloads (Nat.sub_le _ _) _) fun payloads _ => ?_
    exact computes_bind (computes_verify sha256 publicKey payloads) fun verified _ =>
      computes_pure _

/-- So does what decodes the verified payloads. -/
theorem computes_fromFileVerified (sha256 : Bytes → Bytes) (publicKey : Except Error PublicKey)
    (packageFile : String) :
    Computes decoders taken file (Stream.fromFileVerified decoders sha256 publicKey)
      (fromFileVerified decoders sha256 publicKey packageFile (.ok file.bytes)) := by
  refine computes_bind (computes_loadPayloadsInfo sha256 publicKey) fun loaded _ => ?_
  refine computes_bind (computes_settle _) fun metadataBytes _ => ?_
  refine computes_bind (computes_settle _) fun metadata _ => ?_
  refine computes_bind (computes_settle _) fun runtimeBytes _ => ?_
  refine computes_bind (computes_settle _) fun runtimeConfig _ => ?_
  refine computes_bind (computes_settle _) fun seccompBytes _ => ?_
  exact computes_bind (computes_settle _) fun _ _ => computes_pure _

theorem loadPayloadsInfo_eq_of_eval {sha256 : Bytes → Bytes}
    {publicKey : Except Error PublicKey} {pos : Nat} {table : Payloads}
    {verified : VerifiedPayloads}
    (h : (Stream.loadPayloadsInfo sha256 publicKey).eval (serve decoders taken file) 0 =
      (pos, .ok (table, verified))) :
    loadPayloadsInfo decoders sha256 publicKey file.bytes = .ok (table, verified) := by
  have hload : ComputesAt decoders taken file 0 _ _ :=
    computes_loadPayloadsInfo sha256 publicKey 0 (Nat.zero_le _)
  have hresult := (Prog.eval_of_wp _ hload).1
  rw [h] at hresult
  exact mapError_eq_ok.mp hresult.symm

/-- Whatever the bytes of the file, the loader ends with a package or with a reason to
    refuse it, and no sum overflows. Every call it makes is made inside the file. What it
    returns as verified are regions of the file, and none is longer than is allowed. -/
theorem loader_safe (decoders : Decoders Metadata RuntimeConfig) (sha256 : Bytes → Bytes)
    (publicKey : Except Error PublicKey) (taken : Taken) (file : RegularFile) :
    let load := Stream.fromFileVerified decoders sha256 publicKey
    let result := (load.eval (serve decoders taken file) 0).2
    ((∃ pkg, result = .ok pkg) ∨ ∃ e, result = .error (.refused e)) ∧
      load.wp (serve decoders taken file) (Inside file) (fun _ pos => pos ≤ file.bytes.length) 0 ∧
      ∀ pos table verified,
        (Stream.loadPayloadsInfo sha256 publicKey).eval (serve decoders taken file) 0 =
            (pos, .ok (table, verified)) →
          ∀ t buf, verified t = some buf → ∃ offset size : UInt64,
            table t = some (some (.internal offset size)) ∧
              buf = (file.bytes.drop offset.toNat).take size.toNat ∧
              offset.toNat + size.toNat ≤ file.bytes.length ∧
              size.toNat ≤ maxVerifyPayloadSize := by
  intro load result
  -- The path is named only where the file cannot be opened, and here it is open.
  have hload : ComputesAt decoders taken file 0 load
      (fromFileVerified decoders sha256 publicKey "" (.ok file.bytes)) :=
    computes_fromFileVerified sha256 publicKey "" 0 (Nat.zero_le _)
  refine ⟨?_, Prog.wp_mono _ (fun _ _ h => h) (fun _ _ h => h.2) hload, ?_⟩
  · have hresult : result = _ := (Prog.eval_of_wp _ hload).1
    rw [hresult]
    cases fromFileVerified decoders sha256 publicKey "" (.ok file.bytes) with
    | ok pkg => exact Or.inl ⟨pkg, rfl⟩
    | error e => exact Or.inr ⟨e, rfl⟩
  · intro pos table verified hrun t buf hbuf
    have hverify := (payloadTable_of_loaded (loadPayloadsInfo_eq_of_eval hrun)).2
    rcases (verify_eq_ok hverify).2 t buf hbuf with
      ⟨-, ⟨offset, size, htable, hlen, hin, hbytes⟩, hmax⟩
    exact ⟨offset, size, htable, hbytes.symm, hin, hlen ▸ hmax⟩

end Loader

/-- A package of three payloads, its decoders taking what they decode. -/
def sampleFile : RegularFile := ⟨fileA 22, by decide +kernel⟩

def sampleTaken : Taken := ⟨fun _ => 8, fun _ => (encTable (regionsA 22)).length⟩

/-- The loader returns the payloads of a package, as regions of its file. -/
theorem loader_safe_sample :
    ∃ pos table verified,
      (Stream.loadPayloadsInfo id (.ok idealPublic)).eval
          (serve (decodersA (regionsA 22)) sampleTaken sampleFile) 0 =
        (pos, .ok (table, verified)) ∧
      verified .metadata = some metadataA ∧
      ∃ offset size : UInt64, table .metadata = some (some (.internal offset size)) ∧
        metadataA = (sampleFile.bytes.drop offset.toNat).take size.toNat := by
  have hmetadata : ((Stream.loadPayloadsInfo id (.ok idealPublic)).eval
      (serve (decodersA (regionsA 22)) sampleTaken sampleFile) 0).2.toOption.map
        (fun loaded => loaded.2 .metadata) = some (some metadataA) := by
    decide +kernel
  generalize hrun : (Stream.loadPayloadsInfo id (.ok idealPublic)).eval
    (serve (decodersA (regionsA 22)) sampleTaken sampleFile) 0 = run at hmetadata
  rcases run with ⟨pos, e | ⟨table, verified⟩⟩
  · exact absurd hmetadata (by rintro ⟨⟩)
  · have hverified : verified .metadata = some metadataA := Option.some.inj hmetadata
    have hsafe := loader_safe (decodersA (regionsA 22)) id (.ok idealPublic) sampleTaken sampleFile
    rcases hsafe.2.2 pos table verified hrun .metadata metadataA hverified with
      ⟨offset, size, htable, hbytes, -, -⟩
    exact ⟨pos, table, verified, rfl, hverified, offset, size, htable, hbytes⟩

end Package

end Ssam
