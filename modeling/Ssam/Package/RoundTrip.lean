import Ssam.Package.Writer

/-!
# Writing a Package and Loading it

When a package that has been written is loaded as it was.

The writer takes payloads of every size. The loader reads no signed payload longer
than its cap, and decodes no metadata longer than its limit. These are the only
packages that are written and not loaded again.

What the encoders and decoders are relied on for is `RoundTrips`, what a pair of keys
is relied on for is `Matches`.

## Main definitions

* `RoundTrips`: What is decoded of what has been encoded.
* `Matches`: A signature of the private key is accepted with the public one.
* `LoadedAs`: The loaded package is the one that was written.
* `Readable`: The payloads are no longer than the loader allows.

## Theorems

* `loadPayloadsInfo_of_written`: The table found in a written file.
* `verify_of_located`: The payloads it places, if they are not too long.
* `wrap_round_trip_iff`: Which packages are loaded as they were written.
-/

namespace Ssam

namespace Package

open Lib

/-- Limit on the bytes a value is decoded from. -/
def ssamMaxDecodeSize : Nat := 1024 * 1024

/-- A package written under a private key is loaded with the public one. -/
def Matches (privateKey : PrivateKey) (key : PublicKey) : Prop :=
  ∀ digest signature, privateKey.sign digest = .ok signature →
    key.verify digest signature = true ∧ signature.length ≤ key.size

/-- What has been encoded is decoded again, the metadata as long as it is within the
    limit. Integers are encoded with all of their bytes, which makes the size field one
    of eight bytes and a table of places one of 133. -/
structure RoundTrips {Metadata RuntimeConfig : Type} (encoders : Encoders Metadata RuntimeConfig)
    (decoders : Decoders Metadata RuntimeConfig) : Prop where
  payloadsSize : ∀ n b rest, encoders.payloadsSize n = .ok b →
    b.length = payloadsSizeLen ∧ decoders.payloadsSize (b ++ rest) = .ok n
  payloads : ∀ p b rest, (∀ t, ∃ offset size, p t = some (some (.internal offset size))) →
    encoders.payloads p = .ok b → b.length = 133 ∧ decoders.payloads (b ++ rest) = .ok p
  metadata : ∀ m b, encoders.metadata m = .ok b →
    (decoders.metadata b = .ok m ↔ b.length ≤ ssamMaxDecodeSize)
  runtimeConfig : ∀ c b, encoders.runtimeConfig c = .ok b → decoders.runtimeConfig b = .ok c

/-- The package loaded from the file is the one that was written, and has the image. -/
structure LoadedAs {Metadata RuntimeConfig : Type} (file image : Bytes)
    (pkg loaded : PackageFile Metadata RuntimeConfig) : Prop where
  metadata : loaded.metadata = pkg.metadata
  runtimeConfig : loaded.runtimeConfig = pkg.runtimeConfig
  seccompPolicy : loaded.seccompPolicy = pkg.seccompPolicy
  image : loaded.payloads.extract file .packageFilesystem = some image

/-- The metadata is within the limit of the decoder, and the other signed payloads are
    within the cap. -/
def Readable {Metadata RuntimeConfig : Type} (encoders : Encoders Metadata RuntimeConfig)
    (pkg : PackageFile Metadata RuntimeConfig) : Prop :=
  (∀ b, encoders.metadata pkg.metadata = .ok b → b.length ≤ ssamMaxDecodeSize) ∧
    (∀ b, encoders.runtimeConfig pkg.runtimeConfig = .ok b → b.length ≤ maxVerifyPayloadSize) ∧
    pkg.seccompPolicy.length ≤ maxVerifyPayloadSize

section Read

/-- Bytes in the middle of a file are what is read there. -/
theorem readExact_append (before bytes after : Bytes) :
    readExact (before ++ bytes ++ after) before.length bytes.length = .ok bytes := by
  have hlen : before.length + bytes.length ≤ (before ++ bytes ++ after).length := by
    rw [List.length_append, List.length_append]
    omega
  rw [readExact, if_pos hlen, List.append_assoc, List.drop_left, List.take_left]

theorem readFooterField_append (before field after : Bytes) :
    readFooterField (before ++ field ++ after) field.length (field.length + after.length) =
      .ok field := by
  have hlen : (before ++ field ++ after).length =
      before.length + (field.length + after.length) := by
    rw [List.length_append, List.length_append, Nat.add_assoc]
  rw [readFooterField, if_neg (by omega), hlen, Nat.add_sub_cancel, readExact_append]
  rfl

/-- A payload that lies in the file is read unless it is too long. -/
theorem readPayload_of_liesAt {file : Bytes} {p : Payloads} {t : PayloadType} {bytes : Bytes}
    (h : LiesAt file p t bytes) :
    ∃ offset size, p t = some (some (.internal offset size)) ∧ ∀ maxAllowedSize,
      (bytes.length ≤ maxAllowedSize →
        readPayload file offset size maxAllowedSize = .ok bytes) ∧
      (maxAllowedSize < bytes.length →
        ∃ e, readPayload file offset size maxAllowedSize = .error e) := by
  rcases h with ⟨offset, size, hp, hsize, hin, hbytes⟩
  refine ⟨offset, size, hp, fun maxAllowedSize => ⟨fun hle => ?_, fun hlt => ?_⟩⟩
  · have hseek : seekToPayload file offset size = .ok () := by
      rw [seekToPayload, if_neg]
      omega
    have hread : readExact file offset.toNat size.toNat = .ok bytes := by
      rw [readExact, if_pos hin, hbytes]
    rw [readPayload, if_neg (by omega), hseek, hread]
    rfl
  · exact ⟨_, by rw [readPayload, if_pos (by omega)]⟩

/-- The signed payloads as they are verified. -/
def verifiedOf (metadata runtimeConfig seccomp : Bytes) : VerifiedPayloads :=
  Function.update (Function.update (Function.update (fun _ => none) .metadata (some metadata))
    .runtimeConfig (some runtimeConfig)) .seccompPolicy (some seccomp)

variable {sha256 : Bytes → Bytes} {key : PublicKey} {file : Bytes} {table : Payloads}
  {metadata runtimeConfig seccomp signature image : Bytes}

/-- The payloads that lie in the file are verified if none of them is too long, and
    not if one is. -/
theorem verify_of_located
    (hlies : ∀ t, LiesAt file table t
      (contents metadata runtimeConfig seccomp signature image t))
    (hsize : signature.length ≤ key.size)
    (hverify : key.verify (sha256 (metadata ++ runtimeConfig ++ seccomp)) signature = true) :
    (metadata.length ≤ maxVerifyPayloadSize ∧ runtimeConfig.length ≤ maxVerifyPayloadSize ∧
        seccomp.length ≤ maxVerifyPayloadSize →
      table.verify sha256 (.ok key) file = .ok (verifiedOf metadata runtimeConfig seccomp)) ∧
    (¬ (metadata.length ≤ maxVerifyPayloadSize ∧ runtimeConfig.length ≤ maxVerifyPayloadSize ∧
        seccomp.length ≤ maxVerifyPayloadSize) →
      ∃ e, table.verify sha256 (.ok key) file = .error e) := by
  rcases readPayload_of_liesAt (hlies .metadata) with ⟨mo, ms, hm, hmread⟩
  rcases readPayload_of_liesAt (hlies .runtimeConfig) with ⟨ro, rs, hr, hrread⟩
  rcases readPayload_of_liesAt (hlies .seccompPolicy) with ⟨so, ss, hs, hsread⟩
  rcases readPayload_of_liesAt (hlies .signature) with ⟨go, gs, hg, hgread⟩
  rcases readPayload_of_liesAt (hlies .packageFilesystem) with ⟨fo, fs, hf, -⟩
  have hsig : Payloads.readSignature file table key = .ok signature := by
    rw [Payloads.readSignature, Payloads.get, hg]
    exact (hgread key.size).1 hsize
  -- What verifying comes to, as the three reads one after another.
  have hrun : table.verify sha256 (.ok key) file = (do
      let m ← readPayload file mo ms maxVerifyPayloadSize
      let r ← readPayload file ro rs maxVerifyPayloadSize
      let s ← readPayload file so ss maxVerifyPayloadSize
      if key.verify (sha256 ([] ++ m ++ r ++ s)) signature then
        .ok (verifiedOf m r s)
      else .error .signatureVerificationFailed) := by
    unfold Payloads.verify
    simp only [bind, Except.bind, hsig, PayloadType.all, List.foldlM_cons, List.foldlM_nil,
      Payloads.verifyEntry, hm, hr, hs, hg, hf, PayloadType.needVerify, if_true,
      Bool.false_eq_true, if_false, pure, Except.pure]
    cases readPayload file mo ms maxVerifyPayloadSize with
    | error e => rfl
    | ok m =>
        cases readPayload file ro rs maxVerifyPayloadSize with
        | error e => rfl
        | ok r => cases readPayload file so ss maxVerifyPayloadSize <;> rfl
  rw [hrun]
  constructor
  · rintro ⟨hml, hrl, hsl⟩
    simp only [bind, Except.bind, (hmread _).1 hml, (hrread _).1 hrl, (hsread _).1 hsl]
    exact if_pos hverify
  · intro hlong
    by_cases hml : metadata.length ≤ maxVerifyPayloadSize
    · by_cases hrl : runtimeConfig.length ≤ maxVerifyPayloadSize
      · have hsl : maxVerifyPayloadSize < seccomp.length :=
          Nat.lt_of_not_le fun hsl => hlong ⟨hml, hrl, hsl⟩
        rcases (hsread _).2 hsl with ⟨e, he⟩
        exact ⟨e, by simp only [bind, Except.bind, (hmread _).1 hml, (hrread _).1 hrl, he]⟩
      · rcases (hrread _).2 (Nat.lt_of_not_le hrl) with ⟨e, he⟩
        exact ⟨e, by simp only [bind, Except.bind, (hmread _).1 hml, he]⟩
    · rcases (hmread _).2 (Nat.lt_of_not_le hml) with ⟨e, he⟩
      exact ⟨e, by simp only [bind, Except.bind, he]⟩

end Read

section Load

variable {Metadata RuntimeConfig : Type} {encoders : Encoders Metadata RuntimeConfig}
  {decoders : Decoders Metadata RuntimeConfig} {sha256 : Bytes → Bytes}
  {publicKey : Except Error PublicKey} {file archive serialized sizeField : Bytes}
  {content : PayloadType → Bytes} {table : Payloads}

/-- The footer that is written is the one that is looked for. -/
theorem verifyFooter_append (before : Bytes) :
    verifyFooter (before ++ pkgFormatVersion ++ pkgMagic) = .ok () := by
  have hmagic : readFooterField (before ++ pkgFormatVersion ++ pkgMagic) pkgMagicLen pkgMagicLen =
      .ok pkgMagic := by
    have h := readFooterField_append (before ++ pkgFormatVersion) pkgMagic []
    rw [List.append_nil] at h
    exact h
  have hversion : readFooterField (before ++ pkgFormatVersion ++ pkgMagic)
      pkgFormatVersion.length pkgFooterLen = .ok pkgFormatVersion :=
    readFooterField_append before pkgFormatVersion pkgMagic
  rw [verifyFooter, hmagic]
  simp only [bind, Except.bind, ne_eq, not_true_eq_false, if_false, hversion]

/-- The table is found in a file that has been written, and its payloads are what is
    verified. -/
theorem loadPayloadsInfo_of_written (hcodec : RoundTrips encoders decoders)
    (h : Written encoders file content table archive serialized sizeField) :
    loadPayloadsInfo decoders sha256 publicKey file =
      table.verify sha256 publicKey file >>= fun verified => .ok (table, verified) := by
  have hplaces : ∀ t, ∃ offset size, table t = some (some (.internal offset size)) :=
    fun t => (h.located t).imp fun _ hs => hs.imp fun _ hp => hp.1
  -- What is decoded is followed by the rest of the file.
  let footer := pkgFormatVersion ++ pkgMagic
  rcases hcodec.payloadsSize _ _ footer h.size with ⟨hsizeLen, hsizeField⟩
  rcases hcodec.payloads _ _ (sizeField ++ footer) hplaces h.table with ⟨hlen, hdecode⟩
  have hfooterLen : footer.length = pkgFooterLen := rfl
  have hfile : file = archive ++ serialized ++ sizeField ++ footer := by
    rw [h.layout, List.append_assoc (archive ++ serialized ++ sizeField)]
  have htotal : file.length = archive.length + serialized.length +
      (pkgFooterLen + payloadsSizeLen) := by
    rw [hfile, List.length_append, List.length_append, List.length_append, hsizeLen, hfooterLen]
    omega
  -- The size field is found from the end, and the table from the size.
  have hmax : file.length - (pkgFooterLen + payloadsSizeLen) =
      (archive ++ serialized).length := by
    rw [htotal, List.length_append, Nat.add_sub_cancel]
  have hdropSize : file.drop (archive ++ serialized).length = sizeField ++ footer := by
    rw [hfile, List.append_assoc (archive ++ serialized), List.drop_left]
  have hnat : serialized.length.toUInt64.toNat = serialized.length := by
    rw [hlen]
    rfl
  have hoffset : file.length - (pkgFooterLen + payloadsSizeLen +
      serialized.length.toUInt64.toNat) = archive.length := by
    rw [hnat, htotal]
    omega
  have hdropTable : file.drop archive.length = serialized ++ (sizeField ++ footer) := by
    rw [hfile, List.append_assoc, List.append_assoc, List.drop_left]
  have hfits : ¬ (archive ++ serialized).length < serialized.length.toUInt64.toNat := by
    rw [hnat, List.length_append]
    omega
  have hfooter : verifyFooter file = .ok () := by
    rw [h.layout]
    exact verifyFooter_append _
  rw [loadPayloadsInfo, hfooter, hmax]
  simp only [bind, Except.bind, hdropSize, hsizeField, parseFailed, if_neg hfits, hoffset,
    hdropTable, hdecode]

/-- What the loader makes of the verified payloads. -/
theorem fromFileVerified_of_verified {packageFile : String} {metadata runtimeConfig seccomp : Bytes}
    (h : loadPayloadsInfo decoders sha256 publicKey file =
      .ok (table, verifiedOf metadata runtimeConfig seccomp)) :
    fromFileVerified decoders sha256 publicKey packageFile (.ok file) = (do
      let m ← parseFailed "Failed to decode metadata" (decoders.metadata metadata)
      let r ← parseFailed "Failed to parse runtime config" (decoders.runtimeConfig runtimeConfig)
      parseFailed "Failed to parse seccomp policy" (decoders.json seccomp)
      .ok ⟨m, r, seccomp, table⟩) := by
  unfold fromFileVerified
  simp only [bind, Except.bind, h, VerifiedPayloads.require, verifiedOf, Function.update_apply,
    reduceCtorEq, if_false, if_true]

/-- A file whose payloads are not verified is not loaded. -/
theorem fromFileVerified_of_error {packageFile : String} {e : PackageParseError}
    (h : loadPayloadsInfo decoders sha256 publicKey file = .error e) :
    fromFileVerified decoders sha256 publicKey packageFile (.ok file) = .error e := by
  unfold fromFileVerified
  simp only [bind, Except.bind, h]

end Load

section Written

variable {Metadata RuntimeConfig : Type} {encoders : Encoders Metadata RuntimeConfig}
  {decoders : Decoders Metadata RuntimeConfig} {sha256 : Bytes → Bytes}
  {readFile : String → Except Error Bytes} {zip : ZipWriter} {output : OutputFile}
  {privateKey : PrivateKey} {key : PublicKey} {pkg : PackageFile Metadata RuntimeConfig}
  {file : Bytes}

/-- How the loader gets on with a file that has been written: its payloads are
    verified, unless one of them is too long. -/
theorem loadPayloadsInfo_of_wrap (hzip : StoresVerbatim zip) (hkeys : Matches privateKey key)
    (hcodec : RoundTrips encoders decoders)
    (hwrap : wrap encoders sha256 readFile zip output (.ok privateKey) pkg = .ok file) :
    ∃ metadata runtimeConfig image table, encoders.metadata pkg.metadata = .ok metadata ∧
      encoders.runtimeConfig pkg.runtimeConfig = .ok runtimeConfig ∧
      payloadBytes readFile .packageFilesystem (pkg.payloads.get .packageFilesystem) = .ok image ∧
      table.extract file .packageFilesystem = some image ∧
      (metadata.length ≤ maxVerifyPayloadSize ∧ runtimeConfig.length ≤ maxVerifyPayloadSize ∧
          pkg.seccompPolicy.length ≤ maxVerifyPayloadSize →
        loadPayloadsInfo decoders sha256 (.ok key) file =
          .ok (table, verifiedOf metadata runtimeConfig pkg.seccompPolicy)) ∧
      (¬ (metadata.length ≤ maxVerifyPayloadSize ∧ runtimeConfig.length ≤ maxVerifyPayloadSize ∧
          pkg.seccompPolicy.length ≤ maxVerifyPayloadSize) →
        ∃ e, loadPayloadsInfo decoders sha256 (.ok key) file = .error e) := by
  rcases wrap_eq_ok hzip hwrap with ⟨metadata, runtimeConfig, signature, image, table, archive,
    serialized, sizeField, hmetadata, hruntime, hsign, himage, hwritten⟩
  rcases hkeys _ _ hsign with ⟨hverify, hsize⟩
  -- The archive is at the beginning, so the places in it are places in the file.
  have hlies : ∀ t, LiesAt file table t
      (contents metadata runtimeConfig pkg.seccompPolicy signature image t) := by
    intro t
    rw [hwritten.layout, List.append_assoc, List.append_assoc, List.append_assoc]
    exact (hwritten.located t).append _
  rcases verify_of_located hlies hsize hverify with ⟨hverified, hrefused⟩
  have hinfo : loadPayloadsInfo decoders sha256 (.ok key) file =
      table.verify sha256 (.ok key) file >>= fun verified => .ok (table, verified) :=
    loadPayloadsInfo_of_written hcodec hwritten
  refine ⟨metadata, runtimeConfig, image, table, hmetadata, hruntime, himage,
    extract_of_liesAt (hlies .packageFilesystem), fun h => ?_, fun h => ?_⟩
  · rw [hinfo, hverified h]
    rfl
  · rcases hrefused h with ⟨e, he⟩
    exact ⟨e, by rw [hinfo, he]; rfl⟩

/-- A package that has been written is loaded as it was, with the bytes of its image,
    exactly when its metadata is within the limit of the decoder and its other signed
    payloads are within the cap. -/
theorem wrap_round_trip_iff (hzip : StoresVerbatim zip) (hkeys : Matches privateKey key)
    (hcodec : RoundTrips encoders decoders) (hjson : decoders.json pkg.seccompPolicy = .ok ())
    (hwrap : wrap encoders sha256 readFile zip output (.ok privateKey) pkg = .ok file) :
    (∃ loaded image, fromFileVerified decoders sha256 (.ok key) output.path (.ok file) =
        .ok loaded ∧
      payloadBytes readFile .packageFilesystem (pkg.payloads.get .packageFilesystem) =
        .ok image ∧
      LoadedAs file image pkg loaded) ↔ Readable encoders pkg := by
  rcases loadPayloadsInfo_of_wrap hzip hkeys hcodec hwrap with
    ⟨metadata, runtimeConfig, image, table, hmetadata, hruntime, himage, hextract, hverified,
      hrefused⟩
  have hreadable : Readable encoders pkg ↔ metadata.length ≤ ssamMaxDecodeSize ∧
      runtimeConfig.length ≤ maxVerifyPayloadSize ∧
        pkg.seccompPolicy.length ≤ maxVerifyPayloadSize := by
    simp only [Readable, hmetadata, hruntime, Except.ok.injEq, forall_eq']
  have hcap : metadata.length ≤ ssamMaxDecodeSize → metadata.length ≤ maxVerifyPayloadSize :=
    fun h => Nat.le_trans h (by decide)
  rw [hreadable]
  constructor
  · rintro ⟨loaded, image', hload, -, hloaded⟩
    by_cases hsizes : metadata.length ≤ maxVerifyPayloadSize ∧
        runtimeConfig.length ≤ maxVerifyPayloadSize ∧
          pkg.seccompPolicy.length ≤ maxVerifyPayloadSize
    · rw [fromFileVerified_of_verified (hverified hsizes)] at hload
      rcases except_bind_eq_ok.mp hload with ⟨m, hm, hload⟩
      rcases except_bind_eq_ok.mp hload with ⟨r, -, hload⟩
      rcases except_bind_eq_ok.mp hload with ⟨_, -, hload⟩
      have hloadedMetadata : loaded.metadata = m := by rw [← Except.ok.inj hload]
      -- The metadata was decoded as what it had been.
      have hdecoded : decoders.metadata metadata = .ok pkg.metadata := by
        rw [← hloaded.metadata, hloadedMetadata]
        exact parseFailed_eq_ok.mp hm
      exact ⟨(hcodec.metadata _ _ hmetadata).mp hdecoded, hsizes.2⟩
    · rcases hrefused hsizes with ⟨e, he⟩
      rw [fromFileVerified_of_error he] at hload
      exact absurd hload (by simp only [reduceCtorEq, not_false_eq_true])
  · rintro ⟨hm, hr, hs⟩
    have hdecoded := (hcodec.metadata _ _ hmetadata).mpr hm
    refine ⟨⟨pkg.metadata, pkg.runtimeConfig, pkg.seccompPolicy, table⟩, image, ?_, himage,
      ⟨rfl, rfl, rfl, hextract⟩⟩
    rw [fromFileVerified_of_verified (hverified ⟨hcap hm, hr, hs⟩), hdecoded,
      hcodec.runtimeConfig _ _ hruntime, hjson]
    rfl

end Written

section Plain

theorem leBytes_succ (n v : Nat) : leBytes (n + 1) v = v.toUInt8 :: leBytes n (v / 256) := by
  rw [leBytes, leBytes, List.range_succ_eq_map, List.map_cons, List.map_map, Nat.pow_zero,
    Nat.div_one]
  refine congrArg _ (List.map_congr_left fun i _ => ?_)
  rw [Function.comp_apply, Nat.pow_succ', Nat.div_div_eq_div_mul]

theorem length_leBytes (n v : Nat) : (leBytes n v).length = n := by
  rw [leBytes, List.length_map, List.length_range]

theorem take_leBytes (n v : Nat) (rest : Bytes) : (leBytes n v ++ rest).take n = leBytes n v :=
  List.take_left' (length_leBytes n v)

theorem drop_leBytes (n v : Nat) (rest : Bytes) : (leBytes n v ++ rest).drop n = rest :=
  List.drop_left' (length_leBytes n v)

/-- A number is read from its bytes, as far as these go. -/
theorem leValue_leBytes (n v : Nat) : leValue (leBytes n v) = v % 256 ^ n := by
  induction n generalizing v with
  | zero => rw [Nat.pow_zero, Nat.mod_one]; rfl
  | succ n ih =>
      have hvalue : leValue (leBytes (n + 1) v) =
          v % 256 + 256 * leValue (leBytes n (v / 256)) := by
        rw [leBytes_succ, leValue, List.foldr_cons]
        rfl
      rw [hvalue, ih, Nat.pow_succ', Nat.mod_mul]

theorem leValue_uint64 (n : UInt64) : (leValue (leBytes 8 n.toNat)).toUInt64 = n := by
  rw [leValue_leBytes, Nat.mod_eq_of_lt (by have := n.toNat_lt; omega)]
  exact UInt64.ofNat_toNat

/-- The place of a payload, as the table gives it. -/
def Payloads.place (p : Payloads) (t : PayloadType) : UInt64 × UInt64 :=
  match p t with
  | some (some (.internal offset size)) => (offset, size)
  | _ => (0, 0)

/-- The entry of the `i`th type with its place. -/
def encEntry (i : Nat) (place : UInt64 × UInt64) : Bytes :=
  leBytes 4 i ++ [1] ++ leBytes 4 0 ++ leBytes 8 place.1.toNat ++ leBytes 8 place.2.toNat

/-- The entries from the `i`th on. -/
def encEntries : Nat → List (UInt64 × UInt64) → Bytes
  | _, [] => []
  | i, place :: places => encEntry i place ++ encEntries (i + 1) places

/-- The places of `n` entries. -/
def decEntries : Nat → Bytes → List (UInt64 × UInt64)
  | 0, _ => []
  | n + 1, bytes => ((leValue ((bytes.drop 9).take 8)).toUInt64,
      (leValue ((bytes.drop 17).take 8)).toUInt64) :: decEntries n (bytes.drop 25)

theorem length_encEntry (i : Nat) (place : UInt64 × UInt64) : (encEntry i place).length = 25 := by
  rw [encEntry]
  simp only [List.length_append, length_leBytes, List.length_singleton]

theorem decEntries_encEntries (i : Nat) (places : List (UInt64 × UInt64)) (rest : Bytes) :
    decEntries places.length (encEntries i places ++ rest) = places := by
  induction places generalizing i with
  | nil => rfl
  | cons place places ih =>
      have hentry : encEntries i (place :: places) ++ rest =
          encEntry i place ++ (encEntries (i + 1) places ++ rest) :=
        List.append_assoc _ _ _
      -- Nine bytes before the two numbers: the index, the tag and the kind.
      have hhead : (leBytes 4 i ++ [1] ++ leBytes 4 0).length = 9 := by
        simp only [List.length_append, length_leBytes, List.length_singleton]
      have hfirst : ((encEntry i place ++ (encEntries (i + 1) places ++ rest)).drop 9).take 8 =
          leBytes 8 place.1.toNat := by
        rw [encEntry, List.append_assoc, List.append_assoc (leBytes 4 i ++ [1] ++ leBytes 4 0),
          List.drop_left' hhead, take_leBytes]
      have hsecond : ((encEntry i place ++ (encEntries (i + 1) places ++ rest)).drop 17).take 8 =
          leBytes 8 place.2.toNat := by
        have hlen : (leBytes 4 i ++ [1] ++ leBytes 4 0 ++ leBytes 8 place.1.toNat).length = 17 := by
          rw [List.length_append, hhead, length_leBytes]
        rw [encEntry, List.append_assoc, List.drop_left' hlen, take_leBytes]
      have hrest : (encEntry i place ++ (encEntries (i + 1) places ++ rest)).drop 25 =
          encEntries (i + 1) places ++ rest := by
        exact List.drop_left' (length_encEntry i place)
      rw [List.length_cons, hentry, decEntries, hfirst, hsecond, hrest, ih, leValue_uint64,
        leValue_uint64]

/-- The archive of entries that are stored one after another. -/
def storedPlace (filename : String) :
    Nat → List (String × Bytes) → Except Error (UInt64 × UInt64)
  | _, [] => .error ["specified file not found in archive"]
  | pos, (name, bytes) :: entries =>
      if name = filename then .ok (pos.toUInt64, bytes.length.toUInt64)
      else storedPlace filename (pos + bytes.length) entries

def storedZip : ZipWriter := fun entries =>
  let bytes := entries.flatMap Prod.snd
  if bytes.length < 2 ^ 64 then .ok ⟨bytes, fun filename => storedPlace filename 0 entries⟩
  else .error ["Large file option has not been set"]

theorem toNat_toUInt64 {n : Nat} (h : n < 2 ^ 64) : n.toUInt64.toNat = n :=
  UInt64.toNat_ofNat_of_lt' h

/-- The place of an entry is that of its bytes. -/
theorem storedPlace_of_mem {filename : String} {bytes : Bytes} {entries : List (String × Bytes)}
    (hmem : (filename, bytes) ∈ entries) (hnodup : (entries.map Prod.fst).Nodup) (before : Bytes)
    (hlen : (before ++ entries.flatMap Prod.snd).length < 2 ^ 64) :
    ∃ offset size, storedPlace filename before.length entries = .ok (offset, size) ∧
      size.toNat = bytes.length ∧
      offset.toNat + size.toNat ≤ (before ++ entries.flatMap Prod.snd).length ∧
      ((before ++ entries.flatMap Prod.snd).drop offset.toNat).take size.toNat = bytes := by
  induction entries generalizing before with
  | nil => exact absurd hmem List.not_mem_nil
  | cons entry entries ih =>
      rcases entry with ⟨name, first⟩
      rw [List.map_cons, List.nodup_cons] at hnodup
      rw [List.flatMap_cons] at hlen ⊢
      rw [storedPlace]
      by_cases hname : name = filename
      · -- No two entries have a name in common, so this is the one.
        have hfirst : bytes = first := by
          rcases List.mem_cons.mp hmem with heq | hin
          · exact (Prod.mk.inj heq).2
          · exact absurd (List.mem_map.mpr ⟨_, hin, hname.symm⟩) hnodup.1
        rw [if_pos hname, hfirst]
        simp only [List.length_append] at hlen
        have hoffset := toNat_toUInt64 (n := before.length) (by omega)
        have hsize := toNat_toUInt64 (n := first.length) (by omega)
        refine ⟨_, _, rfl, hsize, ?_, ?_⟩
        · rw [hoffset, hsize]
          simp only [List.length_append]
          omega
        · rw [hoffset, hsize, List.drop_left, List.take_left]
      · have hin : (filename, bytes) ∈ entries := by
          rcases List.mem_cons.mp hmem with heq | hin
          · exact absurd (Prod.mk.inj heq).1.symm hname
          · exact hin
        rw [if_neg hname]
        -- The first entry is now part of what lies before.
        rw [← List.append_assoc] at hlen ⊢
        rw [← List.length_append]
        exact ih hin hnodup.2 (before ++ first) hlen

theorem storesVerbatim_storedZip : StoresVerbatim storedZip := by
  intro entries archive h hnodup filename bytes hmem
  rw [storedZip] at h
  by_cases hlen : (entries.flatMap Prod.snd).length < 2 ^ 64
  · rw [if_pos hlen] at h
    rw [← Except.ok.inj h]
    exact storedPlace_of_mem hmem hnodup [] hlen
  · rw [if_neg hlen] at h
    exact absurd h (by simp only [reduceCtorEq, not_false_eq_true])

/-- Encoders of a package that has only a name and a runtime configuration `{}`. -/
def plainEncoders : Encoders Bytes Unit where
  payloadsSize n := .ok (leBytes 8 n.toNat)
  payloads p := .ok (leBytes 8 5 ++ encEntries 0 (PayloadType.all.map p.place))
  metadata m := .ok (leBytes 8 m.length ++ m)
  runtimeConfig _ := .ok (asciiBytes "{}")

def plainDecoders : Decoders Bytes Unit where
  payloadsSize bytes := .ok (leValue (bytes.take 8)).toUInt64
  payloads bytes :=
    let places := decEntries 5 (bytes.drop 8)
    .ok fun t => (places[PayloadType.all.idxOf t]?).map fun place =>
      some (.internal place.1 place.2)
  metadata bytes :=
    if bytes.length ≤ ssamMaxDecodeSize then .ok (bytes.drop 8) else .error ["LimitExceeded"]
  runtimeConfig _ := .ok ()
  json bytes :=
    if trimJson bytes = asciiBytes "{}" then .ok () else .error ["expected value"]

theorem roundTrips_plain : RoundTrips plainEncoders plainDecoders where
  payloadsSize n b rest h := by
    rw [← Except.ok.inj h]
    refine ⟨length_leBytes 8 _, congrArg Except.ok ?_⟩
    rw [take_leBytes, leValue_uint64]
  payloads p b rest hplaces h := by
    rw [← Except.ok.inj h]
    -- Each entry has the same length, so the table of five has 133 bytes.
    have hlen : ∀ i places, (encEntries i places).length = 25 * places.length := by
      intro i places
      induction places generalizing i with
      | nil => rfl
      | cons place places ih =>
          rw [encEntries, List.length_append, length_encEntry, ih, List.length_cons]
          omega
    refine ⟨?_, congrArg Except.ok (funext fun t => ?_)⟩
    · rw [List.length_append, length_leBytes, hlen, List.length_map]
      rfl
    · have hread : decEntries 5 (encEntries 0 (PayloadType.all.map p.place) ++ rest) =
          PayloadType.all.map p.place :=
        decEntries_encEntries 0 (PayloadType.all.map p.place) rest
      rw [List.append_assoc, drop_leBytes, hread]
      rcases hplaces t with ⟨offset, size, ht⟩
      have hplace : p.place t = (offset, size) := by rw [Payloads.place, ht]
      have hget : (PayloadType.all.map p.place)[PayloadType.all.idxOf t]? = some (p.place t) := by
        cases t <;> rfl
      rw [hget, hplace, ht]
      rfl
  metadata m b h := by
    rw [← Except.ok.inj h]
    show (if (leBytes 8 m.length ++ m).length ≤ ssamMaxDecodeSize then
      Except.ok ((leBytes 8 m.length ++ m).drop 8) else .error ["LimitExceeded"]) = .ok m ↔ _
    rw [drop_leBytes]
    -- The decoder refuses what is longer than the limit.
    by_cases hle : (leBytes 8 m.length ++ m).length ≤ ssamMaxDecodeSize
    · rw [if_pos hle]
      exact iff_of_true rfl hle
    · rw [if_neg hle]
      exact iff_of_false (by simp only [reduceCtorEq, not_false_eq_true]) hle
  runtimeConfig _ _ _ := rfl

/-- A signer of what is no longer than its key. -/
def plainPrivate : PrivateKey :=
  ⟨fun digest => if digest.length ≤ 512 then .ok digest else .error ["message too long"]⟩

theorem matches_plain : Matches plainPrivate idealPublic := by
  intro digest signature h
  have h : (if digest.length ≤ 512 then Except.ok digest else .error ["message too long"]) =
      Except.ok signature := h
  split at h
  · next hlen =>
      rw [← Except.ok.inj h]
      exact ⟨decide_eq_true rfl, hlen⟩
  · exact absurd h (by simp only [reduceCtorEq, not_false_eq_true])

/-- A package `a` with this policy, and an image in a file of its own. -/
def pkgA (seccomp : Bytes) : PackageFile Bytes Unit where
  metadata := asciiBytes "a"
  runtimeConfig := ()
  seccompPolicy := seccomp
  payloads := Payloads.init.set .packageFilesystem (some (.external "a.img"))

/-- Write it where all calls go well. -/
def wrapA (seccomp : Bytes) : Except Error Bytes :=
  wrap plainEncoders (List.take 32) (fun _ => .ok [1, 2, 3]) storedZip
    ⟨"a.ssam", .ok (), .ok (), .ok (), .ok ()⟩ (.ok plainPrivate) (pkgA seccomp)

theorem exists_wrapA {seccomp : Bytes} (h : seccomp.length < 2 ^ 32) :
    ∃ file, wrapA seccomp = .ok file := by
  let metadata := leBytes 8 1 ++ asciiBytes "a"
  let runtimeConfig := asciiBytes "\x7b\x7d"
  let signature := (metadata ++ runtimeConfig ++ seccomp).take 32
  -- The signing goes through, for this key signs up to 32 bytes.
  have hsigned : (payloadsToWrap metadata runtimeConfig seccomp (some (.external "a.img"))).sign
      (List.take 32) (.ok plainPrivate) = .ok ((payloadsToWrap metadata runtimeConfig seccomp
        (some (.external "a.img"))).set .signature (some (.data signature))) := by
    have hsign : plainPrivate.sign signature = .ok signature := by
      refine if_pos (Nat.le_trans (List.length_take_le 32 _) (by decide))
    have hall : PayloadType.all.foldlM (Payloads.signEntry (payloadsToWrap metadata runtimeConfig
        seccomp (some (.external "a.img")))) [] = .ok (metadata ++ runtimeConfig ++ seccomp) := rfl
    rw [Payloads.sign, hall]
    simp only [bind, Except.bind]
    rw [hsign]
    rfl
  let entries := PayloadType.all.map fun t =>
    (t.filename, contents metadata runtimeConfig seccomp signature [1, 2, 3] t)
  -- The archive is small enough for its places to be numbers.
  have hlen : (entries.flatMap Prod.snd).length < 2 ^ 64 := by
    have hm : metadata.length = 9 := rfl
    have hr : runtimeConfig.length = 2 := rfl
    have hs : signature.length ≤ 32 := List.length_take_le 32 _
    show (metadata ++ (runtimeConfig ++ (seccomp ++ (signature ++ ([1, 2, 3] ++ []))))).length < _
    simp only [List.length_append, List.length_cons, List.length_nil, hm, hr]
    omega
  have hzip : storedZip entries =
      .ok ⟨entries.flatMap Prod.snd, fun filename => storedPlace filename 0 entries⟩ := if_pos hlen
  have hnames : (PayloadType.all.map PayloadType.filename).Nodup := by decide
  rcases exists_table Payloads.init (fun t ht => by
      rcases storesVerbatim_storedZip _ _ hzip hnames t.filename _
        (List.mem_map.mpr ⟨t, ht, rfl⟩) with ⟨offset, size, hplace, -⟩
      exact ⟨_, hplace⟩) with ⟨table, htable⟩
  have hwrapped : wrapPayloads (fun _ => .ok [1, 2, 3]) storedZip
      ((payloadsToWrap metadata runtimeConfig seccomp (some (.external "a.img"))).set .signature
        (some (.data signature))) =
      .ok ⟨entries.flatMap Prod.snd, fun filename => storedPlace filename 0 entries⟩ := by
    rw [wrapPayloads_signed]
    exact hzip
  have hinfo : ∃ info, wrapPayloadsInfo plainEncoders
      ⟨entries.flatMap Prod.snd, fun filename => storedPlace filename 0 entries⟩ = .ok info :=
    ⟨_, except_bind_eq_ok.mpr ⟨table, htable, rfl⟩⟩
  rcases hinfo with ⟨info, hinfo⟩
  refine ⟨entries.flatMap Prod.snd ++ info.1 ++ info.2 ++ pkgFormatVersion ++ pkgMagic, ?_⟩
  -- Each step of the writer succeeds.
  refine except_bind_eq_ok.mpr ⟨metadata, rfl, ?_⟩
  refine except_bind_eq_ok.mpr ⟨runtimeConfig, rfl, ?_⟩
  refine except_bind_eq_ok.mpr ⟨_, context_eq_ok.mpr hsigned, ?_⟩
  refine except_bind_eq_ok.mpr ⟨(), rfl, ?_⟩
  refine except_bind_eq_ok.mpr ⟨_, context_eq_ok.mpr hwrapped, ?_⟩
  refine except_bind_eq_ok.mpr ⟨(), rfl, ?_⟩
  refine except_bind_eq_ok.mpr ⟨info, context_eq_ok.mpr ?_, rfl⟩
  exact except_bind_eq_ok.mpr ⟨info, hinfo, rfl⟩

theorem wrap_round_trip_small :
    ∃ file loaded image, wrapA (asciiBytes "\x7b\x7d") = .ok file ∧
      fromFileVerified plainDecoders (List.take 32) (.ok idealPublic) "a.ssam" (.ok file) =
        .ok loaded ∧
      LoadedAs file image (pkgA (asciiBytes "\x7b\x7d")) loaded := by
  rcases exists_wrapA (show (asciiBytes "\x7b\x7d").length < 2 ^ 32 by decide) with ⟨file, hfile⟩
  have hreadable : Readable plainEncoders (pkgA (asciiBytes "\x7b\x7d")) := by
    refine ⟨fun b hb => ?_, fun b hb => ?_, by decide⟩
    · rw [← Except.ok.inj hb]
      decide
    · rw [← Except.ok.inj hb]
      decide
  rcases (wrap_round_trip_iff storesVerbatim_storedZip matches_plain roundTrips_plain
    (show plainDecoders.json (asciiBytes "\x7b\x7d") = .ok () by rfl) hfile).mpr hreadable with
    ⟨loaded, image, hload, -, hloaded⟩
  exact ⟨file, loaded, image, hfile, hload, hloaded⟩

/-- The empty policy with white space before it. -/
def paddedPolicy (n : Nat) : Bytes := List.replicate n 32 ++ asciiBytes "\x7b\x7d"

theorem length_paddedPolicy (n : Nat) : (paddedPolicy n).length = n + 2 := by
  rw [paddedPolicy, List.length_append, List.length_replicate]
  rfl

theorem trimJson_paddedPolicy (n : Nat) :
    trimJson (paddedPolicy n) = asciiBytes "\x7b\x7d" := by
  rw [trimJson, paddedPolicy, List.dropWhile_append_of_pos]
  · rfl
  · intro b hb
    rw [List.eq_of_mem_replicate hb]
    rfl

/-- A package with a policy over the cap is written and not loaded again. -/
theorem long_policy_not_loaded :
    ¬ ∀ (pkg : PackageFile Bytes Unit) (file : Bytes),
      plainDecoders.json pkg.seccompPolicy = .ok () →
      wrap plainEncoders (List.take 32) (fun _ => .ok [1, 2, 3]) storedZip
        ⟨"a.ssam", .ok (), .ok (), .ok (), .ok ()⟩ (.ok plainPrivate) pkg = .ok file →
      ∃ loaded image, fromFileVerified plainDecoders (List.take 32) (.ok idealPublic) "a.ssam"
        (.ok file) = .ok loaded ∧ LoadedAs file image pkg loaded := by
  intro h
  -- more than `maxVerifyPayloadSize` bytes; kept a variable, so that nothing unfolds it
  obtain ⟨n, hn⟩ : ∃ n, n = maxVerifyPayloadSize := ⟨_, rfl⟩
  have hlen : (paddedPolicy n).length = n + 2 := length_paddedPolicy n
  have hshort : (paddedPolicy n).length < 2 ^ 32 := by
    rw [hlen, hn]
    decide
  rcases exists_wrapA hshort with ⟨file, hfile⟩
  have hjson : plainDecoders.json (paddedPolicy n) = .ok () := if_pos (trimJson_paddedPolicy n)
  rcases loadPayloadsInfo_of_wrap storesVerbatim_storedZip matches_plain roundTrips_plain hfile
    with ⟨metadata, runtimeConfig, image, table, -, -, -, -, -, hrefused⟩
  have htoolong : ¬ (pkgA (paddedPolicy n)).seccompPolicy.length ≤ maxVerifyPayloadSize := by
    intro hle
    have hle' : (paddedPolicy n).length ≤ maxVerifyPayloadSize := hle
    omega
  rcases hrefused (fun hsizes => absurd hsizes.2.2 htoolong) with ⟨e, he⟩
  rcases h (pkgA (paddedPolicy n)) file hjson hfile with ⟨loaded, image', hload, -⟩
  rw [fromFileVerified_of_error he] at hload
  exact absurd hload (by simp only [reduceCtorEq, not_false_eq_true])

end Plain

end Package

end Ssam
