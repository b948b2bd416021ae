import Ssam.Package.Loader

/-!
# What a Package's Signature Fixes

The signature of a package is over the digest of three payloads one after another.
Where one of them ends and the next begins is said by the table of the file alone,
which nothing signs. A file that carries the signature of a package therefore has
the bytes that were signed, but it may cut them elsewhere: it is loaded as the
signed payloads exactly when its table gives the first two their sizes.

The hash is taken to have no collisions, and a signature to be verified for the one
digest it was made of.

## Main definitions

* `Payloads.extract`, `Payloads.sizeOf`: A region of the table.
* `LiesAt`: The bytes are at the place the table gives them.
* `payloadTable`: The table at the end of a file.
* `tableSize`, `tableRegion`: What it says of a payload.
* `loadedTriple`: The three payloads the loader takes from a file.

## Theorems

* `verifyEntries_eq_ok`: What is hashed are the regions of the table in order.
* `sign_eq_ok`: What the signature of a package is made of.
* `payloadTable_of_loaded`: The table of a file that is loaded.
* `loaded_spec`: What is known of a file that is loaded.
* `signed_triple_iff`: The sizes decide on the payloads.
* `boundary_shifted`: A file that moves one byte from a payload to the one before.
-/

namespace Ssam

namespace Package

open Lib

/-- The payloads a package is written with. -/
def payloadsToWrap (metadata runtimeConfig seccomp : Bytes) (pkgfs : Option Payload) : Payloads :=
  (((Payloads.init.set .metadata (some (.data metadata))).set .runtimeConfig
    (some (.data runtimeConfig))).set .seccompPolicy (some (.data seccomp))).set
    .packageFilesystem pkgfs

namespace Payloads

/-- The region the table gives a payload, as far as it lies in the file. -/
def extract (file : Bytes) (p : Payloads) (t : PayloadType) : Option Bytes :=
  match p t with
  | some (some (.internal offset size)) => some ((file.drop offset.toNat).take size.toNat)
  | _ => none

/-- The size the table gives a payload. -/
def sizeOf (p : Payloads) (t : PayloadType) : Option Nat :=
  match p t with
  | some (some (.internal _ size)) => some size.toNat
  | _ => none

end Payloads

/-- The table gives the payload a place in the file, and its bytes are there. -/
def LiesAt (file : Bytes) (p : Payloads) (t : PayloadType) (bytes : Bytes) : Prop :=
  ∃ offset size, p t = some (some (.internal offset size)) ∧ size.toNat = bytes.length ∧
    offset.toNat + size.toNat ≤ file.length ∧
    (file.drop offset.toNat).take size.toNat = bytes

theorem extract_of_liesAt {file : Bytes} {p : Payloads} {t : PayloadType} {bytes : Bytes}
    (h : LiesAt file p t bytes) : p.extract file t = some bytes := by
  rcases h with ⟨offset, size, hp, -, -, hbytes⟩
  rw [Payloads.extract, hp]
  exact congrArg some hbytes

theorem sizeOf_of_liesAt {file : Bytes} {p : Payloads} {t : PayloadType} {bytes : Bytes}
    (h : LiesAt file p t bytes) : p.sizeOf t = some bytes.length := by
  rcases h with ⟨offset, size, hp, hsize, -, -⟩
  rw [Payloads.sizeOf, hp]
  exact congrArg some hsize

/-- What is read is the region asked for, and all of it. -/
theorem readPayload_eq_ok {file : Bytes} {offset size : UInt64} {maxAllowedSize : Nat}
    {buf : Bytes} (h : readPayload file offset size maxAllowedSize = .ok buf) :
    size.toNat ≤ maxAllowedSize ∧ offset.toNat + size.toNat ≤ file.length ∧
      (file.drop offset.toNat).take size.toNat = buf ∧ size.toNat = buf.length := by
  unfold readPayload at h
  split at h
  · exact absurd h (by simp only [reduceCtorEq, not_false_eq_true])
  · rename_i hmax
    rcases except_bind_eq_ok.mp h with ⟨_, -, hread⟩
    unfold readExact at hread
    split at hread
    · rename_i hin
      have hbuf : (file.drop offset.toNat).take size.toNat = buf := Except.ok.inj hread
      refine ⟨Nat.le_of_not_lt hmax, hin, hbuf, ?_⟩
      rw [← hbuf, List.length_take, List.length_drop]
      omega
    · exact absurd hread (by rintro ⟨⟩)

/-- An entry is left out, or its region is hashed and kept. -/
theorem verifyEntry_eq_ok {file : Bytes} {p : Payloads} {acc acc' : Bytes × VerifiedPayloads}
    {t : PayloadType} (h : Payloads.verifyEntry file p acc t = .ok acc') :
    acc' = acc ∧ (t.needVerify = true → p t = none) ∨
      t.needVerify = true ∧ ∃ buf, LiesAt file p t buf ∧ buf.length ≤ maxVerifyPayloadSize ∧
        acc' = (acc.1 ++ buf, Function.update acc.2 t (some buf)) := by
  unfold Payloads.verifyEntry at h
  cases hp : p t with
  | none =>
      rw [hp] at h
      -- A payload that the table leaves out adds nothing.
      exact Or.inl ⟨(Except.ok.inj h).symm, fun _ => rfl⟩
  | some payload =>
      simp only [hp] at h
      split at h
      · rename_i hneed
        split at h
        · exact absurd h (by rintro ⟨⟩)
        · -- The payload is read from its place in the file.
          rename_i offset size
          rcases except_bind_eq_ok.mp h with ⟨buf, hread, hacc⟩
          rcases readPayload_eq_ok hread with ⟨hmax, hin, hbuf, hlen⟩
          exact Or.inr ⟨hneed, buf, ⟨offset, size, hp, hlen, hin, hbuf⟩, hlen ▸ hmax,
            (Except.ok.inj hacc).symm⟩
        · exact absurd h (by rintro ⟨⟩)
      · rename_i hneed
        exact Or.inl ⟨(Except.ok.inj h).symm, fun hn => absurd hn hneed⟩

/-- The bytes of the verified payloads of these types, in their order. -/
def hashedBytes (verified : VerifiedPayloads) (ts : List PayloadType) : Bytes :=
  ts.flatMap fun t => (verified t).getD []

/-- What is hashed are the regions of the table, one after another. -/
theorem verifyEntries_eq_ok {file : Bytes} {p : Payloads} {ts : List PayloadType}
    (hnodup : ts.Nodup) {acc acc' : Bytes × VerifiedPayloads}
    (hnew : ∀ t ∈ ts, acc.2 t = none)
    (h : ts.foldlM (Payloads.verifyEntry file p) acc = .ok acc') :
    acc'.1 = acc.1 ++ hashedBytes acc'.2 ts ∧ (∀ t, t ∉ ts → acc'.2 t = acc.2 t) ∧
      ∀ t ∈ ts, ∀ buf, acc'.2 t = some buf →
        t.needVerify = true ∧ LiesAt file p t buf ∧ buf.length ≤ maxVerifyPayloadSize := by
  induction ts generalizing acc with
  | nil =>
      have hacc : acc = acc' := Except.ok.inj h
      refine ⟨?_, fun t _ => by rw [hacc], fun t ht => absurd ht List.not_mem_nil⟩
      rw [← hacc, hashedBytes, List.flatMap_nil, List.append_nil]
  | cons t ts ih =>
      rw [List.foldlM_cons] at h
      rcases List.nodup_cons.mp hnodup with ⟨htnot, hnodup'⟩
      cases hentry : Payloads.verifyEntry file p acc t with
      | error e =>
          rw [hentry] at h
          exact absurd h (by rintro ⟨⟩)
      | ok acc₁ =>
          rw [hentry] at h
          -- The first payload is passed over or read, and the others do not touch it.
          have hcases := verifyEntry_eq_ok hentry
          have hother : ∀ u, u ≠ t → acc₁.2 u = acc.2 u := by
            intro u hu
            rcases hcases with ⟨rfl, _⟩ | ⟨_, buf, _, _, rfl⟩
            · rfl
            · exact Function.update_of_ne hu _ _
          have hnew₁ : ∀ u ∈ ts, acc₁.2 u = none := by
            intro u hu
            have hne : u ≠ t := fun heq => htnot (heq ▸ hu)
            exact (hother u hne).trans (hnew u (List.mem_cons_of_mem t hu))
          rcases ih hnodup' hnew₁ h with ⟨hbytes, houtside, hinside⟩
          have ht : acc'.2 t = acc₁.2 t := houtside t htnot
          refine ⟨?_, fun u hu => ?_, fun u hu buf hbuf => ?_⟩
          · rw [hbytes, hashedBytes, hashedBytes, List.flatMap_cons, ht, ← List.append_assoc]
            -- What the first one adds to the hash is what it has put into the map.
            congr 1
            rcases hcases with ⟨rfl, _⟩ | ⟨_, buf, _, _, rfl⟩
            · rw [hnew t List.mem_cons_self, Option.getD_none, List.append_nil]
            · simp only [Function.update_self, Option.getD_some]
          · have hne : u ≠ t := fun heq => hu (heq ▸ List.mem_cons_self)
            have hnot : u ∉ ts := fun hmem => hu (List.mem_cons_of_mem t hmem)
            exact (houtside u hnot).trans (hother u hne)
          · rcases List.mem_cons.mp hu with rfl | hu
            · rw [ht] at hbuf
              rcases hcases with ⟨rfl, _⟩ | ⟨hneed, buf', hlies, hmax, rfl⟩
              · rw [hnew u List.mem_cons_self] at hbuf
                exact absurd hbuf.symm (Option.some_ne_none buf)
              · simp only [Function.update_self] at hbuf
                rw [← Option.some.inj hbuf]
                exact ⟨hneed, hlies, hmax⟩
            · exact hinside u hu buf hbuf

/-- The metadata, the runtime configuration and the seccomp policy that the loader
    takes from the file. -/
def loadedTriple {Metadata RuntimeConfig : Type} (decoders : Decoders Metadata RuntimeConfig)
    (sha256 : Bytes → Bytes) (publicKey : Except Error PublicKey) (file : Bytes) :
    Option (Bytes × Bytes × Bytes) :=
  match loadPayloadsInfo decoders sha256 publicKey file with
  | .error _ => none
  | .ok (_, verified) =>
      (verified .metadata).bind fun metadata =>
        (verified .runtimeConfig).bind fun runtimeConfig =>
          (verified .seccompPolicy).map fun seccomp => (metadata, runtimeConfig, seccomp)

theorem parseFailed_eq_ok {α : Type} {msg : String} {r : Except Error α} {a : α} :
    parseFailed msg r = .ok a ↔ r = .ok a := by
  cases r with
  | ok b => simp only [parseFailed, Except.ok.injEq]
  | error e => simp only [parseFailed, reduceCtorEq]

/-- The table at the end of the file, as the field before the footer gives its size. -/
def payloadTable {Metadata RuntimeConfig : Type} (decoders : Decoders Metadata RuntimeConfig)
    (file : Bytes) : Option Payloads :=
  let maxPayloadsSize := file.length - (pkgFooterLen + payloadsSizeLen)
  (decoders.payloadsSize (file.drop maxPayloadsSize)).toOption.bind fun size =>
    (decoders.payloads (file.drop (maxPayloadsSize - size.toNat))).toOption

/-- The size the table of the file gives a payload. -/
def tableSize {Metadata RuntimeConfig : Type} (decoders : Decoders Metadata RuntimeConfig)
    (file : Bytes) (t : PayloadType) : Option Nat :=
  (payloadTable decoders file).bind fun p => p.sizeOf t

/-- The bytes of a payload, where the table of the file has them. -/
def tableRegion {Metadata RuntimeConfig : Type} (decoders : Decoders Metadata RuntimeConfig)
    (file : Bytes) (t : PayloadType) : Option Bytes :=
  (payloadTable decoders file).bind fun p => p.extract file t

section Integrity

variable {Metadata RuntimeConfig : Type} {decoders : Decoders Metadata RuntimeConfig}
  {sha256 : Bytes → Bytes} {key : PublicKey} {file : Bytes}

theorem readSignature_eq_ok {p : Payloads} {signature : Bytes}
    (h : Payloads.readSignature file p key = .ok signature) :
    p.extract file .signature = some signature := by
  unfold Payloads.readSignature at h
  split at h
  · rename_i offset size hget
    have hp : p .signature = some (some (.internal offset size)) := Option.join_eq_some_iff.mp hget
    rcases readPayload_eq_ok h with ⟨-, hin, hbytes, hlen⟩
    exact extract_of_liesAt ⟨offset, size, hp, hlen, hin, hbytes⟩
  · exact absurd h (by rintro ⟨⟩)

/-- A file whose payloads are verified has a signature of the digest of them, and they
    are the regions its table gives them. -/
theorem verify_eq_ok {publicKey : Except Error PublicKey} {p : Payloads}
    {verified : VerifiedPayloads} (h : p.verify sha256 publicKey file = .ok verified) :
    (∃ key signature, publicKey = .ok key ∧ p.extract file .signature = some signature ∧
      key.verify (sha256 (hashedBytes verified PayloadType.all)) signature = true) ∧
      ∀ t buf, verified t = some buf →
        t.needVerify = true ∧ LiesAt file p t buf ∧ buf.length ≤ maxVerifyPayloadSize := by
  cases publicKey with
  | error e => exact absurd h (by rintro ⟨⟩)
  | ok key =>
      unfold Payloads.verify at h
      simp only [bind, Except.bind] at h
      -- The signature is read first, then the payloads, and then they are compared.
      cases hsig : Payloads.readSignature file p key with
      | error e =>
          rw [hsig] at h
          exact absurd h (by rintro ⟨⟩)
      | ok signature =>
          rw [hsig] at h
          simp only at h
          cases hall : PayloadType.all.foldlM (Payloads.verifyEntry file p) ([], fun _ => none) with
          | error e =>
              rw [hall] at h
              exact absurd h (by rintro ⟨⟩)
          | ok acc =>
              rw [hall] at h
              simp only at h
              split at h
              · rename_i hverify
                have hacc : acc.2 = verified := Except.ok.inj h
                rcases verifyEntries_eq_ok (by decide) (fun _ _ => rfl) hall with
                  ⟨hbytes, _, hinside⟩
                rw [List.nil_append, hacc] at hbytes
                rw [hbytes] at hverify
                refine ⟨⟨key, signature, rfl, readSignature_eq_ok hsig, hverify⟩,
                  fun t buf hbuf => ?_⟩
                -- Every payload is one of those that are gone through.
                have hmem : t ∈ PayloadType.all := by cases t <;> decide
                exact hinside t hmem buf (by rw [hacc]; exact hbuf)
              · exact absurd h (by rintro ⟨⟩)

/-- Signing a package signs the digest of its three payloads one after another. -/
theorem sign_eq_ok {privateKey : PrivateKey} {metadata runtimeConfig seccomp : Bytes}
    {pkgfs : Option Payload} {signed : Payloads}
    (h : (payloadsToWrap metadata runtimeConfig seccomp pkgfs).sign sha256 (.ok privateKey) =
      .ok signed) :
    ∃ signature, privateKey.sign (sha256 (metadata ++ runtimeConfig ++ seccomp)) = .ok signature ∧
      signed .signature = some (some (.data signature)) := by
  have hall : PayloadType.all.foldlM
      (Payloads.signEntry (payloadsToWrap metadata runtimeConfig seccomp pkgfs)) [] =
        .ok (metadata ++ runtimeConfig ++ seccomp) := rfl
  rw [Payloads.sign, hall] at h
  simp only [bind, Except.bind] at h
  cases hsign : privateKey.sign (sha256 (metadata ++ runtimeConfig ++ seccomp)) with
  | error e =>
      rw [hsign] at h
      exact absurd h (by rintro ⟨⟩)
  | ok signature =>
      rw [hsign] at h
      refine ⟨signature, rfl, ?_⟩
      rw [← Except.ok.inj h]
      exact Function.update_self _ _ _

/-- The table of a loaded file is the one at its end, and its payloads are verified. -/
theorem payloadTable_of_loaded {publicKey : Except Error PublicKey} {table : Payloads}
    {verified : VerifiedPayloads}
    (h : loadPayloadsInfo decoders sha256 publicKey file = .ok (table, verified)) :
    payloadTable decoders file = some table ∧
      table.verify sha256 publicKey file = .ok verified := by
  unfold loadPayloadsInfo at h
  simp only [except_bind_eq_ok] at h
  rcases h with ⟨_, _, size, hsize, h⟩
  split at h
  · exact absurd h (by rintro ⟨⟩)
  · simp only [except_bind_eq_ok, Except.ok.injEq, Prod.mk.injEq] at h
    rcases h with ⟨p, hp, v, hv, rfl, rfl⟩
    rw [← Nat.sub_sub] at hp
    refine ⟨?_, hv⟩
    rw [payloadTable, parseFailed_eq_ok.mp hsize]
    exact congrArg Except.toOption (parseFailed_eq_ok.mp hp)

theorem require_eq_ok {verified : VerifiedPayloads} {t : PayloadType} {what : String}
    {bytes : Bytes} (h : verified.require t what = .ok bytes) : verified t = some bytes := by
  unfold VerifiedPayloads.require at h
  split at h
  · rename_i bytes' hv
    rw [hv, Except.ok.inj h]
  · exact absurd h (by rintro ⟨⟩)

/-- The loader's verified payloads are all three there and verified, and the metadata is
    decoded of the first. -/
theorem fromFileVerified_eq_ok {publicKey : Except Error PublicKey} {packageFile : String}
    {pkg : PackageFile Metadata RuntimeConfig}
    (h : fromFileVerified decoders sha256 publicKey packageFile (.ok file) = .ok pkg) :
    ∃ verified metadata runtimeConfig,
      loadPayloadsInfo decoders sha256 publicKey file = .ok (pkg.payloads, verified) ∧
        verified .metadata = some metadata ∧ verified .runtimeConfig = some runtimeConfig ∧
        verified .seccompPolicy = some pkg.seccompPolicy ∧
        decoders.metadata metadata = .ok pkg.metadata := by
  unfold fromFileVerified at h
  simp only [except_bind_eq_ok, Except.ok.injEq, exists_eq_left'] at h
  rcases h with ⟨⟨payloads, verified⟩, hload, metadata, hmeta, m, hm, runtimeConfig, hrt, _, _,
    seccomp, hsec, _, _, hpkg⟩
  rw [← hpkg]
  exact ⟨verified, metadata, runtimeConfig, hload, require_eq_ok hmeta, require_eq_ok hrt,
    require_eq_ok hsec, parseFailed_eq_ok.mp hm⟩

/-- The verified payloads are the regions of the table, and hashed in its order. -/
theorem loaded_spec {packageFile : String} {pkg : PackageFile Metadata RuntimeConfig}
    (h : fromFileVerified decoders sha256 (.ok key) packageFile (.ok file) = .ok pkg) :
    ∃ metadata runtimeConfig signature,
      loadedTriple decoders sha256 (.ok key) file =
          some (metadata, runtimeConfig, pkg.seccompPolicy) ∧
        tableSize decoders file .metadata = some metadata.length ∧
        tableSize decoders file .runtimeConfig = some runtimeConfig.length ∧
        tableRegion decoders file .signature = some signature ∧
        key.verify (sha256 (metadata ++ runtimeConfig ++ pkg.seccompPolicy)) signature = true := by
  rcases fromFileVerified_eq_ok h with ⟨verified, metadata, runtimeConfig, hload, hm, hr, hs, -⟩
  rcases payloadTable_of_loaded hload with ⟨htable, hverify⟩
  rcases verify_eq_ok hverify with ⟨⟨key', signature, hkey, hext, hsig⟩, hsizes⟩
  rw [← Except.ok.inj hkey] at hsig
  -- Neither the signature nor the image is among the bytes that are signed.
  have hkept : ∀ t, t.needVerify = false → verified t = none := by
    intro t hneed
    cases hv : verified t with
    | none => rfl
    | some buf =>
        rw [(hsizes t buf hv).1] at hneed
        exact absurd hneed Bool.true_eq_false.mp
  have hbytes : hashedBytes verified PayloadType.all =
      metadata ++ runtimeConfig ++ pkg.seccompPolicy := by
    simp only [hashedBytes, PayloadType.all, List.flatMap_cons, List.flatMap_nil, hm, hr, hs,
      hkept .signature rfl, hkept .packageFilesystem rfl, Option.getD_some, Option.getD_none,
      List.append_nil, List.append_assoc]
  rw [hbytes] at hsig
  simp only [tableSize, tableRegion, htable, Option.bind_some]
  refine ⟨metadata, runtimeConfig, signature, ?_, sizeOf_of_liesAt (hsizes _ _ hm).2.1,
    sizeOf_of_liesAt (hsizes _ _ hr).2.1, hext, hsig⟩
  simp only [loadedTriple, hload, hm, hr, hs, Option.bind_some, Option.map_some]

/-- Two ways to cut the same bytes in three agree when the first two lengths do. -/
theorem cut_eq_iff {a b c a' b' c' : Bytes} (h : a' ++ b' ++ c' = a ++ b ++ c) :
    (a' = a ∧ b' = b ∧ c' = c) ↔ a'.length = a.length ∧ b'.length = b.length := by
  constructor
  · rintro ⟨rfl, rfl, -⟩
    exact ⟨rfl, rfl⟩
  · rintro ⟨hab, hbc⟩
    rw [List.append_assoc, List.append_assoc] at h
    rcases List.append_inj h hab with ⟨ha, hrest⟩
    rcases List.append_inj hrest hbc with ⟨hb, hc⟩
    exact ⟨ha, hb, hc⟩

/-- A file with the signature of a signed package is loaded as what was signed
    exactly when its table gives the first two payloads the sizes they had. -/
theorem signed_triple_iff (hhash : Function.Injective sha256) {privateKey : PrivateKey}
    (hpair : ∀ digest signature, privateKey.sign digest = .ok signature →
      ∀ digest', key.verify digest' signature = true ↔ digest' = digest)
    {metadata runtimeConfig seccomp : Bytes} {pkgfs : Option Payload} {signed : Payloads}
    (hsign : (payloadsToWrap metadata runtimeConfig seccomp pkgfs).sign sha256
      (.ok privateKey) = .ok signed)
    {packageFile : String} {pkg : PackageFile Metadata RuntimeConfig}
    (hload : fromFileVerified decoders sha256 (.ok key) packageFile (.ok file) = .ok pkg)
    (hsame : signed .signature =
      some ((tableRegion decoders file .signature).map Payload.data)) :
    loadedTriple decoders sha256 (.ok key) file = some (metadata, runtimeConfig, seccomp) ↔
      tableSize decoders file .metadata = some metadata.length ∧
        tableSize decoders file .runtimeConfig = some runtimeConfig.length := by
  rcases loaded_spec hload with ⟨m, r, signature, htriple, hmsize, hrsize, hext, hverify⟩
  rcases sign_eq_ok hsign with ⟨signature', hsigned, hput⟩
  have hsig : signature = signature' := by
    rw [hput, hext, Option.map_some, Option.some.injEq, Option.some.injEq, Payload.data.injEq]
      at hsame
    exact hsame.symm
  rw [hsig, hpair _ _ hsigned] at hverify
  -- Two triples with one hash are the same bytes, cut perhaps at other places.
  have hcut := cut_eq_iff (hhash hverify)
  rw [htriple, hmsize, hrsize, Option.some.injEq, Option.some.injEq, Option.some.injEq,
    Prod.mk.injEq, Prod.mk.injEq]
  exact hcut

end Integrity

/-- The `n` bytes of a number, the lowest first. -/
def leBytes (n v : Nat) : Bytes := (List.range n).map fun i => (v / 256 ^ i).toUInt8

/-- The number with these bytes, the lowest first. -/
def leValue (bytes : Bytes) : Nat := bytes.foldr (fun b n => b.toNat + 256 * n) 0

/-- A string as the table and the metadata are encoded: its length and its bytes. -/
def encString (s : String) : Bytes := leBytes 8 s.length ++ asciiBytes s

/-- The table with these regions, in the order of the types. -/
def encTable (regions : List (Nat × Nat)) : Bytes :=
  leBytes 8 regions.length ++ (regions.zipIdx.flatMap fun (region, i) =>
    leBytes 4 i ++ [1] ++ leBytes 4 0 ++ leBytes 8 region.1 ++ leBytes 8 region.2)

/-- A file with these contents and a table with these regions. -/
def packageBytes (contents : Bytes) (regions : List (Nat × Nat)) : Bytes :=
  contents ++ encTable regions ++ leBytes 8 (encTable regions).length ++ pkgFormatVersion ++
    pkgMagic

/-- The metadata of a package `a` without data directories and network. -/
def metadataA : Bytes :=
  [0, 0, 1, 1, 0] ++ ([0] ++ encString "" ++ encString "a" ++ encString "1.0.0") ++
    ([0, 0] ++ encString "simple") ++ encString "2026-01-01T00:00:00Z" ++ leBytes 4 0 ++
    (leBytes 8 4096 ++ leBytes 8 4096 ++ encString "1 4096 4096 1 1 sha256 00 -" ++
      leBytes 8 4096)

def runtimeConfigA : Bytes := asciiBytes "\x7b\"ociVersion\":\"1.0.0\"\x7d"

/-- A policy may begin with white space. -/
def seccompA : Bytes := asciiBytes " \x7b\x7d"

def trimJson (bytes : Bytes) : Bytes :=
  let blank (b : UInt8) : Bool := b ∈ asciiBytes " \t\r\n"
  ((bytes.dropWhile blank).reverse.dropWhile blank).reverse

/-- What the decoders make of the files below. -/
def decodersA (regions : List (Nat × Nat)) : Decoders Unit Unit where
  payloadsSize bytes :=
    -- The size of the table is a little-endian number.
    if 8 ≤ bytes.length then
      .ok ((bytes.take 8).foldr (fun (b : UInt8) (n : Nat) => b.toNat + 256 * n) 0).toUInt64
    else .error ["UnexpectedEnd"]
  payloads bytes :=
    if bytes.take (encTable regions).length = encTable regions then
      .ok fun t => (regions[PayloadType.all.idxOf t]?).map fun region =>
        some (.internal region.1.toUInt64 region.2.toUInt64)
    else .error ["UnexpectedEnd"]
  metadata bytes :=
    if bytes.take metadataA.length = metadataA then .ok () else .error ["UnexpectedEnd"]
  runtimeConfig bytes :=
    if trimJson bytes = runtimeConfigA then .ok () else .error ["expected value"]
  json bytes :=
    if trimJson bytes = asciiBytes "\x7b\x7d" then .ok () else .error ["expected value"]

/-- An ideal signer: a signature is verified for the digest it was made of. -/
def idealPrivate : PrivateKey := ⟨fun digest => .ok digest⟩

def idealPublic : PublicKey := ⟨512, fun digest signature => digest = signature⟩

/-- The signature of the package, with a hash that has no collisions. -/
def signatureA : Bytes := metadataA ++ runtimeConfigA ++ seccompA

/-- A file with the payloads as they were signed, one after another. -/
def contentsA : Bytes := metadataA ++ runtimeConfigA ++ seccompA ++ signatureA

/-- The regions of the payloads if the runtime configuration has `n` bytes. -/
def regionsA (n : Nat) : List (Nat × Nat) :=
  let m := metadataA.length
  let s := signatureA.length
  [(0, m), (m, n), (m + n, s - (m + n)), (s, s), (s, 0)]

/-- The file whose table gives the runtime configuration `n` bytes. -/
def fileA (n : Nat) : Bytes := packageBytes contentsA (regionsA n)

theorem idealPublic_verify (digest signature : Bytes)
    (h : idealPrivate.sign digest = .ok signature) (digest' : Bytes) :
    idealPublic.verify digest' signature = true ↔ digest' = digest := by
  rw [← Except.ok.inj h]
  exact decide_eq_true_iff

theorem sign_a :
    (payloadsToWrap metadataA runtimeConfigA seccompA (some (.external "a.img"))).sign id
        (.ok idealPrivate) =
      .ok ((payloadsToWrap metadataA runtimeConfigA seccompA (some (.external "a.img"))).set
        .signature (some (.data signatureA))) := rfl

/-- A file that keeps the sizes is loaded as what was signed. -/
theorem signed_triple_kept :
    ∃ pkg, fromFileVerified (decodersA (regionsA 22)) id (.ok idealPublic) "a.ssam"
        (.ok (fileA 22)) = .ok pkg ∧
      (loadedTriple (decodersA (regionsA 22)) id (.ok idealPublic) (fileA 22) =
          some (metadataA, runtimeConfigA, seccompA) ↔
        tableSize (decodersA (regionsA 22)) (fileA 22) .metadata = some metadataA.length ∧
          tableSize (decodersA (regionsA 22)) (fileA 22) .runtimeConfig =
            some runtimeConfigA.length) := by
  have hsome : (fromFileVerified (decodersA (regionsA 22)) id (.ok idealPublic) "a.ssam"
      (.ok (fileA 22))).toOption.isSome = true := by
    decide +kernel
  -- The file holds the signature that the key has made.
  have hregion : tableRegion (decodersA (regionsA 22)) (fileA 22) .signature =
      some signatureA := by
    decide +kernel
  rcases Option.isSome_iff_exists.mp hsome with ⟨pkg, hpkg⟩
  have hload := toOption_eq_some.mp hpkg
  refine ⟨pkg, hload, signed_triple_iff Function.injective_id idealPublic_verify sign_a hload ?_⟩
  rw [hregion]
  rfl

/-- A blank moved from the policy to the runtime configuration: the file has the
    signature of the package, is loaded, and is not what was signed. -/
theorem boundary_shifted :
    ((payloadsToWrap metadataA runtimeConfigA seccompA (some (.external "a.img"))).sign id
        (.ok idealPrivate)).toOption.map (fun p => p .signature) =
          some (some (some (.data signatureA))) ∧
      (fromFileVerified (decodersA (regionsA 23)) id (.ok idealPublic) "a.ssam"
        (.ok (fileA 23))).toOption.map
          (fun pkg => pkg.payloads.extract (fileA 23) .signature) = some (some signatureA) ∧
      loadedTriple (decodersA (regionsA 23)) id (.ok idealPublic) (fileA 23) ≠
        some (metadataA, runtimeConfigA, seccompA) := by
  refine ⟨?_, ?_, ?_⟩ <;> decide +kernel

end Package

end Ssam
