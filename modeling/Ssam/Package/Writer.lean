import Ssam.Package.Integrity

/-!
# Writing a Package File

A package is written as an archive of its payloads, followed by the table of where
they are, the size of the table, and the footer.

The archive comes from a library, and so do the encoders. What the library is
relied on for is `StoresVerbatim`: each entry lies in the archive as it was given,
at the place the archive reports for it.

## Main definitions

* `Encoders`: What encodes the parts of a package file.
* `Archive`, `StoresVerbatim`: A written archive, and what it is relied on for.
* `wrapPayloads`: The archive of the payloads.
* `wrapPayloadsInfo`: The table of an archive.
* `wrap`: The package file.

## Theorems

* `wrap_eq_ok`: What is in a file that has been written.
-/

namespace Ssam

namespace Package

open Lib

/-- What encodes the parts of a package file. -/
structure Encoders (Metadata RuntimeConfig : Type) where
  payloadsSize : UInt64 → Except Error Bytes
  payloads : Payloads → Except Error Bytes
  metadata : Metadata → Except Error Bytes
  runtimeConfig : RuntimeConfig → Except Error Bytes

/-- An archive that has been written, and where in it the data of an entry lies: its
    offset and its size. -/
structure Archive where
  bytes : Bytes
  byName : String → Except Error (UInt64 × UInt64)

/-- What writes the entries into an archive, one after another. -/
abbrev ZipWriter := List (String × Bytes) → Except Error Archive

/-- The data of the entries is in the archive as it was given, where the archive says
    it is. -/
def StoresVerbatim (zip : ZipWriter) : Prop :=
  ∀ entries archive, zip entries = .ok archive → (entries.map Prod.fst).Nodup →
    ∀ filename bytes, (filename, bytes) ∈ entries →
      ∃ offset size, archive.byName filename = .ok (offset, size) ∧ size.toNat = bytes.length ∧
        offset.toNat + size.toNat ≤ archive.bytes.length ∧
        (archive.bytes.drop offset.toNat).take size.toNat = bytes

/-- How the calls on the file to be written are answered. -/
structure OutputFile where
  path : String
  create : Except Error Unit
  append : Except Error Unit
  writeInfo : Except Error Unit
  writeFooter : Except Error Unit

/-- The payload as it is printed for a developer. -/
def Payload.debug : Payload → String
  | .internal offset size => s!"Internal(({offset}, {size}))"
  | .external path =>
      let shown := path.quote
      s!"External({shown})"
  | .data bytes =>
      let shown := String.intercalate ", " (bytes.map fun b => toString b.toNat)
      s!"Data([{shown}])"

/-- The payloads as they are printed for a developer. -/
def Payloads.debug (p : Payloads) : String :=
  let entries := PayloadType.all.filterMap fun t => (p t).map fun payload =>
    t.name ++ ": " ++ payload.elim "None" fun x => "Some(" ++ x.debug ++ ")"
  "Payloads(\x7b" ++ String.intercalate ", " entries ++ "\x7d)"

/-- The bytes of a payload that is to be written. An external one is read from its
    file. -/
def payloadBytes (readFile : String → Except Error Bytes) (t : PayloadType) :
    Option Payload → Except Error Bytes
  | none => .error [s!"Payload for {t.name} does NOT exist!"]
  | some (.data bytes) => .ok bytes
  | some (.external path) =>
      context s!"Failed to open external payload file {path}" (readFile path)
  | some (.internal offset size) =>
      let payload := (Payload.internal offset size).debug
      .error [s!"Unsupported payload type for {t.name}: {payload}"]

/-- The archive of the payloads, in the order of their types. -/
def wrapPayloads (readFile : String → Except Error Bytes) (zip : ZipWriter) (p : Payloads) :
    Except Error Archive := do
  let payloads := PayloadType.all.filterMap fun t => (p t).map fun payload => (t, payload)
  let entries ← payloads.mapM fun (t, payload) => do
    let bytes ← payloadBytes readFile t payload
    Except.ok (t.filename, bytes)
  zip entries

/-- The place of the next payload into the table. -/
def locateEntry (archive : Archive) (table : Payloads) (t : PayloadType) :
    Except Error Payloads := do
  let (dataStart, size) ← context s!"Failed to find payload {t.name} from archive"
    (archive.byName t.filename)
  .ok (table.set t (some (.internal dataStart size)))

/-- The encoded table of the archive, and its encoded size. -/
def wrapPayloadsInfo {Metadata RuntimeConfig : Type} (encoders : Encoders Metadata RuntimeConfig)
    (archive : Archive) : Except Error (Bytes × Bytes) := do
  let table ← PayloadType.all.foldlM (locateEntry archive) Payloads.init
  let serialized ← context "Failed to serialize entire payloads info"
    (context "Failed to serialize Payloads" (encoders.payloads table))
  let payloadsSize := serialized.length.toUInt64
  let sizeField ← context s!"Failed to serialize size of payloads info: {payloadsSize}"
    (encoders.payloadsSize payloadsSize)
  .ok (serialized, sizeField)

/-- Sign the package and write it: the bytes of the file. -/
def wrap {Metadata RuntimeConfig : Type} (encoders : Encoders Metadata RuntimeConfig)
    (sha256 : Bytes → Bytes) (readFile : String → Except Error Bytes) (zip : ZipWriter)
    (output : OutputFile) (privateKey : Except Error PrivateKey)
    (pkg : PackageFile Metadata RuntimeConfig) : Except Error Bytes := do
  let metadata ← context "Failed to serialize PackageMetadata" (encoders.metadata pkg.metadata)
  let runtimeConfig ← context "Failed to serialize PackageRuntimeConfig"
    (encoders.runtimeConfig pkg.runtimeConfig)
  let payloads := payloadsToWrap metadata runtimeConfig pkg.seccompPolicy
    (pkg.payloads.get .packageFilesystem)
  let signed ← context "Failed to sign package" (payloads.sign sha256 privateKey)
  context s!"Failed to create a package file {output.path}" output.create
  let shown := signed.debug
  let archive ← context s!"Failed to wrap payloads {shown}" (wrapPayloads readFile zip signed)
  -- The archive is written, and what follows is appended.
  context "Failed to open package file for appending payloads info" output.append
  let (serialized, sizeField) ← context s!"Failed to wrap payloads info to file {output.path}" do
    let info ← wrapPayloadsInfo encoders archive
    output.writeInfo
    Except.ok info
  context s!"Failed to write footer to package file {output.path}" output.writeFooter
  .ok (archive.bytes ++ serialized ++ sizeField ++ pkgFormatVersion ++ pkgMagic)

/-- What is appended to a file leaves what lies in it. -/
theorem LiesAt.append {file : Bytes} {p : Payloads} {t : PayloadType} {bytes : Bytes}
    (h : LiesAt file p t bytes) (rest : Bytes) : LiesAt (file ++ rest) p t bytes := by
  rcases h with ⟨offset, size, hp, hsize, hin, hbytes⟩
  refine ⟨offset, size, hp, hsize, ?_, ?_⟩
  · rw [List.length_append]
    omega
  · rw [List.drop_append_of_le_length (by omega), List.take_append_of_le_length, hbytes]
    rw [List.length_drop]
    omega

/-- The bytes of the five payloads of a package. -/
def contents (metadata runtimeConfig seccomp signature image : Bytes) : PayloadType → Bytes
  | .metadata => metadata
  | .runtimeConfig => runtimeConfig
  | .seccompPolicy => seccomp
  | .signature => signature
  | .packageFilesystem => image

/-- The archive of a signed package is written of its five payloads. -/
theorem wrapPayloads_signed (readFile : String → Except Error Bytes) (zip : ZipWriter)
    (metadata runtimeConfig seccomp signature : Bytes) (pkgfs : Option Payload) :
    wrapPayloads readFile zip ((payloadsToWrap metadata runtimeConfig seccomp pkgfs).set
      .signature (some (.data signature))) =
        (payloadBytes readFile .packageFilesystem pkgfs >>= fun image =>
          zip (PayloadType.all.map fun t =>
            (t.filename, contents metadata runtimeConfig seccomp signature image t))) := by
  have hall : (PayloadType.all.filterMap fun t =>
      (((payloadsToWrap metadata runtimeConfig seccomp pkgfs).set .signature
        (some (.data signature))) t).map fun payload => (t, payload)) =
      [(.metadata, some (.data metadata)), (.runtimeConfig, some (.data runtimeConfig)),
        (.seccompPolicy, some (.data seccomp)), (.signature, some (.data signature)),
        (.packageFilesystem, pkgfs)] := rfl
  have hdata : ∀ t bytes, payloadBytes readFile t (some (.data bytes)) = .ok bytes :=
    fun _ _ => rfl
  rw [wrapPayloads, hall]
  cases hfs : payloadBytes readFile .packageFilesystem pkgfs with
  | error e => simp only [List.mapM_cons, hdata, hfs, bind, Except.bind]
  | ok image =>
      simp only [List.mapM_cons, List.mapM_nil, hdata, hfs, bind, Except.bind, pure, Except.pure]
      rfl

/-- The table of an archive has the place of every payload. -/
theorem locateEntries_eq_ok {archive : Archive} {ts : List PayloadType} {start table : Payloads}
    (h : ts.foldlM (locateEntry archive) start = .ok table) :
    (∀ t, t ∉ ts → table t = start t) ∧ ∀ t ∈ ts, ∃ offset size,
      archive.byName t.filename = .ok (offset, size) ∧
        table t = some (some (.internal offset size)) := by
  induction ts generalizing start with
  | nil =>
      rw [← Except.ok.inj (h : Except.ok start = .ok table)]
      exact ⟨fun _ _ => rfl, fun t ht => absurd ht List.not_mem_nil⟩
  | cons u ts ih =>
      rw [List.foldlM_cons] at h
      rcases except_bind_eq_ok.mp h with ⟨next, hnext, h⟩
      rcases except_bind_eq_ok.mp hnext with ⟨⟨offset, size⟩, hentry, hput⟩
      have hput : start.set u (some (.internal offset size)) = next := Except.ok.inj hput
      rcases ih h with ⟨hkeep, hset⟩
      refine ⟨fun t ht => ?_, fun t ht => ?_⟩
      · rw [List.mem_cons, not_or] at ht
        rw [hkeep t ht.2, ← hput]
        exact Function.update_of_ne ht.1 _ _
      · -- A payload that is met again later is found at its last place.
        by_cases hmem : t ∈ ts
        · exact hset t hmem
        · have htu : t = u := (List.mem_cons.mp ht).resolve_right hmem
          refine ⟨offset, size, ?_, ?_⟩
          · rw [htu]
            exact context_eq_ok.mp hentry
          · rw [hkeep t hmem, ← hput, htu]
            exact Function.update_self _ _ _

/-- An archive that has every payload has a table. -/
theorem exists_table {archive : Archive} {ts : List PayloadType} (start : Payloads)
    (h : ∀ t ∈ ts, ∃ place, archive.byName t.filename = .ok place) :
    ∃ table, ts.foldlM (locateEntry archive) start = .ok table := by
  induction ts generalizing start with
  | nil => exact ⟨start, rfl⟩
  | cons t ts ih =>
      rcases h t List.mem_cons_self with ⟨place, hplace⟩
      rcases ih (start.set t (some (.internal place.1 place.2)))
        (fun u hu => h u (List.mem_cons_of_mem t hu)) with ⟨table, htable⟩
      refine ⟨table, ?_⟩
      rw [List.foldlM_cons, locateEntry, hplace]
      exact htable

/-- What has been written: the archive, the table with the place of every payload in
    it, the size of the table, and the footer. -/
structure Written {Metadata RuntimeConfig : Type} (encoders : Encoders Metadata RuntimeConfig)
    (file : Bytes) (content : PayloadType → Bytes) (table : Payloads) (archive serialized
      sizeField : Bytes) : Prop where
  layout : file = archive ++ serialized ++ sizeField ++ pkgFormatVersion ++ pkgMagic
  located : ∀ t, LiesAt archive table t (content t)
  table : encoders.payloads table = .ok serialized
  size : encoders.payloadsSize serialized.length.toUInt64 = .ok sizeField

/-- What is in a file that has been written. -/
theorem wrap_eq_ok {Metadata RuntimeConfig : Type} {encoders : Encoders Metadata RuntimeConfig}
    {sha256 : Bytes → Bytes} {readFile : String → Except Error Bytes} {zip : ZipWriter}
    {output : OutputFile} {privateKey : PrivateKey} {pkg : PackageFile Metadata RuntimeConfig}
    {file : Bytes} (hzip : StoresVerbatim zip)
    (h : wrap encoders sha256 readFile zip output (.ok privateKey) pkg = .ok file) :
    ∃ metadata runtimeConfig signature image table archive serialized sizeField,
      encoders.metadata pkg.metadata = .ok metadata ∧
      encoders.runtimeConfig pkg.runtimeConfig = .ok runtimeConfig ∧
      privateKey.sign (sha256 (metadata ++ runtimeConfig ++ pkg.seccompPolicy)) = .ok signature ∧
      payloadBytes readFile .packageFilesystem (pkg.payloads.get .packageFilesystem) =
        .ok image ∧
      Written encoders file (contents metadata runtimeConfig pkg.seccompPolicy signature image)
        table archive serialized sizeField := by
  -- The steps of the writer, one after the other.
  unfold wrap at h
  rcases except_bind_eq_ok.mp h with ⟨metadata, hmetadata, h⟩
  rcases except_bind_eq_ok.mp h with ⟨runtimeConfig, hruntime, h⟩
  rcases except_bind_eq_ok.mp h with ⟨signed, hsigned, h⟩
  rcases except_bind_eq_ok.mp h with ⟨_, -, h⟩
  rcases except_bind_eq_ok.mp h with ⟨archive, harchive, h⟩
  rcases except_bind_eq_ok.mp h with ⟨_, -, h⟩
  rcases except_bind_eq_ok.mp h with ⟨⟨serialized, sizeField⟩, hinfo, h⟩
  rcases except_bind_eq_ok.mp h with ⟨_, -, h⟩
  rcases except_bind_eq_ok.mp (context_eq_ok.mp hinfo) with ⟨info, hwrap, hinfo⟩
  rcases except_bind_eq_ok.mp hinfo with ⟨_, -, hinfo⟩
  have hinfo : info = (serialized, sizeField) := Except.ok.inj hinfo
  rw [hinfo, wrapPayloadsInfo] at hwrap
  rcases except_bind_eq_ok.mp hwrap with ⟨table, htable, hwrap⟩
  rcases except_bind_eq_ok.mp hwrap with ⟨serialized', hserialized, hwrap⟩
  rcases except_bind_eq_ok.mp hwrap with ⟨sizeField', hsize, hwrap⟩
  have hpair := Prod.mk.inj (Except.ok.inj hwrap)
  rw [hpair.1] at hserialized hsize
  rw [hpair.2] at hsize
  have hsign := context_eq_ok.mp hsigned
  rcases sign_eq_ok hsign with ⟨signature, hsignature, -⟩
  -- All that the signing changes is the signature.
  have hset : (payloadsToWrap metadata runtimeConfig pkg.seccompPolicy
      (pkg.payloads.get .packageFilesystem)).set .signature (some (.data signature)) = signed := by
    have hall : PayloadType.all.foldlM (Payloads.signEntry (payloadsToWrap metadata runtimeConfig
        pkg.seccompPolicy (pkg.payloads.get .packageFilesystem))) [] =
          .ok (metadata ++ runtimeConfig ++ pkg.seccompPolicy) := rfl
    rw [Payloads.sign, hall] at hsign
    simp only [bind, Except.bind, hsignature, context] at hsign
    exact Except.ok.inj hsign
  have hpayloads := context_eq_ok.mp harchive
  rw [← hset, wrapPayloads_signed] at hpayloads
  rcases except_bind_eq_ok.mp hpayloads with ⟨image, himage, hzipped⟩
  refine ⟨metadata, runtimeConfig, signature, image, table, archive.bytes, serialized, sizeField,
    context_eq_ok.mp hmetadata, context_eq_ok.mp hruntime, hsignature, himage, ?_⟩
  refine ⟨(Except.ok.inj h).symm, fun t => ?_, context_eq_ok.mp (context_eq_ok.mp hserialized),
    context_eq_ok.mp hsize⟩
  -- The archive has an entry of that name, and the table says where.
  have hall : t ∈ PayloadType.all := by cases t <;> decide
  have hnames : (PayloadType.all.map PayloadType.filename).Nodup := by decide
  rcases hzip _ _ hzipped hnames t.filename _ (List.mem_map.mpr ⟨t, hall, rfl⟩) with
    ⟨offset, size, hentry, hlen, hin, hbytes⟩
  rcases (locateEntries_eq_ok htable).2 t hall with ⟨offset', size', hentry', hput⟩
  rw [hentry] at hentry'
  have hplace := Prod.mk.inj (Except.ok.inj hentry')
  rw [← hplace.1, ← hplace.2] at hput
  exact ⟨offset, size, hput, hlen, hin, hbytes⟩

end Package

end Ssam
