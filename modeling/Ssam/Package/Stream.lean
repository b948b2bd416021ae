import Ssam.Lib.Prog
import Ssam.Package.Integrity

/-!
# Loading from an Open File

The loader as it goes about in a file: it seeks, reads and decodes from where it is, and
computes with offsets and sizes of 64 bits. A sum that does not fit is an error of its
own, beside those the loader refuses a file with.

The loader on the bytes of a file, which says what comes of it, is the one of the module
on loading.

## Main definitions

* `FileCall`, `serve`: The calls on an open file, and what they do.
* `LoadFault`: How a load may fail.
* `checkedAdd`: A sum that may overflow.
* `Stream.loadPayloadsInfo`, `Stream.fromFileVerified`: The loader.
-/

namespace Ssam

namespace Package

open Lib

/-- A call on the open file, with the type of its answer. -/
inductive FileCall : Type → Type where
  | metadataLen : FileCall (Except Error UInt64)
  | seekEnd (offset : Int) : FileCall (Except Error Unit)
  | seekStart (offset : UInt64) : FileCall (Except Error Unit)
  | readExact (n : Nat) : FileCall (Except Error Bytes)
  /-- Decode the size of the table from where the file is. -/
  | decodeSize : FileCall (Except Error UInt64)
  /-- Decode the table from where the file is. -/
  | decodePayloads : FileCall (Except Error Payloads)

/-- How a load may fail: a computation overflows, or the file is refused. -/
inductive LoadFault where
  | overflow
  | refused (e : PackageParseError)
  deriving DecidableEq

/-- A program over these calls. -/
abbrev Loading := Prog FileCall LoadFault

def invalidArgument : Error := ["Invalid argument (os error 22)"]

/-- How many of the bytes there are the decoders of the table's size and of the table
    take. -/
structure Taken where
  size : Bytes → Nat
  table : Bytes → Nat

section Serve

variable {Metadata RuntimeConfig : Type}

/-- What a call does to the position in the file, and its answer. A seek to before the
    file is refused. A decoder takes some of the bytes there are, and a read that wants
    more than these takes them all. -/
def serve (decoders : Decoders Metadata RuntimeConfig) (taken : Taken)
    (file : RegularFile) {β : Type} (pos : Nat) : FileCall β → Nat × β
  | .metadataLen => (pos, .ok file.size)
  | .seekEnd offset =>
      -- The kernel refuses a position that is negative or no signed number.
      let target := file.bytes.length + offset
      if 0 ≤ target ∧ target < 2 ^ 63 then (target.toNat, .ok ()) else (pos, .error invalidArgument)
  | .seekStart offset =>
      if offset.toNat < 2 ^ 63 then (offset.toNat, .ok ()) else (pos, .error invalidArgument)
  -- What is there is taken even if it is too short.
  | .readExact n => (min (pos + n) (max pos file.bytes.length), readExact file.bytes pos n)
  | .decodeSize =>
      let rest := file.bytes.drop pos
      (pos + min (taken.size rest) rest.length, decoders.payloadsSize rest)
  | .decodePayloads =>
      let rest := file.bytes.drop pos
      (pos + min (taken.table rest) rest.length, decoders.payloads rest)

end Serve

/-- The sum, if it fits. -/
def checkedAdd (a b : UInt64) : Loading UInt64 :=
  if a.toNat + b.toNat < 2 ^ 64 then pure (a + b) else Prog.fail .overflow

/-- The sum, or the largest number there is. -/
def saturatingAdd (a b : UInt64) : UInt64 :=
  if a.toNat + b.toNat < 2 ^ 64 then a + b else UInt64.ofNat (2 ^ 64 - 1)

/-- The difference, or zero. -/
def saturatingSub (a b : UInt64) : UInt64 := if a ≤ b then 0 else a - b

/-- What a failed call on the file is reported as. -/
def ioFault {α : Type} (message : String) (p : Prog FileCall Error α) : Loading α :=
  p.mapError fun e => .refused (.io message e)

/-- What a failed decoding is reported as. -/
def parseFault {α : Type} (msg : String) (p : Prog FileCall Error α) : Loading α :=
  p.mapError fun e => .refused (.parseFailed (msg :: e))

/-- The file is refused. -/
def refuse {α : Type} (e : PackageParseError) : Loading α := Prog.fail (.refused e)

/-- What needs no call on the file. -/
def settle {α : Type} (r : Parsed α) : Loading α := Prog.done (r.mapError .refused)

namespace Stream

def footerLen : UInt64 := 32

def payloadsSizeLen : UInt64 := 8

/-- The `n` bytes that begin `offsetFromEnd` before the end of the file. -/
def readFooterField (n offsetFromEnd : Nat) : Loading Bytes := do
  if 2 ^ 63 ≤ offsetFromEnd then
    refuse (.io "Package file offset too large to seek."
      [s!"Offset {offsetFromEnd} bytes from end of file overflows i64",
        "out of range integral type conversion attempted"])
  else
    ioFault "Failed to seek package file."
      ((Prog.try_ (.seekEnd (-offsetFromEnd))).context
        s!"Seeking to -{offsetFromEnd} bytes from end of file")
    ioFault "Failed to read package file."
      ((Prog.try_ (.readExact n)).context s!"Reading {n} bytes from footer field")

def verifyFooter : Loading Unit := do
  let magic ← readFooterField pkgMagicLen pkgMagicLen
  if magic ≠ pkgMagic then refuse .invalidMagic
  else
    let version ← readFooterField pkgFormatVersion.length pkgFooterLen
    if version ≠ pkgFormatVersion then refuse (.invalidFormatVersion version) else pure ()

def seekToPayload (offset size fileSize : UInt64) : Loading Unit :=
  if fileSize < saturatingAdd offset size then
    refuse (.parseFailed [s!"Payload region (offset={offset}, size={size}) exceeds " ++
      s!"file size {fileSize}"])
  else ioFault "Failed to seek package file." (Prog.try_ (.seekStart offset))

def readPayload (offset size fileSize : UInt64) (maxAllowedSize : Nat) : Loading Bytes := do
  if maxAllowedSize < size.toNat then
    refuse (.parseFailed
      [s!"Payload size {size} exceeds maximum allowed size {maxAllowedSize}"])
  else
    seekToPayload offset size fileSize
    ioFault "Failed to read package file." (Prog.try_ (.readExact size.toNat))

/-- Read the next payload and add it to what is hashed. -/
def verifyEntry (fileSize : UInt64) (p : Payloads) (acc : Bytes × VerifiedPayloads)
    (t : PayloadType) : Loading (Bytes × VerifiedPayloads) :=
  match p t with
  | none => pure acc
  | some payload =>
      if t.needVerify then
        match payload with
        | none => refuse (.parseFailed [s!"Missing payload for {t.name}"])
        | some (.internal offset size) => do
            let buf ← readPayload offset size fileSize maxVerifyPayloadSize
            pure (acc.1 ++ buf, Function.update acc.2 t (some buf))
        | some _ => refuse (.parseFailed [s!"Expected internal payload for {t.name}"])
      else pure acc

/-- The signature of the file, no longer than the key allows. -/
def readSignature (fileSize : UInt64) (p : Payloads) (key : PublicKey) : Loading Bytes :=
  match p.get .signature with
  | some (.internal offset size) => readPayload offset size fileSize key.size
  | _ => refuse (.parseFailed ["Missing signature payload"])

/-- The signed payloads of the file, if the signature is one of their digest. -/
def verify (sha256 : Bytes → Bytes) (publicKey : Except Error PublicKey) (p : Payloads) :
    Loading VerifiedPayloads := do
  let fileSize ← ioFault "Failed to get package file metadata."
    ((Prog.try_ .metadataLen).context "Querying file metadata for payload size validation")
  let key ←
    match publicKey with
    | .ok key => pure key
    | .error e => refuse (.parseFailed ("Failed to read public key" :: e))
  let signature ← readSignature fileSize p key
  let (hashed, verified) ← PayloadType.all.foldlM (verifyEntry fileSize p) ([], fun _ => none)
  if key.verify (sha256 hashed) signature then pure verified
  else refuse .signatureVerificationFailed

/-- The table of the file, and the payloads it places under the signature. -/
def loadPayloadsInfo (sha256 : Bytes → Bytes) (publicKey : Except Error PublicKey) :
    Loading (Payloads × VerifiedPayloads) := do
  verifyFooter
  let pkgFileSize ← ioFault "Failed to get package file metadata."
    ((Prog.try_ .metadataLen).context "Querying file metadata before payload parsing")
  let payloadsSizeOffset := saturatingSub pkgFileSize (← checkedAdd footerLen payloadsSizeLen)
  ioFault "Failed to seek package file."
    ((Prog.try_ (.seekStart payloadsSizeOffset)).context
      s!"Seeking to payloads size field at offset {payloadsSizeOffset}")
  let payloadsSize ← parseFault "Failed to decode payloads size" (Prog.try_ .decodeSize)
  let maxPayloadsSize := saturatingSub pkgFileSize (← checkedAdd footerLen payloadsSizeLen)
  if maxPayloadsSize < payloadsSize then
    refuse (.parseFailed [s!"Declared payloads size ({payloadsSize}) exceeds " ++
      s!"available file space ({maxPayloadsSize})"])
  else
    -- This sum fits because the size was found to be less than that of the file.
    let trailer ← checkedAdd (← checkedAdd footerLen payloadsSizeLen) payloadsSize
    let payloadsOffset := saturatingSub pkgFileSize trailer
    ioFault "Failed to seek package file."
      ((Prog.try_ (.seekStart payloadsOffset)).context
        s!"Seeking to payloads data at offset {payloadsOffset}")
    let payloads ← parseFault "Failed to decode payload info" (Prog.try_ .decodePayloads)
    let verified ← verify sha256 publicKey payloads
    pure (payloads, verified)

/-- The package in the open file, whose parts are decoded of the verified payloads. -/
def fromFileVerified {Metadata RuntimeConfig : Type} (decoders : Decoders Metadata RuntimeConfig)
    (sha256 : Bytes → Bytes) (publicKey : Except Error PublicKey) :
    Loading (PackageFile Metadata RuntimeConfig) := do
  let (payloads, verified) ← loadPayloadsInfo sha256 publicKey
  let metadataBytes ← settle (verified.require .metadata "metadata")
  let metadata ← settle (parseFailed "Failed to decode metadata" (decoders.metadata metadataBytes))
  let runtimeBytes ← settle (verified.require .runtimeConfig "runtime config")
  let runtimeConfig ← settle (parseFailed "Failed to parse runtime config"
    (decoders.runtimeConfig runtimeBytes))
  let seccompBytes ← settle (verified.require .seccompPolicy "seccomp")
  settle (parseFailed "Failed to parse seccomp policy" (decoders.json seccompBytes))
  pure ⟨metadata, runtimeConfig, seccompBytes, payloads⟩

end Stream

end Package

end Ssam
