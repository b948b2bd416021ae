import Ssam.Package.Payload

/-!
# Loading a Package File

A package file ends with the table of its payloads, the size of the table, the
version of the format and a magic string. The loader finds them from the end of
the file, decodes the table, verifies the signed payloads and decodes these.

What decodes the table and the payloads is a parameter.

## Main definitions

* `Decoders`: What decodes the parts of a file.
* `verifyFooter`: The magic string and the version.
* `loadPayloadsInfo`: The table of a file and its signed payloads.
* `fromFileVerified`: The package in a file.
-/

namespace Ssam

namespace Package

open Lib

/-- What decodes the parts of a package file, each from the bytes it starts at. -/
structure Decoders (Metadata RuntimeConfig : Type) where
  payloadsSize : Bytes → Except Error UInt64
  payloads : Bytes → Except Error Payloads
  metadata : Bytes → Except Error Metadata
  runtimeConfig : Bytes → Except Error RuntimeConfig
  /-- Is this a value of JSON? -/
  json : Bytes → Except Error Unit

/-- A package as it is loaded. -/
structure PackageFile (Metadata RuntimeConfig : Type) where
  metadata : Metadata
  runtimeConfig : RuntimeConfig
  seccompPolicy : Bytes
  payloads : Payloads

def asciiBytes (s : String) : Bytes := s.toList.map fun c => c.toNat.toUInt8

def pkgMagic : Bytes := asciiBytes "MIRAEPLATFORMGAEBALGROUP"

def pkgFormatVersion : Bytes := asciiBytes "0.6.0" ++ [0, 0, 0]

def pkgMagicLen : Nat := 24

def pkgFooterLen : Nat := 32

/-- The size of the field for the size of the table. -/
def payloadsSizeLen : Nat := 8

/-- The `n` bytes that begin `offsetFromEnd` before the end of the file. -/
def readFooterField (file : Bytes) (n offsetFromEnd : Nat) : Parsed Bytes :=
  if file.length < offsetFromEnd then
    .error (.io "Failed to seek package file."
      [s!"Seeking to -{offsetFromEnd} bytes from end of file", "Invalid argument (os error 22)"])
  else
    ioFailed "Failed to read package file."
      (context s!"Reading {n} bytes from footer field"
        (readExact file (file.length - offsetFromEnd) n))

def verifyFooter (file : Bytes) : Parsed Unit := do
  let magic ← readFooterField file pkgMagicLen pkgMagicLen
  if magic ≠ pkgMagic then .error .invalidMagic
  else
    let version ← readFooterField file pkgFormatVersion.length pkgFooterLen
    if version ≠ pkgFormatVersion then .error (.invalidFormatVersion version) else .ok ()

/-- What a failed decoding is reported as. -/
def parseFailed {α : Type} (msg : String) : Except Error α → Parsed α
  | .ok a => .ok a
  | .error e => .error (.parseFailed (msg :: e))

section Load

variable {Metadata RuntimeConfig : Type} (decoders : Decoders Metadata RuntimeConfig)
  (sha256 : Bytes → Bytes) (publicKey : Except Error PublicKey)

/-- The table of the file, and the payloads it places under the signature.
    The file is laid out as payloads, table, size of the table and footer. -/
def loadPayloadsInfo (file : Bytes) : Parsed (Payloads × VerifiedPayloads) := do
  verifyFooter file
  -- The footer is at the end, before it the size of the table, and before that the table.
  let maxPayloadsSize := file.length - (pkgFooterLen + payloadsSizeLen)
  let payloadsSize ← parseFailed "Failed to decode payloads size"
    (decoders.payloadsSize (file.drop maxPayloadsSize))
  if maxPayloadsSize < payloadsSize.toNat then
    .error (.parseFailed [s!"Declared payloads size ({payloadsSize}) exceeds " ++
      s!"available file space ({maxPayloadsSize})"])
  else
    let payloadsOffset := file.length - (pkgFooterLen + payloadsSizeLen + payloadsSize.toNat)
    let payloads ← parseFailed "Failed to decode payload info"
      (decoders.payloads (file.drop payloadsOffset))
    -- Nothing is decoded further before the signature has been checked.
    let verified ← payloads.verify sha256 publicKey file
    .ok (payloads, verified)

/-- A payload that has to be among the verified ones. -/
def VerifiedPayloads.require (verified : VerifiedPayloads) (t : PayloadType) (what : String) :
    Parsed Bytes :=
  match verified t with
  | some bytes => .ok bytes
  | none => .error (.parseFailed [s!"Missing verified {what} payload"])

/-- The package file at the path, if it can be opened, its signature is right and
    its parts decode. -/
def fromFileVerified (packageFile : String) (opened : Except Error Bytes) :
    Parsed (PackageFile Metadata RuntimeConfig) := do
  let file ←
    match opened with
    | .ok file => .ok file
    | .error e => .error (.fileOpen packageFile e)
  let (payloads, verified) ← loadPayloadsInfo decoders sha256 publicKey file
  let metadataBytes ← verified.require .metadata "metadata"
  let metadata ← parseFailed "Failed to decode metadata" (decoders.metadata metadataBytes)
  let runtimeBytes ← verified.require .runtimeConfig "runtime config"
  let runtimeConfig ← parseFailed "Failed to parse runtime config"
    (decoders.runtimeConfig runtimeBytes)
  let seccompBytes ← verified.require .seccompPolicy "seccomp"
  -- The policy is kept as bytes, and only has to be JSON.
  parseFailed "Failed to parse seccomp policy" (decoders.json seccompBytes)
  .ok ⟨metadata, runtimeConfig, seccompBytes, payloads⟩

end Load

end Package

end Ssam
