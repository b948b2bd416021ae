import Mathlib.Algebra.Group.Int.Defs
import Mathlib.Algebra.Group.Nat.Defs
import Mathlib.Logic.Function.Basic
import Ssam.Lib.Error

/-!
# Payloads and their Signature

A package file carries five payloads. A table says where in the file each of them
lies; three of them are signed, by a signature over the digest of their bytes one
after another.

The hash and the signature scheme are parameters, and so is what decodes the
table. A file is its bytes.

## Main definitions

* `PayloadType`, `Payload`, `Payloads`: The table of a package.
* `RegularFile`: A file with the bound the kernel puts on its size.
* `readPayload`: The bytes of a payload, within the file and a limit.
* `Payloads.sign`: The signature of a package to be written.
* `Payloads.verify`: The signed payloads of a file, if the signature is right.
-/

namespace Ssam

namespace Package

open Lib

abbrev Bytes := List UInt8

/-- A regular file. Offsets into it are signed numbers of 64 bits. -/
structure RegularFile where
  bytes : Bytes
  length_lt : bytes.length < 2 ^ 63

/-- The size of the file, as its metadata gives it. -/
def RegularFile.size (file : RegularFile) : UInt64 := UInt64.ofNat file.bytes.length

theorem RegularFile.toNat_size (file : RegularFile) : file.size.toNat = file.bytes.length := by
  rw [RegularFile.size, UInt64.toNat_ofNat', Nat.mod_eq_of_lt]
  exact Nat.lt_trans file.length_lt (by decide)

/-- Why a package file is refused. -/
inductive PackageParseError where
  | fileOpen (path : String) (source : Error)
  | invalidMagic
  /-- The format version found in the file. -/
  | invalidFormatVersion (actual : Bytes)
  | signatureVerificationFailed
  | parseFailed (source : Error)
  | io (message : String) (source : Error)
  deriving DecidableEq

/-- A step of the loader. -/
abbrev Parsed := Except PackageParseError

inductive PayloadType where
  | metadata
  | runtimeConfig
  | seccompPolicy
  | signature
  | packageFilesystem
  deriving DecidableEq

namespace PayloadType

/-- The types in their order, which is that of the tables. -/
def all : List PayloadType :=
  [metadata, runtimeConfig, seccompPolicy, signature, packageFilesystem]

def name : PayloadType → String
  | metadata => "Metadata"
  | runtimeConfig => "RuntimeConfig"
  | seccompPolicy => "SeccompPolicy"
  | signature => "Signature"
  | packageFilesystem => "PackageFilesystem"

/-- The payloads the signature is over. -/
def needVerify : PayloadType → Bool
  | metadata => true
  | runtimeConfig => true
  | seccompPolicy => true
  | signature => false
  | packageFilesystem => false

/-- The name of the payload in the archive. -/
def filename : PayloadType → String
  | metadata => "metadata.json"
  | runtimeConfig => "runtime_config.json"
  | seccompPolicy => "seccomp.json"
  | signature => "signature.sig"
  | packageFilesystem => "filesystem.img"

end PayloadType

inductive Payload where
  /-- A region of the package file. -/
  | internal (offset size : UInt64)
  | external (path : String)
  | data (bytes : Bytes)
  deriving DecidableEq

/-- The payloads by their types: a type may be missing, or have no payload. -/
abbrev Payloads := PayloadType → Option (Option Payload)

/-- The payloads found in a file under its signature. -/
abbrev VerifiedPayloads := PayloadType → Option Bytes

/-- What verifies a signature of a digest. -/
structure PublicKey where
  size : Nat
  verify : (digest signature : Bytes) → Bool

/-- What signs a digest. -/
structure PrivateKey where
  sign : (digest : Bytes) → Except Error Bytes

/-- Cap on a signed payload buffered before verification. -/
def maxVerifyPayloadSize : Nat := 4 * 1024 * 1024

/-- The bytes at `pos`, all `n` of them. -/
def readExact (file : Bytes) (pos n : Nat) : Except Error Bytes :=
  if pos + n ≤ file.length then .ok ((file.drop pos).take n)
  else .error ["failed to fill whole buffer"]

/-- What a failed read of the package file is reported as. -/
def ioFailed {α : Type} (message : String) : Except Error α → Parsed α
  | .ok a => .ok a
  | .error e => .error (.io message e)

def seekToPayload (file : Bytes) (offset size : UInt64) : Parsed Unit :=
  -- The sum of the two saturates at the largest offset there is.
  if file.length < min (offset.toNat + size.toNat) (2 ^ 64 - 1) then
    .error (.parseFailed [s!"Payload region (offset={offset}, size={size}) exceeds " ++
      s!"file size {file.length}"])
  else .ok ()

def readPayload (file : Bytes) (offset size : UInt64) (maxAllowedSize : Nat) : Parsed Bytes := do
  if maxAllowedSize < size.toNat then
    .error (.parseFailed
      [s!"Payload size {size} exceeds maximum allowed size {maxAllowedSize}"])
  else
    seekToPayload file offset size
    ioFailed "Failed to read package file." (readExact file offset.toNat size.toNat)

namespace Payloads

/-- Every type, without a payload. -/
def init : Payloads := fun _ => some none

def set (p : Payloads) (t : PayloadType) (payload : Option Payload) : Payloads :=
  Function.update p t (some payload)

def get (p : Payloads) (t : PayloadType) : Option Payload := (p t).join

/-- What the signature is over, as far as the next payload. -/
def signEntry (p : Payloads) (hashed : Bytes) (t : PayloadType) : Except Error Bytes :=
  match p t with
  | none => .ok hashed
  | some payload =>
      if t.needVerify then
        match payload with
        | some (.data bytes) => .ok (hashed ++ bytes)
        | _ => .error [s!"Failed to sign: Unsupported payload type for {t.name}"]
      else .ok hashed

/-- Sign the payloads: their bytes one after another are hashed, and the digest is
    signed. -/
def sign (sha256 : Bytes → Bytes) (privateKey : Except Error PrivateKey) (p : Payloads) :
    Except Error Payloads := do
  let hashed ← PayloadType.all.foldlM (signEntry p) []
  let key ← privateKey
  let signature ← context "Failed to sign package" (key.sign (sha256 hashed))
  .ok (p.set .signature (some (.data signature)))

/-- Read the next payload and add it to what is hashed. -/
def verifyEntry (file : Bytes) (p : Payloads) (acc : Bytes × VerifiedPayloads)
    (t : PayloadType) : Parsed (Bytes × VerifiedPayloads) :=
  match p t with
  | none => .ok acc
  | some payload =>
      if t.needVerify then
        match payload with
        | none => .error (.parseFailed [s!"Missing payload for {t.name}"])
        | some (.internal offset size) => do
            let buf ← readPayload file offset size maxVerifyPayloadSize
            .ok (acc.1 ++ buf, Function.update acc.2 t (some buf))
        | some _ => .error (.parseFailed [s!"Expected internal payload for {t.name}"])
      else .ok acc

/-- The signature of the file, no longer than the key allows. -/
def readSignature (file : Bytes) (p : Payloads) (key : PublicKey) : Parsed Bytes :=
  match p.get .signature with
  | some (.internal offset size) => readPayload file offset size key.size
  | _ => .error (.parseFailed ["Missing signature payload"])

/-- The signed payloads of the file, if the signature is one of their digest. -/
def verify (sha256 : Bytes → Bytes) (publicKey : Except Error PublicKey) (file : Bytes)
    (p : Payloads) : Parsed VerifiedPayloads := do
  let key ←
    match publicKey with
    | .ok key => .ok key
    | .error e => .error (.parseFailed ("Failed to read public key" :: e))
  let signature ← readSignature file p key
  let (hashed, verified) ←
    PayloadType.all.foldlM (verifyEntry file p) ([], fun _ => none)
  if key.verify (sha256 hashed) signature then .ok verified
  else .error .signatureVerificationFailed

end Payloads

end Package

end Ssam
