import Ssam.Lib.Prog
import Ssam.Utils

/-!
# Mounting a Package File System

Mounting and unmounting a package file system: a base image behind a loop device
and dm-verity, and on top of it an overlay if the configuration names a root for
overlays. The two operations are programs over the calls they make to the kernel
and to the devices.

Both learn what is mounted from one question, whether anything is mounted exactly
at the mount point, and read a failure to answer it as a no.

## Main definitions

* `PackageFsMetadata`: Where a package file system lies and where it is mounted.
* `Syscall`: The calls the two operations make.
* `mountDeviceWith`: The base, then the overlay, with a rollback of the base.
* `mountPkgfs`, `unmountPkgfs`: The two operations.
-/

namespace Ssam

namespace Mount

open Lib

/-- A file system mounted at the mount point. -/
inductive Layer where
  | base
  | overlay
  deriving DecidableEq

/-- The part of the configuration the mounts depend on. -/
structure MountConfig where
  /-- Where the overlays keep their directories; empty if there are none. -/
  packagesOverlayfsRoot : String
  packagesMntRoot : String

def MountConfig.overlayEnabled (cfg : MountConfig) : Bool := cfg.packagesOverlayfsRoot ≠ ""

/-- Where a package file system lies in its file, and where it is mounted. -/
structure PackageFsMetadata (cfg : MountConfig) where
  path : String
  mountPoint : String
  overlayfsRoot : String
  fstype : String
  pkgfsOffset : Nat
  length : Nat
  /-- A package has a directory for its overlay wherever there are overlays. -/
  rooted : cfg.overlayEnabled = true → overlayfsRoot ≠ ""

/-- What a package file says of its file system. -/
structure PkgfsInfo where
  fstype : String
  /-- The offset and the length of the image in the file. -/
  extent : Option (Nat × Nat)

/-- The directory a package's overlay is kept in, if there are overlays. -/
def packageOverlayfsRoot (cfg : MountConfig) (packageName : String) : String :=
  if cfg.packagesOverlayfsRoot = "" then ""
  else joinPath cfg.packagesOverlayfsRoot packageName

theorem packageOverlayfsRoot_ne_empty {cfg : MountConfig} (h : cfg.overlayEnabled = true)
    (packageName : String) : packageOverlayfsRoot cfg packageName ≠ "" := by
  have hroot : cfg.packagesOverlayfsRoot ≠ "" := of_decide_eq_true h
  rw [packageOverlayfsRoot, if_neg hroot]
  exact joinPath_ne_empty hroot packageName

/-- The metadata of the file system in the package file at `path`. -/
def PackageFsMetadata.new (cfg : MountConfig) (path packageName : String)
    (pkgfs : Except Error PkgfsInfo) : Except Error (PackageFsMetadata cfg) := do
  let info ← pkgfs
  ensure (isSafePathSegment packageName) s!"Unsafe package name rejected: {packageName}"
  -- Only an image inside the package file can be attached.
  match info.extent with
  | none => .error [s!"Failed to get package filesystem for package: {packageName}"]
  | some (offset, length) =>
      .ok {
        path := path
        mountPoint := joinPath cfg.packagesMntRoot packageName
        overlayfsRoot := packageOverlayfsRoot cfg packageName
        fstype := info.fstype
        pkgfsOffset := offset
        length := length
        rooted := fun h => packageOverlayfsRoot_ne_empty h packageName }

/-- A directory a mount may have to create. -/
inductive MountDir where
  /-- The mount point, before the layer is mounted. -/
  | target (layer : Layer)
  | upper
  | work
  deriving DecidableEq

/-- Where an operation asks whether something is mounted. -/
inductive ProbeSite where
  | gate
  | overlayGuard
  | baseGuard
  deriving DecidableEq

/-- Where an operation unmounts. -/
inductive UnmountSite where
  | rollback
  | overlay
  | base
  deriving DecidableEq

/-- A call out of the two operations, with the type of its answer. -/
inductive Syscall : Type → Type where
  /-- Is anything mounted exactly here? -/
  | isExactMount (site : ProbeSite) : Syscall Bool
  /-- Attach a loop device to the file. -/
  | attach (backingFile : String) (offset length : Nat) : Syscall (Except Error Unit)
  /-- The path of the attached loop device. -/
  | loopPath : Syscall (Option String)
  /-- Create a dm-verity device over the loop device. -/
  | verityDevice (loopDev : String) : Syscall (Except Error String)
  | targetExists (layer : Layer) : Syscall Bool
  | createDirAll (dir : MountDir) : Syscall (Except Error Unit)
  | mount (layer : Layer) (source fstype : String) (data : Option String) :
      Syscall (Except Error Unit)
  | unmount (site : UnmountSite) : Syscall (Except Error Unit)

/-- A program over these calls. -/
abbrev Mounting := Prog Syscall Error

variable {cfg : MountConfig}

def makeDirs (dir : MountDir) (shown : String) : Mounting Unit :=
  (Prog.try_ (Syscall.createDirAll dir)).context s!"Failed to create {shown} directory"

def doUnmount (pkgfs : PackageFsMetadata cfg) (site : UnmountSite) : Mounting Unit :=
  (Prog.try_ (Syscall.unmount site)).context s!"Failed to unmount {pkgfs.mountPoint}"

/-- Mount a layer, on a mount point that is created if it is missing. -/
def doMount (pkgfs : PackageFsMetadata cfg) (layer : Layer) (source fstype : String)
    (data : Option String) : Mounting Unit := do
  let present ← Prog.ask (Syscall.targetExists layer)
  if present then pure () else makeDirs (.target layer) pkgfs.mountPoint
  (Prog.try_ (Syscall.mount layer source fstype data)).context
    s!"Failed to mount {source.quote} on {pkgfs.mountPoint.quote} with filesystem type {fstype}"

/-- The characters with a meaning in a list of lower directories, quoted. -/
def escapeOverlayOpt (path : String) : String :=
  String.ofList (path.toList.flatMap fun c =>
    if c = '\\' ∨ c = ',' ∨ c = ':' then ['\\', c] else [c])

def buildOverlayOptions (lowerdir upperdir workdir : String) : String :=
  s!"lowerdir={escapeOverlayOpt lowerdir},upperdir={upperdir},workdir={workdir}"

def mountOverlayfs (pkgfs : PackageFsMetadata cfg) : Mounting Unit := do
  -- That the root is not empty is asserted here: it is what `rooted` says.
  let upperdir := joinPath pkgfs.overlayfsRoot "upper"
  let workdir := joinPath pkgfs.overlayfsRoot "work"
  let options := buildOverlayOptions pkgfs.mountPoint upperdir workdir
  makeDirs .upper upperdir
  makeDirs .work workdir
  doMount pkgfs .overlay "overlay" "overlay" (some options)

/-- The mount steps of a device. -/
structure DeviceMountBackend where
  mountBase : String → Mounting Unit
  mountOverlay : Mounting Unit
  unmount : Mounting Unit

def defaultDeviceMountBackend (pkgfs : PackageFsMetadata cfg) : DeviceMountBackend where
  mountBase blkdev := doMount pkgfs .base blkdev pkgfs.fstype none
  mountOverlay := mountOverlayfs pkgfs
  unmount := doUnmount pkgfs .rollback

/-- Mount the base package fs, then the overlay. Roll back the base if the
    overlay step fails. -/
def mountDeviceWith (blkdev : String) (overlayEnabled : Bool) (backend : DeviceMountBackend) :
    Mounting Unit := do
  backend.mountBase blkdev
  if overlayEnabled then
    match ← backend.mountOverlay.attempt with
    | .ok () => pure ()
    | .error e =>
        -- A rollback that fails is only logged.
        let _unmounted ← backend.unmount.attempt
        Prog.fail e
  else pure ()

def mountDevice (blkdev : String) (pkgfs : PackageFsMetadata cfg) : Mounting Unit :=
  mountDeviceWith blkdev cfg.overlayEnabled (defaultDeviceMountBackend pkgfs)

def unmountPkgfs (pkgfs : PackageFsMetadata cfg) : Mounting Unit := do
  -- The overlay's guard does not ask where there are no overlays.
  let overlaid ← if cfg.overlayEnabled then Prog.ask (.isExactMount .overlayGuard) else pure false
  if overlaid then
    (doUnmount pkgfs .overlay).context
      s!"unmount_pkgfs({pkgfs.path}): Failed while unmounting overlayfs"
  else pure ()
  let mounted ← Prog.ask (.isExactMount .baseGuard)
  if mounted then
    (doUnmount pkgfs .base).context
      s!"unmount_pkgfs({pkgfs.path}): Failed while unmounting package filesystem"
  else pure ()

def mountPkgfs (pkgName : String) (pkgfs : PackageFsMetadata cfg) : Mounting Unit := do
  let mounted ← Prog.ask (.isExactMount .gate)
  if mounted then
    -- The package is mounted already.
    pure ()
  else
    (Prog.try_ (Syscall.attach pkgfs.path pkgfs.pkgfsOffset pkgfs.length)).context
      s!"{pkgName}: failed while attaching loop device for {pkgfs.path}"
    match ← Prog.ask Syscall.loopPath with
    | none =>
        Prog.fail
          [s!"{pkgName}: loop device for {pkgfs.path.quote} has no associated path after attach"]
    | some loopDev =>
        -- The device of the table in front of the loop device is what gets mounted.
        let device ← (Prog.try_ (Syscall.verityDevice loopDev)).context
          s!"{pkgName}: failed while creating dm-verity device from {loopDev}"
        (mountDevice device pkgfs).context
          s!"{pkgName}: failed while mounting attached device {device}"

end Mount

end Ssam
