import Ssam.Dm.VerityDevice
import Ssam.Mount.Pkgfs
import Ssam.Package.VerityTokens

/-!
# The Devices behind a Package File System

What a mount of a package file system does with its devices. The mount is the program of
`mountPkgfs`, with each of its calls carried out: the loop device is attached, and the
verity device is set up over it. The two are values of the function, so they are dropped
at its end, the one that was made last first. Dropping the verity device asks for its
removal, dropping the loop device asks for its detachment and closes it. What is mounted
keeps both until it is unmounted.

## Main definitions

* `DeviceCall`: The calls of a mount and of an unmount.
* `PackageFs`: A package file system with its signed table.
* `carry`: How the calls of `mountPkgfs` are carried out.
* `dropLocals`: What is done at the end of the function.
* `PackageFs.mount`, `PackageFs.unmount`, `PackageFs.mountTask`: The operations.
-/

namespace Ssam

namespace Mount

open Lib Package
open Dm (DMDevice DmCall)

/-- A call about a loop device, or for a name. -/
inductive LoopCall : Type → Type where
  /-- Attach a free loop device to the file, and open it. -/
  | attach (backingFile : String) (offset length : Nat) : LoopCall (Except Error Nat)
  | path (dev : Nat) : LoopCall (Option String)
  /-- Have the device detached as soon as nobody has it open. -/
  | detach (dev : Nat) : LoopCall (Except Error Unit)
  | close (dev : Nat) : LoopCall Unit
  | newUuid : LoopCall String

/-- A call of one of the operations. -/
inductive DeviceCall (β : Type) : Type where
  | mounting (mountPoint : String) (c : Syscall β)
  | loop (c : LoopCall β)
  | dm (c : DmCall β)

/-- A program over these calls. -/
abbrev Devices := Prog DeviceCall Error

variable {cfg : MountConfig}

/-- A package file system with the table that is signed for it. -/
structure PackageFs (cfg : MountConfig) where
  packageName : String
  pkgfs : PackageFsMetadata cfg
  verityInfo : PackageFsVerityInfo
  /-- The table is that of a formatted image. -/
  numbered : Dm.Numbered verityInfo

/-- The values of `mountPkgfs` that are dropped at its end. -/
structure Locals where
  loopDev : Option Nat
  verityDev : Option DMDevice

/-- Make the call, and leave the values as they are. -/
def pass {β : Type} (l : Locals) (c : DeviceCall β) : Devices (β × Locals) :=
  (Prog.ask c).bind fun a => .done (.ok (a, l))

/-- The name of a verity device. What comes last is new each time. -/
def verityName (pkgHash10 : String → String) (packageName suffix : String) : String :=
  s!"ssam-{pkgHash10 packageName}-verity-{suffix}"

/-- A call of `mountPkgfs`, carried out. -/
def carry (pkgHash10 : String → String) (p : PackageFs cfg) {β : Type} (l : Locals) :
    Syscall β → Devices (β × Locals)
  | .attach backingFile offset length => do
      match ← Prog.ask (.loop (.attach backingFile offset length)) with
      | .ok dev => pure (.ok (), { l with loopDev := some dev })
      | .error e => pure (.error e, l)
  | .loopPath =>
      match l.loopDev with
      | some dev => pass l (.loop (.path dev))
      | none => pure (none, l)
  | .verityDevice loopDev => do
      let suffix ← Prog.ask (.loop .newUuid)
      let name := verityName pkgHash10 p.packageName suffix
      match ← ((Dm.VerityDevice.new name loopDev p.verityInfo).lift DeviceCall.dm).attempt with
      | .ok device =>
          pure (.ok (Dm.VerityDevice.devnode device), { l with verityDev := some device })
      | .error e => pure (.error e, l)
  | c => pass l (.mounting p.pkgfs.mountPoint c)

/-- The verity device is dropped. -/
def dropVerity : Option DMDevice → Devices Unit
  | some device =>
      -- A removal that fails is only logged.
      ((Dm.DMControl.removeDevice device.deviceName).lift DeviceCall.dm).attempt.bind fun _ =>
        pure ()
  | none => pure ()

/-- The loop device is dropped. -/
def dropLoop : Option Nat → Devices Unit
  | some dev => do
      -- So is a detachment that fails. The device is closed after it.
      let _detached ← Prog.ask (.loop (.detach dev))
      Prog.ask (.loop (.close dev))
  | none => pure ()

def dropLocals (l : Locals) : Devices Unit := do
  dropVerity l.verityDev
  dropLoop l.loopDev

namespace PackageFs

variable (pkgHash10 : String → String) (p : PackageFs cfg)

def mount : Devices Unit := do
  let run ← (mountPkgfs p.packageName p.pkgfs).expand (carry pkgHash10 p) ⟨none, none⟩
  dropLocals run.2
  Prog.ofExcept run.1

def unmount : Devices Unit :=
  (unmountPkgfs p.pkgfs).lift (DeviceCall.mounting p.pkgfs.mountPoint)

/-- The mount of a setup: after a failure the package fs is unmounted and mounted again. -/
def mountTask : Devices Unit :=
  Prog.context s!"{p.packageName}: Failed to mount package fs" do
    match ← (p.mount pkgHash10).attempt with
    | .ok () => pure ()
    -- What failed the first time is only logged.
    | .error _ =>
        p.unmount.context s!"{p.packageName}: Failed to unmount package fs during retry"
        p.mount pkgHash10

/-- The unmount of a cleanup. -/
def unmountTask : Devices Unit :=
  p.unmount.context s!"{p.packageName}: Failed to unmount package fs"

end PackageFs

end Mount

end Ssam
