import Ssam.Lib.Run
import Ssam.Lib.Args
import Ssam.Network.Subnets
import Ssam.Network.Reissue
import Ssam.Network.Soundness
import Ssam.Network.Leaks
import Ssam.Network.Survivor
import Ssam.Network.FailedAttach
import Ssam.Network.Restart
import Ssam.Network.Netns
import Ssam.Lifecycle.Monitor
import Ssam.Lifecycle.Removal
import Ssam.Lifecycle.Safety
import Ssam.Lifecycle.Setup
import Ssam.Lifecycle.Compensation
import Ssam.Mount.Stack
import Ssam.Mount.Overlay
import Ssam.Mount.LoopAttach
import Ssam.Mount.FindMnt
import Ssam.Mount.Chain
import Ssam.Mount.Signed
import Ssam.Dm.Target
import Ssam.Dm.Ioctl
import Ssam.Dm.DeviceList
import Ssam.Quotactl.DiskQuota
import Ssam.Volume.ProjectIds
import Ssam.Volume.IdSupply
import Ssam.Package.Integrity
import Ssam.Package.RoundTrip
import Ssam.Package.Metadata
import Ssam.Package.VerityTokens
import Ssam.Package.VerityGeometry
import Ssam.Package.Extent
import Ssam.Package.LoaderSafety
import Ssam.Package.Wrapping
import Ssam.Executor.LostResult
import Ssam.Executor.Reported
import Ssam.Oci.Seccomp
import Ssam.Oci.DataMounts
import Ssam.Oci.AppArmor
import Ssam.Manager.Atomic
import Ssam.Manager.Crash
import Ssam.Manager.Agreement
import Ssam.Manager.Reload
import Ssam.Manager.OneEntry
import Ssam.Manager.Override
import Ssam.Manager.Downgrade
import Ssam.Daemon.Bundled
import Ssam.Daemon.Isolation
import Ssam.Daemon.Limits
import Ssam.Daemon.Preserve
import Ssam.ProcMacros.Template
import Ssam.ProcMacros.Conformance
