import UvmSim.Impl.Common
import UvmSim.Impl.PageTable
import UvmSim.Impl.PageAllocator
import UvmSim.Impl.Policies
import UvmSim.Impl.TLB
import UvmSim.Impl.Manager
import UvmSim.Impl.Access
import UvmSim.Impl.Migration
import UvmSim.Proof.Policies
import UvmSim.Proof.TLB
import UvmSim.Proof.Clock
import UvmSim.Proof.PageTable
import UvmSim.Proof.Free
import UvmSim.Proof.Frame
import UvmSim.Proof.Lifecycle
import UvmSim.Proof.ReadWrite
import UvmSim.Proof.Allocate
import UvmSim.Proof.Counters
import UvmSim.Proof.MapToGpu
import UvmSim.Proof.Residency.Wrap
import UvmSim.Proof.Residency.Slots
import UvmSim.Proof.Residency.Invariant
import UvmSim.Proof.Residency.Allocate
import UvmSim.Proof.Residency.Free
import UvmSim.Proof.Residency.Access
import UvmSim.Proof.Residency.Run
import UvmSim.Proof.FirstFit
import UvmSim.Proof.Migration
import UvmSim.Proof.PolicyCapacity
import UvmSim.Proof.Interfaces
import UvmSim.Proof.Accounting
import UvmSim.Proof.MigrationOrder
import UvmSim.Proof.Residency.NoEviction
import UvmSim.Proof.Residency.RoundTrip
import UvmSim.Proof.Residency.Isolation
import UvmSim.Proof.Residency.Prefetch
import UvmSim.Proof.Residency.Persistence
import UvmSim.Proof.Residency.Rollback
