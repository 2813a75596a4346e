import Mathlib.Data.Finset.Max
import UvmSim.Impl.Manager

/-!
# The manager: faults, eviction and accesses (`VirtualMemoryManager.cpp`)

`resolve_page_fault`, `evict_page_from_gpu`, `map_to_cpu`, `map_to_gpu`,
`touch_page`, `read_from_vaddr` and `write_to_vaddr`, then the public
operations as one step function (`step`), its runs (`run`) and the states
they reach (`Reachable`). A step is `none` when the code has undefined
behaviour (a division by zero, an index or a `memcpy` out of range).

`map_to_gpu` and the device branch of `resolve_page_fault` have the same
body; both are `faultToGpu`. The source reads and writes an entry through
the pointer `lookup_entry` returned: reads are `entryAt`, writes
`PageTable.modifyEntry`.
-/

namespace UvmSim

/-- A caller's buffer: `nullptr`, or its bytes. -/
abbrev Buffer := Option (List UInt8)

namespace VirtualMemoryManager

/-- The entry of `vpn`, read through a pointer to it. -/
def entryAt (s : VirtualMemoryManager) (vpn : VirtualPageNumber) : PageTableEntry :=
  (s.pageTable.lookupEntry vpn).getD {}

def modifyEntry (s : VirtualMemoryManager) (vpn : VirtualPageNumber)
    (f : PageTableEntry → PageTableEntry) : VirtualMemoryManager :=
  { s with pageTable := s.pageTable.modifyEntry vpn f }

/-- `*gpu_resident_pages_.begin()`: the standard leaves the order of an
`unordered_set` unspecified; this is its least element. -/
def ledgerBegin (l : Finset VirtualPageNumber) : VirtualPageNumber := l.min.untop' 0

/-- `if (entry->is_dirty && entry->resident_on_cpu)` before an eviction: the
victim's device copy is migrated back to the host. -/
def writeBack (s : VirtualMemoryManager) (victim : VirtualPageNumber) (e : PageTableEntry) :
    VirtualMemoryManager :=
  if e.isDirty && e.residentOnCpu then
    { s with
      pageTable := migrateGpuToCpu s.pageTable victim e.gpuAddress e.cpuAddress
      perfCounters := s.perfCounters.migrated false s.config.pageSize }
  else s

/-- The release of the victim's device slot, the address `e` holds. -/
def releaseGpuPage (s : VirtualMemoryManager) (victim : VirtualPageNumber) (e : PageTableEntry) :
    VirtualMemoryManager :=
  { s with
    allocator := s.allocator.deallocateGpuPage e.gpuAddress
    pageTable := s.pageTable.modifyEntry victim fun e => { e with gpuAddress := 0, residentOnGpu := false }
    gpuResidentPages := s.gpuResidentPages.erase victim
    perfCounters := { s.perfCounters with evictions := u64 (s.perfCounters.evictions + 1) } }

/-- `evict_page_from_gpu` once the victim is chosen. -/
def evictVictim (s : VirtualMemoryManager) (victim : VirtualPageNumber) :
    Option VirtualMemoryManager :=
  match s.pageTable.lookupEntry victim with
  | none => some s
  | some e =>
    let s := (s.writeBack victim e).releaseGpuPage victim e
    (s.tlb.invalidate victim).map fun tlb => { s with tlb }

def evictPageFromGpu (s : VirtualMemoryManager) : Option VirtualMemoryManager :=
  if s.gpuResidentPages = ∅ then some s
  else do
    let (victim, policy) ← s.replacementPolicy.selectVictim
    let s := { s with replacementPolicy := policy }
    let victim :=
      if victim = 0 ∧ 0 < s.gpuResidentPages.card then ledgerBegin s.gpuResidentPages else victim
    if victim = 0 then some s else s.evictVictim victim

/-- `entry->gpu_address = allocator_->allocate_gpu_page();` -/
def takeGpuPage (s : VirtualMemoryManager) (vpn : VirtualPageNumber) : VirtualMemoryManager :=
  let r := s.allocator.allocateGpuPage
  { s with allocator := r.2, pageTable := s.pageTable.modifyEntry vpn fun e => { e with gpuAddress := r.1 } }

/-- A device slot for `vpn`, with one eviction and one retry if the pool is full. -/
def allocateGpuPageFor (s : VirtualMemoryManager) (vpn : VirtualPageNumber) :
    Option VirtualMemoryManager :=
  let s := s.takeGpuPage vpn
  if (s.entryAt vpn).gpuAddress ≠ 0 then some s
  else s.evictPageFromGpu.map fun s => s.takeGpuPage vpn

/-- `if (entry->resident_on_cpu)` in `map_to_gpu`: the copy to the device. -/
def copyToGpu (s : VirtualMemoryManager) (vpn : VirtualPageNumber) : VirtualMemoryManager :=
  let e := s.entryAt vpn
  if e.residentOnCpu then
    { s with
      pageTable := migrateCpuToGpu s.pageTable vpn e.cpuAddress e.gpuAddress
      perfCounters := s.perfCounters.migrated true s.config.pageSize }
  else s

/-- `entry->resident_on_gpu = true; gpu_resident_pages_.insert(vpn);` -/
def markResidentOnGpu (s : VirtualMemoryManager) (vpn : VirtualPageNumber) : VirtualMemoryManager :=
  { s with
    pageTable := s.pageTable.modifyEntry vpn fun e => { e with residentOnGpu := true }
    gpuResidentPages := insert vpn s.gpuResidentPages }

/-- The body of `map_to_gpu` and of the device branch of `resolve_page_fault`. -/
def faultToGpu (s : VirtualMemoryManager) (vpn : VirtualPageNumber) : Option VirtualMemoryManager :=
  if (s.entryAt vpn).residentOnGpu then some s
  else
    (if (s.entryAt vpn).gpuAddress = 0 then s.allocateGpuPageFor vpn else some s).map
      fun s => (s.copyToGpu vpn).markResidentOnGpu vpn

/-- `if (entry->cpu_address == nullptr) entry->cpu_address = allocator_->allocate_cpu_page();` -/
def takeCpuPage (s : VirtualMemoryManager) (vpn : VirtualPageNumber) : VirtualMemoryManager :=
  if (s.entryAt vpn).cpuAddress = 0 then
    let r := s.allocator.allocateCpuPage
    { s with allocator := r.2, pageTable := s.pageTable.modifyEntry vpn fun e => { e with cpuAddress := r.1 } }
  else s

/-- `if (entry->resident_on_gpu)` in a host fault: the copy back from the device. -/
def copyToCpu (s : VirtualMemoryManager) (vpn : VirtualPageNumber) : VirtualMemoryManager :=
  let e := s.entryAt vpn
  if e.residentOnGpu then
    { s with
      pageTable := migrateGpuToCpu s.pageTable vpn e.gpuAddress e.cpuAddress
      perfCounters := s.perfCounters.migrated false s.config.pageSize }
  else s

/-- The host branch of `resolve_page_fault`. -/
def faultToCpu (s : VirtualMemoryManager) (vpn : VirtualPageNumber) : VirtualMemoryManager :=
  if (s.entryAt vpn).residentOnCpu then s
  else ((s.takeCpuPage vpn).copyToCpu vpn).modifyEntry vpn fun e => { e with residentOnCpu := true }

def resolvePageFault (s : VirtualMemoryManager) (vpn : VirtualPageNumber) (accessGpu : Bool) :
    Option VirtualMemoryManager :=
  match s.pageTable.lookupEntry vpn with
  | none => some s
  | some _ => if accessGpu then s.faultToGpu vpn else some (s.faultToCpu vpn)

/-! ## Public accesses -/

def mapToCpu (s : VirtualMemoryManager) (vaddr : Address) (_ : Bool) : Option VirtualMemoryManager :=
  if !s.initialized then some s
  else
    let vpn := vaddrToVpn vaddr s.config.pageSize
    match s.pageTable.lookupEntry vpn with
    | none => some s
    | some e => if !e.residentOnCpu then s.resolvePageFault vpn false else some s

def mapToGpu (s : VirtualMemoryManager) (vaddr : Address) : Option VirtualMemoryManager :=
  if !s.initialized then some s
  else
    let vpn := vaddrToVpn vaddr s.config.pageSize
    match s.pageTable.lookupEntry vpn with
    | none => some s
    | some _ => s.faultToGpu vpn

def prefetchToGpu (s : VirtualMemoryManager) (vaddr : Address) : Option VirtualMemoryManager :=
  s.mapToGpu vaddr

/-- The update of `touch_page` once the entry exists. -/
def recordAccess (s : VirtualMemoryManager) (vpn : VirtualPageNumber) (isWrite : Bool) :
    VirtualMemoryManager :=
  match s.pageTable.lookupEntry vpn with
  | none => s
  | some _ =>
    { s with
      pageTable := s.pageTable.modifyEntry vpn fun e =>
        { e with accessCount := u32 (e.accessCount + 1), isDirty := e.isDirty || isWrite }
      replacementPolicy := s.replacementPolicy.onPageAccess vpn }

def touchPage (s : VirtualMemoryManager) (vaddr : Address) (isWrite : Bool) :
    Option VirtualMemoryManager :=
  if !s.initialized then some s
  else
    let vpn := vaddrToVpn vaddr s.config.pageSize
    let faulted : VirtualMemoryManager :=
      { s with perfCounters := { s.perfCounters with totalPageFaults := u64 (s.perfCounters.totalPageFaults + 1) } }
    let s := match s.pageTable.lookupEntry vpn with
      | none => faulted.resolvePageFault vpn false
      | some _ => some s
    s.map fun s => s.recordAccess vpn isWrite

/-- Whether `[addr, addr + n)` lies in the host pool, the only object the
`memcpy` of a read or a write may touch. -/
def inHostPool (s : VirtualMemoryManager) (addr n : Address) : Prop :=
  s.allocator.cpuPool ≤ addr ∧ addr + n ≤ s.allocator.cpuPool + s.allocator.config.cpuPagePoolSize

instance (s : VirtualMemoryManager) (addr n : Address) : Decidable (s.inHostPool addr n) :=
  inferInstanceAs (Decidable (_ ∧ _))

/-- The host-resident entry `read_from_vaddr` and `write_to_vaddr` copy
through: the entry of `vpn`, after a host fault if needed. -/
def hostEntry (s : VirtualMemoryManager) (vpn : VirtualPageNumber) :
    Option (Option PageTableEntry × VirtualMemoryManager) :=
  match s.pageTable.lookupEntry vpn with
  | none => some (none, s)
  | some e =>
    (if !e.residentOnCpu then s.resolvePageFault vpn false else some s).map
      fun s => (s.pageTable.lookupEntry vpn, s)

/-- `read_from_vaddr(vaddr, buffer, bytes)`: the caller's buffer afterwards. -/
def readFromVaddr (s : VirtualMemoryManager) (vaddr : Address) (buffer : Buffer) (bytes : Nat) :
    Option (Buffer × VirtualMemoryManager) :=
  match buffer with
  | none => some (buffer, s)
  | some buf =>
    if !s.initialized ∨ vaddr = 0 then some (buffer, s)
    else do
      let vpn := vaddrToVpn vaddr s.config.pageSize
      let (e, s) ← s.hostEntry vpn
      match e with
      | some e =>
        if e.cpuAddress = 0 then some (buffer, s)
        else if s.inHostPool e.cpuAddress bytes ∧ bytes ≤ buf.length then
          some (some ((List.range bytes).map (fun k => s.memory (e.cpuAddress + k)) ++ buf.drop bytes), s)
        else none
      | none => some (buffer, s)

/-- `write_to_vaddr(vaddr, buffer, bytes)`. -/
def writeToVaddr (s : VirtualMemoryManager) (vaddr : Address) (buffer : Buffer) (bytes : Nat) :
    Option VirtualMemoryManager :=
  match buffer with
  | none => some s
  | some buf =>
    if !s.initialized ∨ vaddr = 0 then some s
    else do
      let vpn := vaddrToVpn vaddr s.config.pageSize
      let (e, s) ← s.hostEntry vpn
      match e with
      | some e =>
        if e.cpuAddress = 0 then some s
        else if s.inHostPool e.cpuAddress bytes ∧ bytes ≤ buf.length then
          some { s with
            memory := fun a =>
              if e.cpuAddress ≤ a ∧ a < e.cpuAddress + bytes then buf.getD (a - e.cpuAddress) 0 else s.memory a
            pageTable := s.pageTable.modifyEntry vpn fun e => { e with isDirty := true } }
        else none
      | none => some s

def getGpuPagesUsed (s : VirtualMemoryManager) : Nat := s.gpuResidentPages.card

def getGpuPagesAvailable (s : VirtualMemoryManager) : Nat :=
  if s.initialized then s.allocator.getAvailableGpuPages else 0

def getCpuPagesUsed (s : VirtualMemoryManager) : Nat :=
  if s.initialized then s.pageTable.getNumAllocatedPages else 0

def resetCounters (s : VirtualMemoryManager) : VirtualMemoryManager :=
  { s with perfCounters := s.perfCounters.reset }

/-! ## Runs of the public operations -/

/-- A call of a public operation that changes the state; `sync_all_migrations`
waits for a queue the manager never fills. -/
inductive Op where
  | init (config : VMConfig) (cpuPool : Address)
  | shutdown
  | allocate (bytes : Nat) (prefetchToGpu : Bool)
  | free (vaddr : Address)
  | mapToCpu (vaddr : Address) (prefetch : Bool)
  | mapToGpu (vaddr : Address)
  | prefetchToGpu (vaddr : Address)
  | touchPage (vaddr : Address) (isWrite : Bool)
  | readFromVaddr (vaddr : Address) (buffer : Buffer) (bytes : Nat)
  | writeToVaddr (vaddr : Address) (buffer : Buffer) (bytes : Nat)
  | syncAllMigrations
  | resetCounters

def step (s : VirtualMemoryManager) : Op → Option VirtualMemoryManager
  | .init config cpuPool => s.init config cpuPool
  | .shutdown => some s.shutdown
  | .allocate bytes prefetch => some (s.allocate bytes prefetch).2
  | .free vaddr => s.free vaddr
  | .mapToCpu vaddr prefetch => s.mapToCpu vaddr prefetch
  | .mapToGpu vaddr => s.mapToGpu vaddr
  | .prefetchToGpu vaddr => s.prefetchToGpu vaddr
  | .touchPage vaddr isWrite => s.touchPage vaddr isWrite
  | .readFromVaddr vaddr buffer bytes => (s.readFromVaddr vaddr buffer bytes).map (·.2)
  | .writeToVaddr vaddr buffer bytes => s.writeToVaddr vaddr buffer bytes
  | .syncAllMigrations => some s
  | .resetCounters => some s.resetCounters

def run (s : VirtualMemoryManager) : List Op → Option VirtualMemoryManager
  | [] => some s
  | op :: ops => (s.step op).bind (run · ops)

/-- The states of the singleton: from its construction, any run of public
operations that completes. -/
inductive Reachable : VirtualMemoryManager → Prop
  | fresh (memory : Address → UInt8) : Reachable (fresh memory)
  | step {s s' : VirtualMemoryManager} {op : Op} : Reachable s → s.step op = some s' → Reachable s'

end VirtualMemoryManager

end UvmSim
