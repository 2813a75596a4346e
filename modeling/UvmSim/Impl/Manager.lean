import UvmSim.Impl.PageTable
import UvmSim.Impl.PageAllocator
import UvmSim.Impl.Policies
import UvmSim.Impl.TLB

/-!
# The manager: lifecycle, allocation and release (`VirtualMemoryManager.cpp`)

The state of the singleton `VirtualMemoryManager`, `initialize`, `shutdown`,
`allocate` and `free`, and the synchronous migrations of `MigrationManager`
they call. The manager never queues an asynchronous migration, so the
migration queue and its workers hold nothing the operations read.

`memory` is the process's byte memory; the host pool is its bytes from
`allocator.cpuPool` on. A null `unique_ptr` subsystem (before `initialize`
and after `shutdown`) is a placeholder that no operation reads while
`initialized` is false.
-/

namespace UvmSim

/-! ## Synchronous migrations (`MigrationManager.cpp`) -/

/-- `migrate_cpu_to_gpu`'s effect on the page table (the elapsed time it
returns is not modelled): nothing for a null host address or a VPN without
an entry. -/
def migrateCpuToGpu (pt : PageTable) (vpn : VirtualPageNumber) (cpuAddr : Address)
    (gpuAddr : Nat) : PageTable :=
  if cpuAddr = 0 then pt
  else pt.modifyEntry vpn fun e => { e with residentOnGpu := true, gpuAddress := gpuAddr, isDirty := false }

def migrateGpuToCpu (pt : PageTable) (vpn : VirtualPageNumber) (gpuAddr : Nat)
    (cpuAddr : Address) : PageTable :=
  if cpuAddr = 0 ∨ gpuAddr = 0 then pt
  else pt.modifyEntry vpn fun e => { e with residentOnCpu := true, cpuAddress := cpuAddr }

/-! ## The state -/

structure VirtualMemoryManager where
  initialized : Bool
  config : VMConfig
  perfCounters : PerfCounters
  pageTable : PageTable
  allocator : PageAllocator
  tlb : TLB
  replacementPolicy : ReplacementPolicy
  nextVpn : VirtualPageNumber
  vaddrToVpnMap : Finmap fun _ : Address => VirtualPageNumber
  gpuResidentPages : Finset VirtualPageNumber
  memory : Address → UInt8

namespace VirtualMemoryManager

/-- The singleton as its constructor leaves it, in a process whose memory
holds `memory`. -/
def fresh (memory : Address → UInt8) : VirtualMemoryManager where
  initialized := false
  config := {}
  perfCounters := {}
  pageTable := ⟨0, 0, ∅⟩
  allocator := ⟨⟨0, 0, 0⟩, 0, ⟨[], 0⟩, ⟨[], 0⟩⟩
  tlb := ⟨⟨0, 0⟩, [], 0, 0⟩
  replacementPolicy := .lru (LRUPolicy.new 0)
  nextVpn := 0
  vaddrToVpnMap := ∅
  gpuResidentPages := ∅
  memory := memory

/-- `initialize(config)` (a keyword of Lean), `malloc` answering `cpuPool`
for the host pool; `none` when a division by zero traps or the pool's
allocation throws. The counters are not reset. -/
def init (s : VirtualMemoryManager) (config : VMConfig) (cpuPool : Address) :
    Option VirtualMemoryManager :=
  if s.initialized then some s
  else do
    let pageTable ← PageTable.init config.pageSize config.virtualAddressSpace
    let allocator ← PageAllocator.init ⟨config.pageSize, config.gpuMemory, config.gpuMemory⟩ cpuPool
    let tlb ← TLB.init ⟨config.tlbSize, config.tlbAssociativity⟩
    some { s with
      config, pageTable, allocator, tlb
      replacementPolicy := match config.replacementPolicy with
        | .LRU => .lru (LRUPolicy.new 65536)
        | .CLOCK => .clock (CLOCKPolicy.new 65536)
      nextVpn := 0
      initialized := true }

def shutdown (s : VirtualMemoryManager) : VirtualMemoryManager :=
  if s.initialized then { s with initialized := false, vaddrToVpnMap := ∅, gpuResidentPages := ∅ } else s

/-! ## `allocate` -/

/-- The loop of `allocate` that takes one host slot per page, from the
`i`-th page with `k` left, the slots taken so far in `pages`; `.error` when
`allocate_cpu_page` fails. -/
def allocateCpuPages (vpnStart : VirtualPageNumber) :
    Nat → Nat → List Address → VirtualMemoryManager →
      Except (List Address × VirtualMemoryManager) (List Address × VirtualMemoryManager)
  | _, 0, pages, s => .ok (pages, s)
  | i, k + 1, pages, s =>
    let r := s.allocator.allocateCpuPage
    if r.1 = 0 then .error (pages, { s with allocator := r.2 })
    else
      allocateCpuPages vpnStart (i + 1) k (pages ++ [r.1])
        { s with
          allocator := r.2
          pageTable := (s.pageTable.setCpuResident (u64 (vpnStart + i)) r.1).updateAccessTime (u64 (vpnStart + i))
          replacementPolicy := s.replacementPolicy.onPageAllocated (u64 (vpnStart + i)) }

/-- The prefetch loop of `allocate`, from the `i`-th page with `k` left: a
page that gets a device slot is made device-resident and migrated there. -/
def prefetchGpuPages (vpnStart : VirtualPageNumber) (cpuPages : List Address) :
    Nat → Nat → VirtualMemoryManager → VirtualMemoryManager
  | _, 0, s => s
  | i, k + 1, s =>
    let r := s.allocator.allocateGpuPage
    if r.1 = 0 then prefetchGpuPages vpnStart cpuPages (i + 1) k { s with allocator := r.2 }
    else
      let vpn := u64 (vpnStart + i)
      let c := s.perfCounters.migrated true s.config.pageSize
      prefetchGpuPages vpnStart cpuPages (i + 1) k
        { s with
          allocator := r.2
          pageTable := migrateCpuToGpu (s.pageTable.setGpuResident vpn r.1) vpn (cpuPages.getD i 0) r.1
          gpuResidentPages := insert vpn s.gpuResidentPages
          perfCounters := { c with pagePrefetches := u64 (c.pagePrefetches + 1) } }

/-- `allocate(bytes, prefetch_to_gpu)`: the address returned, `0` for
`nullptr`. -/
def allocate (s : VirtualMemoryManager) (bytes : Nat) (prefetchToGpu : Bool) :
    Address × VirtualMemoryManager :=
  if !s.initialized then (0, s)
  else
    let numPages := u32 (alignToPage bytes s.config.pageSize / s.config.pageSize)
    let vpnStart := s.nextVpn
    let r := s.pageTable.allocateVpnRange vpnStart numPages
    if !r.1 then (0, { s with pageTable := r.2 })
    else
      match allocateCpuPages vpnStart 0 numPages [] { s with pageTable := r.2 } with
      | .error (pages, s) =>
        (0, { s with
          allocator := pages.foldl PageAllocator.deallocateCpuPage s.allocator
          pageTable := s.pageTable.deallocateVpnRange vpnStart numPages })
      | .ok (pages, s) =>
        let s := if prefetchToGpu then prefetchGpuPages vpnStart pages 0 numPages s else s
        let vaddr := vpnToVaddr vpnStart s.config.pageSize
        (vaddr, { s with
          vaddrToVpnMap := Finmap.insert vaddr vpnStart s.vaddrToVpnMap
          nextVpn := u64 (s.nextVpn + numPages) })

/-! ## `free` -/

/-- The body of the loop of `free`, for one VPN. -/
def freePage (s : VirtualMemoryManager) (vpn : VirtualPageNumber) : Option VirtualMemoryManager :=
  let allocator :=
    match s.pageTable.lookupEntry vpn with
    | some e =>
      let a := if e.cpuAddress ≠ 0 then s.allocator.deallocateCpuPage e.cpuAddress else s.allocator
      if e.gpuAddress ≠ 0 then a.deallocateGpuPage e.gpuAddress else a
    | none => s.allocator
  (s.tlb.invalidate vpn).map fun tlb =>
    { s with
      allocator
      gpuResidentPages := s.gpuResidentPages.erase vpn
      replacementPolicy := s.replacementPolicy.onPageFreed vpn
      tlb }

/-- The number of pages `free` releases from `vpnStart`: the valid entries
at or above it, counted in a `uint32_t`, or `1` if there are none. -/
def freeCount (s : VirtualMemoryManager) (vpnStart : VirtualPageNumber) : Nat :=
  let n := u32 (s.pageTable.getAllEntries.filter (vpnStart ≤ ·)).card
  if n = 0 then 1 else n

def free (s : VirtualMemoryManager) (vaddr : Address) : Option VirtualMemoryManager :=
  if !s.initialized then some s
  else
    match s.vaddrToVpnMap.lookup vaddr with
    | none => some s
    | some vpnStart =>
      ((List.range (s.freeCount vpnStart)).foldlM
        (fun (t : VirtualMemoryManager) i => t.freePage (u64 (vpnStart + i))) s).map
        fun s' => { s' with
          pageTable := s'.pageTable.deallocateVpnRange vpnStart (s.freeCount vpnStart)
          vaddrToVpnMap := s'.vaddrToVpnMap.erase vaddr }

end VirtualMemoryManager

end UvmSim
