import Mathlib.Data.Finmap

/-!
# Common definitions (`Common.h`)

The integer types of the simulator, the address helpers `vaddr_to_vpn`,
`vpn_to_vaddr`, `align_to_page` and `hash_vpn`, the configuration record and
the performance counters.

A `uint64_t`, `size_t` or `uint32_t` of the source is a natural number below
`2 ^ w`; every operation of the source that can wrap is written with `u64` or
`u32`. A pointer is a natural number, `0` being `nullptr`: the pointers the
simulator forms point into one `malloc`ed pool, where C++ pointer arithmetic
does not wrap.
-/

namespace UvmSim

/-- Truncation to a `uint64_t` (or a 64-bit `size_t`). -/
def u64 (n : Nat) : Nat := n % 2 ^ 64

/-- Truncation to a `uint32_t`. -/
def u32 (n : Nat) : Nat := n % 2 ^ 32

theorem u64_of_lt {n : Nat} (h : n < 2 ^ 64) : u64 n = n := Nat.mod_eq_of_lt h

/-- A multiple of a sum, in `uint64_t`, reads its terms only modulo `2 ^ 64`. -/
theorem u64_mul_add_u64 (p a b : Nat) : u64 (p * (a + u64 b)) = u64 (p * (a + b)) := by
  unfold u64
  rw [← Nat.mul_mod_mod, Nat.add_mod_mod, Nat.mul_mod_mod]

/-- `VirtualPageNumber`, a `uint64_t`. -/
abbrev VirtualPageNumber := Nat

/-- `Address`, a `uint64_t`; also the value of a `void *`. -/
abbrev Address := Nat

def defaultPageSize : Nat := 64 * 1024
def defaultVirtualAddressSpace : Nat := 256 * 1024 * 1024 * 1024
def defaultGpuMemory : Nat := 4 * 1024 * 1024 * 1024
def defaultTlbSize : Nat := 1024
def defaultTlbAssociativity : Nat := 8

def vaddrToVpn (vaddr : Address) (pageSize : Nat) : VirtualPageNumber := vaddr / pageSize

def vpnToVaddr (vpn : VirtualPageNumber) (pageSize : Nat) : Address := u64 (vpn * pageSize)

/-- `((size + page_size - 1) / page_size) * page_size` in `size_t`; the sum may
wrap, the product may not (it is at most the quotient's dividend). -/
def alignToPage (size pageSize : Nat) : Nat := u64 (size + pageSize - 1) / pageSize * pageSize

@[simp] theorem alignToPage_zero (pageSize : Nat) : alignToPage 0 pageSize = 0 := by
  unfold alignToPage u64
  rcases Nat.eq_zero_or_pos pageSize with rfl | hp
  · simp
  · rw [Nat.div_eq_of_lt (by omega), Nat.zero_mul]

/-- The FNV-1a mixing of the eight bytes of a VPN, in `uint32_t`. -/
def hashVpn (vpn : VirtualPageNumber) : Nat :=
  (List.range 8).foldl (fun hash i => u32 ((hash ^^^ (vpn >>> (i * 8)) % 256) * 16777619)) 2166136261

inductive PageReplacementPolicy where
  | LRU
  | CLOCK
  deriving DecidableEq, Repr

/-- `VMConfig`: the options the modelled operations read. -/
structure VMConfig where
  pageSize : Nat := defaultPageSize
  virtualAddressSpace : Nat := defaultVirtualAddressSpace
  gpuMemory : Nat := defaultGpuMemory
  tlbSize : Nat := defaultTlbSize
  tlbAssociativity : Nat := defaultTlbAssociativity
  replacementPolicy : PageReplacementPolicy := .LRU
  deriving DecidableEq, Repr

/-- `PerfCounters`: atomic 64-bit counters. -/
structure PerfCounters where
  totalPageFaults : Nat := 0
  cpuToGpuMigrations : Nat := 0
  gpuToCpuMigrations : Nat := 0
  totalBytesMigrated : Nat := 0
  tlbHits : Nat := 0
  tlbMisses : Nat := 0
  evictions : Nat := 0
  kernelLaunches : Nat := 0
  pagePrefetches : Nat := 0
  deriving DecidableEq, Repr

/-- `PerfCounters::reset`. -/
def PerfCounters.reset (_ : PerfCounters) : PerfCounters := {}

/-- The accounting of one migration of a page of `pageSize` bytes in the
direction `toGpu`: the direction's count and the bytes moved grow. -/
def PerfCounters.migrated (c : PerfCounters) (toGpu : Bool) (pageSize : Nat) : PerfCounters :=
  if toGpu then
    { c with cpuToGpuMigrations := u64 (c.cpuToGpuMigrations + 1),
             totalBytesMigrated := u64 (c.totalBytesMigrated + pageSize) }
  else
    { c with gpuToCpuMigrations := u64 (c.gpuToCpuMigrations + 1),
             totalBytesMigrated := u64 (c.totalBytesMigrated + pageSize) }

@[simp] theorem PerfCounters.migrated_evictions (c : PerfCounters) (b : Bool) (p : Nat) :
    (c.migrated b p).evictions = c.evictions := by
  unfold migrated; split <;> rfl

end UvmSim
