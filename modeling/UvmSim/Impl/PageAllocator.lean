import UvmSim.Impl.Common

/-!
# The page allocator (`PageAllocator.h`, `PageAllocator.cpp`)

Two pools of fixed-size slots, the host pool (a `malloc`ed buffer at
`cpu_pool_`) and the device pool (the synthetic range from `0x100000000`),
each a bitmap scanned first-fit and a count of occupied slots (`SlotPool`).
`allocate_cpu_page` and `allocate_gpu_page` share the scan (`SlotPool.take`);
the two deallocations differ in how they find the slot of an address, and
share the release (`SlotPool.release`).
-/

namespace UvmSim

/-- The index of the first `false` of a bitmap, the loop of
`allocate_cpu_page` and `allocate_gpu_page`. -/
def firstFree : List Bool → Option Nat
  | [] => none
  | false :: _ => some 0
  | true :: bm => (firstFree bm).map (· + 1)

/-- One pool's `*_page_bitmap_` and `*_pages_allocated_`. -/
structure SlotPool where
  bitmap : List Bool
  allocated : Nat
  deriving DecidableEq, Repr

namespace SlotPool

/-- The first unoccupied slot, now occupied. -/
def take (p : SlotPool) : Option (Nat × SlotPool) :=
  (firstFree p.bitmap).map fun i => (i, ⟨p.bitmap.set i true, u64 (p.allocated + 1)⟩)

/-- `if (page_idx < bitmap.size() && bitmap[page_idx]) { bitmap[page_idx] = false; allocated--; }` -/
def release (p : SlotPool) (i : Nat) : SlotPool :=
  if p.bitmap.getD i false then ⟨p.bitmap.set i false, u64 (p.allocated + (2 ^ 64 - 1))⟩ else p

/-- `bitmap.size() - allocated`, in `size_t`. -/
def available (p : SlotPool) : Nat := u64 (p.bitmap.length + 2 ^ 64 - p.allocated)

end SlotPool

/-- `PageAllocator::Config`, without `use_pinned_memory` (both branches of
`initialize` do the same) and `use_gpu_simulator` (it only sizes `gpu_pool_`,
which nothing reads). -/
structure PageAllocator.Config where
  pageSize : Nat
  cpuPagePoolSize : Nat
  gpuPagePoolSize : Nat
  deriving DecidableEq, Repr

structure PageAllocator where
  config : PageAllocator.Config
  cpuPool : Address
  cpu : SlotPool
  gpu : SlotPool
  deriving DecidableEq, Repr

/-- `malloc(size)` as the environment answers it, with the address `p`:
`nullptr` when `p = 0`, and always for a request above `PTRDIFF_MAX`, the
size no object can exceed. -/
def malloc (size p : Address) : Option Address :=
  if p = 0 ∨ 2 ^ 63 ≤ size then none else some p

/-- The base of the device pool's synthetic addresses. -/
def gpuBase : Nat := 0x100000000

/-- `(ptrdiff_t)` of a `size_t`. -/
def toPtrdiff (n : Nat) : Int := if n < 2 ^ 63 then n else (n : Int) - 2 ^ 64

namespace PageAllocator

/-- The constructor then `PageAllocator::initialize`, `malloc` answering
`p`; `none` when the division by the page size traps or `initialize` throws
because `malloc` failed. -/
def init (config : PageAllocator.Config) (p : Address) : Option PageAllocator :=
  if config.pageSize = 0 then none
  else (malloc config.cpuPagePoolSize p).map fun pool =>
    ⟨config, pool, ⟨List.replicate (config.cpuPagePoolSize / config.pageSize) false, 0⟩,
      ⟨List.replicate (config.gpuPagePoolSize / config.pageSize) false, 0⟩⟩

def allocateCpuPage (a : PageAllocator) : Address × PageAllocator :=
  match a.cpu.take with
  | some (i, p) => (a.cpuPool + i * a.config.pageSize, { a with cpu := p })
  | none => (0, a)

def deallocateCpuPage (a : PageAllocator) (ptr : Address) : PageAllocator :=
  if ptr = 0 then a
  else
    let offset : Int := (ptr : Int) - a.cpuPool
    if offset < 0 ∨ toPtrdiff a.config.cpuPagePoolSize ≤ offset then a
    else { a with cpu := a.cpu.release (offset.toNat / a.config.pageSize) }

def allocateGpuPage (a : PageAllocator) : Nat × PageAllocator :=
  match a.gpu.take with
  | some (i, p) => (u64 (gpuBase + u64 (i * a.config.pageSize)), { a with gpu := p })
  | none => (0, a)

def deallocateGpuPage (a : PageAllocator) (gpuAddr : Nat) : PageAllocator :=
  if gpuAddr < gpuBase then a
  else { a with gpu := a.gpu.release ((gpuAddr - gpuBase) / a.config.pageSize) }

def getAvailableCpuPages (a : PageAllocator) : Nat := a.cpu.available

def getAvailableGpuPages (a : PageAllocator) : Nat := a.gpu.available

def getTotalCpuPages (a : PageAllocator) : Nat := a.cpu.bitmap.length

def getTotalGpuPages (a : PageAllocator) : Nat := a.gpu.bitmap.length

@[simp] theorem allocateCpuPage_config (a : PageAllocator) : a.allocateCpuPage.2.config = a.config := by
  unfold allocateCpuPage; split <;> rfl

@[simp] theorem allocateCpuPage_cpuPool (a : PageAllocator) : a.allocateCpuPage.2.cpuPool = a.cpuPool := by
  unfold allocateCpuPage; split <;> rfl

@[simp] theorem allocateGpuPage_config (a : PageAllocator) : a.allocateGpuPage.2.config = a.config := by
  unfold allocateGpuPage; split <;> rfl

@[simp] theorem allocateGpuPage_cpuPool (a : PageAllocator) : a.allocateGpuPage.2.cpuPool = a.cpuPool := by
  unfold allocateGpuPage; split <;> rfl

@[simp] theorem deallocateCpuPage_config (a : PageAllocator) (p : Address) :
    (a.deallocateCpuPage p).config = a.config := by
  simp only [deallocateCpuPage]; split_ifs <;> rfl

@[simp] theorem deallocateCpuPage_cpuPool (a : PageAllocator) (p : Address) :
    (a.deallocateCpuPage p).cpuPool = a.cpuPool := by
  simp only [deallocateCpuPage]; split_ifs <;> rfl

@[simp] theorem deallocateGpuPage_config (a : PageAllocator) (g : Nat) :
    (a.deallocateGpuPage g).config = a.config := by
  unfold deallocateGpuPage; split_ifs <;> rfl

@[simp] theorem deallocateGpuPage_cpuPool (a : PageAllocator) (g : Nat) :
    (a.deallocateGpuPage g).cpuPool = a.cpuPool := by
  unfold deallocateGpuPage; split_ifs <;> rfl

end PageAllocator

/-! ## The first-fit scan -/

theorem firstFree_eq_some {bm : List Bool} {i : Nat} :
    firstFree bm = some i ↔ bm[i]? = some false ∧ ∀ j < i, bm[j]? = some true := by
  induction bm generalizing i with
  | nil => simp [firstFree]
  | cons b bm ih =>
    cases b <;> cases i <;> simp [firstFree, ih, Nat.forall_lt_succ_left]

theorem firstFree_eq_none {bm : List Bool} : firstFree bm = none ↔ ∀ b ∈ bm, b = true := by
  induction bm with
  | nil => simp [firstFree]
  | cons b bm ih => cases b <;> simp [firstFree, ih]

end UvmSim
