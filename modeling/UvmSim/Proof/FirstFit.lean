import UvmSim.Proof.Residency.Slots

/-!
# The page allocator refines a first-fit allocator

The first-fit model of a pool (`SlotRange`) is the set of its occupied slot
indices: `allocate` answers the address of the least free index and adds it
to the set, `0` when every slot is occupied;
`deallocate(a)` removes the slot of an address of the pool range.

Each bitmap of `PageAllocator` is abstracted by its set bits
(`SlotPool.occupied`): the scan of `allocate_*_page` finds the least free
index (`SlotPool.firstFree_eq_leastFree`), a take adds it and a release
removes it. `PageAllocator.Inv` is what `initialize` leaves and every call
keeps, when the device range `[0x100000000, 0x100000000 + gpu_page_pool_size)`
fits in `uint64_t`: the shape of the pools, and each count equal to the number
of occupied slots. From it a call answers as the model and moves the
abstraction as the model moves it (`PageAllocator.Inv.call`), and so does a
run (`PageAllocator.Inv.runCalls`).

* `allocator_refines_first_fit`: from `initialize`, every sequence of calls
  on the two pools answers as the first-fit model, leaves each count equal to
  the number of occupied slots, and the available pages the total less that
  number.
* `gpu_page_address_wraps`: past that bound, the address of a free device
  slot wraps to `0` in `uint64_t`, and `allocate_gpu_page` answers `0` while
  it occupies the slot.
-/

namespace UvmSim

/-! ## The first-fit model -/

/-- The least index below `n` outside `S`. -/
def leastFree (n : Nat) (S : Finset Nat) : Option Nat := (List.range n).find? (· ∉ S)

theorem leastFree_eq_some {n i : Nat} {S : Finset Nat} :
    leastFree n S = some i ↔ i ∉ S ∧ i < n ∧ ∀ j < i, j ∈ S := by
  simp [leastFree]

/-- A pool as the first-fit model names its slots: `poolSize / pageSize`
slots of `pageSize` bytes from `base`. -/
structure SlotRange where
  base : Nat
  pageSize : Nat
  poolSize : Nat
  deriving DecidableEq, Repr

namespace SlotRange

def slots (P : SlotRange) : Nat := P.poolSize / P.pageSize

/-- The address of the least free slot, which becomes occupied; `0` when
every slot is. -/
def allocate (P : SlotRange) (S : Finset Nat) : Nat × Finset Nat :=
  match leastFree P.slots S with
  | some i => (P.base + i * P.pageSize, insert i S)
  | none => (0, S)

/-- The slot of an address of the pool range is no longer occupied; any
other address changes nothing. -/
def deallocate (P : SlotRange) (S : Finset Nat) (a : Nat) : Finset Nat :=
  if P.base ≤ a ∧ a < P.base + P.poolSize then S.erase ((a - P.base) / P.pageSize) else S

end SlotRange

/-- One call of the allocator's interface. -/
inductive AllocatorCall where
  | allocateCpuPage
  | deallocateCpuPage (ptr : Address)
  | allocateGpuPage
  | deallocateGpuPage (gpuAddr : Nat)
  deriving DecidableEq, Repr

/-- A call on the model of the two pools, the host pool `C` and the device
pool `G`; the deallocations answer `0`. -/
def firstFitCall (C G : SlotRange) (S : Finset Nat × Finset Nat) :
    AllocatorCall → Nat × (Finset Nat × Finset Nat)
  | .allocateCpuPage => ((C.allocate S.1).1, ((C.allocate S.1).2, S.2))
  | .deallocateCpuPage ptr => (0, (C.deallocate S.1 ptr, S.2))
  | .allocateGpuPage => ((G.allocate S.2).1, (S.1, (G.allocate S.2).2))
  | .deallocateGpuPage g => (0, (S.1, G.deallocate S.2 g))

/-- A run of the model: the answers, then the occupied slots. -/
def firstFitRun (C G : SlotRange) (S : Finset Nat × Finset Nat) :
    List AllocatorCall → List Nat × (Finset Nat × Finset Nat)
  | [] => ([], S)
  | k :: ks =>
    let r := firstFitCall C G S k
    let rs := firstFitRun C G r.2 ks
    (r.1 :: rs.1, rs.2)

/-! ## A pool's bitmap as a set of slots -/

namespace SlotPool

/-- The occupied slots: the set bits of the bitmap. -/
def occupied (p : SlotPool) : Finset Nat := (Finset.range p.bitmap.length).filter (p.bitmap.getD · false)

theorem mem_occupied {p : SlotPool} {i : Nat} : i ∈ p.occupied ↔ p.bitmap[i]? = some true := by
  rcases Nat.lt_or_ge i p.bitmap.length with h | h
  · simp [occupied, List.getD_eq_getElem?_getD, h, List.getElem?_eq_getElem h]
  · simp [occupied, List.getElem?_eq_none h]

theorem card_occupied_le (p : SlotPool) : p.occupied.card ≤ p.bitmap.length :=
  (Finset.card_filter_le _ _).trans (Finset.card_range _).le

/-- The scan of `allocate_*_page` finds the least free slot. -/
theorem firstFree_eq_leastFree (p : SlotPool) : firstFree p.bitmap = leastFree p.bitmap.length p.occupied := by
  ext i
  have hfalse : p.bitmap[i]? = some false ↔ p.bitmap[i]? ≠ some true ∧ i < p.bitmap.length := by
    rcases Nat.lt_or_ge i p.bitmap.length with h | h
    · simp [List.getElem?_eq_getElem h, h]
    · simp [List.getElem?_eq_none h]; omega
  simp only [Option.mem_def, firstFree_eq_some, leastFree_eq_some, mem_occupied, hfalse, and_assoc]

theorem length_of_take {p q : SlotPool} {i : Nat} (h : p.take = some (i, q)) : q.bitmap.length = p.bitmap.length := by
  rw [(take_spec h).2, List.length_set]

theorem take_allocated {p q : SlotPool} {i : Nat} (h : p.take = some (i, q)) : q.allocated = u64 (p.allocated + 1) := by
  obtain ⟨j, -, hq⟩ := Option.map_eq_some'.mp h
  cases hq; rfl

/-- A take occupies a free slot. -/
theorem occupied_of_take {p q : SlotPool} {i : Nat} (h : p.take = some (i, q)) :
    i ∉ p.occupied ∧ q.occupied = insert i p.occupied := by
  obtain ⟨hi, hq⟩ := take_spec h
  have hil := (List.getElem?_eq_some.mp hi).1
  refine ⟨by simp [mem_occupied, hi], Finset.ext fun j => ?_⟩
  rw [mem_occupied, hq, getElem?_set_eq_some_true, Finset.mem_insert, mem_occupied]
  by_cases hij : i = j
  · subst hij; simp [hil]
  · simp [hij, Ne.symm hij]

@[simp] theorem occupied_release (p : SlotPool) (i : Nat) : (p.release i).occupied = p.occupied.erase i := by
  ext j
  rw [mem_occupied, release_bitmap, getElem?_set_eq_some_true, Finset.mem_erase, mem_occupied]
  simp [eq_comm]

theorem release_allocated (p : SlotPool) (i : Nat) :
    (p.release i).allocated = if i ∈ p.occupied then u64 (p.allocated + (2 ^ 64 - 1)) else p.allocated := by
  have hb : p.bitmap.getD i false = true ↔ i ∈ p.occupied := by
    rw [mem_occupied, List.getD_eq_getElem?_getD]
    cases p.bitmap[i]? <;> simp
  unfold release
  simp only [hb]
  split_ifs <;> rfl

/-- The count of a pool agrees with its bitmap, whose length is a `size_t`. -/
structure Counted (p : SlotPool) : Prop where
  length_lt : p.bitmap.length < 2 ^ 64
  allocated_eq : p.allocated = p.occupied.card

theorem Counted.take {p q : SlotPool} {i : Nat} (h : p.Counted) (ht : p.take = some (i, q)) : q.Counted := by
  obtain ⟨hi, hocc⟩ := occupied_of_take ht
  have hlen := length_of_take ht
  have hle := hlen ▸ card_occupied_le q
  rw [hocc, Finset.card_insert_of_not_mem hi] at hle
  refine ⟨hlen ▸ h.length_lt, ?_⟩
  rw [take_allocated ht, hocc, Finset.card_insert_of_not_mem hi, h.allocated_eq, u64_of_lt (by have := h.length_lt; omega)]

theorem Counted.release {p : SlotPool} (h : p.Counted) (i : Nat) : (p.release i).Counted := by
  refine ⟨by simpa using h.length_lt, ?_⟩
  rw [release_allocated, occupied_release]
  split_ifs with hi
  · have := Finset.card_pos.mpr ⟨i, hi⟩
    have := (card_occupied_le p).trans_lt h.length_lt
    rw [Finset.card_erase_of_mem hi, h.allocated_eq]
    unfold u64; omega
  · rw [Finset.erase_eq_of_not_mem hi, h.allocated_eq]

/-- `get_available_*_pages`: the total less the occupied slots, with no
wrap. -/
theorem Counted.available_add {p : SlotPool} (h : p.Counted) : p.available + p.occupied.card = p.bitmap.length := by
  have := card_occupied_le p
  have := h.length_lt
  unfold available u64
  rw [h.allocated_eq]; omega

theorem release_of_length_le {p : SlotPool} {i : Nat} (h : p.bitmap.length ≤ i) : p.release i = p := by
  simp [release, List.getD_eq_getElem?_getD, List.getElem?_eq_none h]

end SlotPool

namespace SlotRange

variable {P : SlotRange} {p q : SlotPool} {i : Nat}

/-- A take from a pool of `P.slots` slots is the model's allocation. -/
theorem allocate_of_take (hP : p.bitmap.length = P.slots) (ht : p.take = some (i, q)) :
    P.allocate p.occupied = (P.base + i * P.pageSize, q.occupied) := by
  obtain ⟨j, hj, hq⟩ := Option.map_eq_some'.mp ht
  cases hq
  rw [SlotPool.firstFree_eq_leastFree, hP] at hj
  simp [allocate, hj, (SlotPool.occupied_of_take ht).2]

theorem allocate_of_full (hP : p.bitmap.length = P.slots) (ht : p.take = none) :
    P.allocate p.occupied = (0, p.occupied) := by
  rw [SlotPool.take, Option.map_eq_none', SlotPool.firstFree_eq_leastFree, hP] at ht
  simp [allocate, ht]

end SlotRange

/-! ## The allocator refines the model -/

namespace PageAllocator

/-- The host pool as the model names its slots. -/
def cpuRange (a : PageAllocator) : SlotRange := ⟨a.cpuPool, a.config.pageSize, a.config.cpuPagePoolSize⟩

/-- The device pool as the model names its slots. -/
def gpuRange (a : PageAllocator) : SlotRange := ⟨gpuBase, a.config.pageSize, a.config.gpuPagePoolSize⟩

/-- The model's state: the occupied slots of the host pool, then of the
device pool. -/
def occupied (a : PageAllocator) : Finset Nat × Finset Nat := (a.cpu.occupied, a.gpu.occupied)

/-- A call; the deallocations answer `0`. -/
def call (a : PageAllocator) : AllocatorCall → Nat × PageAllocator
  | .allocateCpuPage => a.allocateCpuPage
  | .deallocateCpuPage ptr => (0, a.deallocateCpuPage ptr)
  | .allocateGpuPage => a.allocateGpuPage
  | .deallocateGpuPage g => (0, a.deallocateGpuPage g)

/-- A run: the answers, then the allocator. -/
def runCalls (a : PageAllocator) : List AllocatorCall → List Nat × PageAllocator
  | [] => ([], a)
  | k :: ks =>
    let r := a.call k
    let rs := r.2.runCalls ks
    (r.1 :: rs.1, rs.2)

@[simp] theorem cpuRange_call (a : PageAllocator) (k : AllocatorCall) : (a.call k).2.cpuRange = a.cpuRange := by
  cases k <;> simp [call, cpuRange]

@[simp] theorem gpuRange_call (a : PageAllocator) (k : AllocatorCall) : (a.call k).2.gpuRange = a.gpuRange := by
  cases k <;> simp [call, gpuRange]

/-- What `initialize` leaves and every call keeps, when the device range fits
in `uint64_t`: a nonzero page size, a non-null host pool below
`PTRDIFF_MAX`, one bit per slot, and counts that agree with the bitmaps. -/
structure Inv (a : PageAllocator) : Prop where
  pageSize_pos : 0 < a.config.pageSize
  cpuPool_ne_zero : a.cpuPool ≠ 0
  cpuPoolSize_lt : a.config.cpuPagePoolSize < 2 ^ 63
  gpuRange_le : gpuBase + a.config.gpuPagePoolSize ≤ 2 ^ 64
  cpu_length : a.cpu.bitmap.length = a.config.cpuPagePoolSize / a.config.pageSize
  gpu_length : a.gpu.bitmap.length = a.config.gpuPagePoolSize / a.config.pageSize
  cpu_counted : a.cpu.Counted
  gpu_counted : a.gpu.Counted

/-- `initialize` with a device range that fits in `uint64_t`: the invariant,
no slot occupied, and the pools the model names. -/
theorem init_inv {c : PageAllocator.Config} {p : Address} {a : PageAllocator} (h : init c p = some a)
    (hg : gpuBase + c.gpuPagePoolSize ≤ 2 ^ 64) :
    a.Inv ∧ a.occupied = (∅, ∅) ∧ a.cpuRange = ⟨p, c.pageSize, c.cpuPagePoolSize⟩ ∧
      a.gpuRange = ⟨gpuBase, c.pageSize, c.gpuPagePoolSize⟩ := by
  obtain ⟨h0, hp, hlt, rfl⟩ := init_eq_some h
  have hfresh : ∀ n, SlotPool.occupied ⟨List.replicate n false, 0⟩ = ∅ := fun n =>
    Finset.eq_empty_of_forall_not_mem fun i hi => by
      rw [SlotPool.mem_occupied, List.getElem?_replicate] at hi
      split at hi <;> simp at hi
  have hcounted : ∀ n < 2 ^ 64, SlotPool.Counted ⟨List.replicate n false, 0⟩ := fun n hn =>
    ⟨by simpa using hn, by rw [hfresh]; rfl⟩
  have hgpu := Nat.div_le_self c.gpuPagePoolSize c.pageSize
  have hcpu := Nat.div_le_self c.cpuPagePoolSize c.pageSize
  refine ⟨⟨h0, hp, hlt, hg, by simp, by simp, hcounted _ (by omega),
    hcounted _ (by unfold gpuBase at hg; omega)⟩, by simp [occupied, hfresh], rfl, rfl⟩

section Inv

variable {a : PageAllocator} (h : a.Inv)
include h

/-- Below the bound, the device address of a slot does not wrap. -/
theorem Inv.gpuSlot_eq {i : Nat} (hi : i < a.gpu.bitmap.length) : a.gpuSlot i = gpuBase + i * a.config.pageSize :=
  gpuSlot_eq_of_le h.pageSize_pos (h.gpu_length ▸ hi) h.gpuRange_le

/-- `deallocate_cpu_page(ptr)` releases the slot of a pointer of the host
pool and leaves the allocator for any other, `nullptr` included. -/
theorem Inv.deallocateCpuPage_eq (ptr : Nat) :
    a.deallocateCpuPage ptr =
      if a.cpuPool ≤ ptr ∧ ptr < a.cpuPool + a.config.cpuPagePoolSize then
        { a with cpu := a.cpu.release ((ptr - a.cpuPool) / a.config.pageSize) }
      else a := by
  have hsz : toPtrdiff a.config.cpuPagePoolSize = a.config.cpuPagePoolSize := if_pos h.cpuPoolSize_lt
  have hp := Nat.pos_of_ne_zero h.cpuPool_ne_zero
  unfold deallocateCpuPage
  by_cases h0 : ptr = 0
  · rw [if_pos h0, if_neg (by simp only [Address]; omega)]
  by_cases hr : ptr ≥ a.cpuPool ∧ ptr < a.cpuPool + a.config.cpuPagePoolSize
  · rw [if_neg h0, if_pos hr, hsz, if_neg (by omega), show ((ptr : Int) - a.cpuPool).toNat = ptr - a.cpuPool by omega]
  · rw [if_neg h0, if_neg hr, hsz, if_pos (by omega)]

/-- `deallocate_gpu_page(g)` releases the slot of an address of the device
range and leaves the allocator for any other: past the range, the slot index
is past the bitmap. -/
theorem Inv.deallocateGpuPage_eq (g : Nat) :
    a.deallocateGpuPage g =
      if gpuBase ≤ g ∧ g < gpuBase + a.config.gpuPagePoolSize then
        { a with gpu := a.gpu.release ((g - gpuBase) / a.config.pageSize) }
      else a := by
  unfold deallocateGpuPage
  by_cases hlo : g < gpuBase
  · rw [if_pos hlo, if_neg (by omega)]
  rw [if_neg hlo]
  split_ifs with hr
  · rfl
  · rw [SlotPool.release_of_length_le (by rw [h.gpu_length]; exact Nat.div_le_div_right (by omega))]

theorem Inv.allocateCpuPage :
    (a.allocateCpuPage.1, a.allocateCpuPage.2.occupied) = firstFitCall a.cpuRange a.gpuRange a.occupied .allocateCpuPage ∧
      a.allocateCpuPage.2.Inv := by
  cases ht : a.cpu.take with
  | none =>
    rw [allocateCpuPage_of_full ht]
    exact ⟨by simp only [firstFitCall, occupied, SlotRange.allocate_of_full (P := a.cpuRange) h.cpu_length ht], h⟩
  | some r =>
    obtain ⟨i, q⟩ := r
    rw [allocateCpuPage_of_take ht]
    exact ⟨by simp only [firstFitCall, occupied, SlotRange.allocate_of_take (P := a.cpuRange) h.cpu_length ht]; rfl,
      { h with cpu_length := (SlotPool.length_of_take ht).trans h.cpu_length, cpu_counted := h.cpu_counted.take ht }⟩

theorem Inv.allocateGpuPage :
    (a.allocateGpuPage.1, a.allocateGpuPage.2.occupied) = firstFitCall a.cpuRange a.gpuRange a.occupied .allocateGpuPage ∧
      a.allocateGpuPage.2.Inv := by
  cases ht : a.gpu.take with
  | none =>
    rw [allocateGpuPage_of_full ht]
    exact ⟨by simp only [firstFitCall, occupied, SlotRange.allocate_of_full (P := a.gpuRange) h.gpu_length ht], h⟩
  | some r =>
    obtain ⟨i, q⟩ := r
    rw [allocateGpuPage_of_take ht]
    exact ⟨by simp only [firstFitCall, occupied, SlotRange.allocate_of_take (P := a.gpuRange) h.gpu_length ht,
        h.gpuSlot_eq (SlotPool.take_lt_length ht)]; rfl,
      { h with gpu_length := (SlotPool.length_of_take ht).trans h.gpu_length, gpu_counted := h.gpu_counted.take ht }⟩

theorem Inv.deallocateCpuPage (ptr : Address) :
    ((0 : Nat), (a.deallocateCpuPage ptr).occupied) = firstFitCall a.cpuRange a.gpuRange a.occupied (.deallocateCpuPage ptr) ∧
      (a.deallocateCpuPage ptr).Inv := by
  rw [h.deallocateCpuPage_eq]
  simp only [firstFitCall, SlotRange.deallocate, cpuRange, occupied]
  split_ifs
  · exact ⟨by simp, { h with cpu_length := by simpa using h.cpu_length, cpu_counted := h.cpu_counted.release _ }⟩
  · exact ⟨rfl, h⟩

theorem Inv.deallocateGpuPage (g : Nat) :
    ((0 : Nat), (a.deallocateGpuPage g).occupied) = firstFitCall a.cpuRange a.gpuRange a.occupied (.deallocateGpuPage g) ∧
      (a.deallocateGpuPage g).Inv := by
  rw [h.deallocateGpuPage_eq]
  simp only [firstFitCall, SlotRange.deallocate, gpuRange, occupied]
  split_ifs
  · exact ⟨by simp, { h with gpu_length := by simpa using h.gpu_length, gpu_counted := h.gpu_counted.release _ }⟩
  · exact ⟨rfl, h⟩

/-- A call answers as the model and moves the occupied slots as the model
moves them, and keeps the invariant. -/
theorem Inv.call (k : AllocatorCall) :
    ((a.call k).1, (a.call k).2.occupied) = firstFitCall a.cpuRange a.gpuRange a.occupied k ∧ (a.call k).2.Inv := by
  cases k with
  | allocateCpuPage => exact h.allocateCpuPage
  | deallocateCpuPage ptr => exact h.deallocateCpuPage ptr
  | allocateGpuPage => exact h.allocateGpuPage
  | deallocateGpuPage g => exact h.deallocateGpuPage g

/-- So does a run. -/
theorem Inv.runCalls (ks : List AllocatorCall) :
    ((a.runCalls ks).1, (a.runCalls ks).2.occupied) = firstFitRun a.cpuRange a.gpuRange a.occupied ks ∧
      (a.runCalls ks).2.Inv := by
  induction ks generalizing a with
  | nil => exact ⟨rfl, h⟩
  | cons k ks ih =>
    obtain ⟨h1, h2⟩ := h.call k
    obtain ⟨ih1, ih2⟩ := ih h2
    rw [cpuRange_call, gpuRange_call] at ih1
    exact ⟨by simp only [runCalls, firstFitRun, ← h1, ← ih1], ih2⟩

end Inv

end PageAllocator

/-- From `initialize`, with the device range inside `uint64_t`, every
sequence of calls on the two pools answers as the first-fit model of the pools
at `p` and at `0x100000000`, from no slot occupied, and moves the occupied
slots as the model moves them; each count is then the number of occupied
slots, and the available pages are the total less that number, with no
wrap. -/
theorem allocator_refines_first_fit {c : PageAllocator.Config} {p : Address} {a : PageAllocator}
    (ha : PageAllocator.init c p = some a) (hg : gpuBase + c.gpuPagePoolSize ≤ 2 ^ 64) (ks : List AllocatorCall) :
    ((a.runCalls ks).1, (a.runCalls ks).2.occupied) =
        firstFitRun ⟨p, c.pageSize, c.cpuPagePoolSize⟩ ⟨gpuBase, c.pageSize, c.gpuPagePoolSize⟩ (∅, ∅) ks ∧
      (a.runCalls ks).2.cpu.allocated = (a.runCalls ks).2.cpu.occupied.card ∧
      (a.runCalls ks).2.gpu.allocated = (a.runCalls ks).2.gpu.occupied.card ∧
      (a.runCalls ks).2.getAvailableCpuPages + (a.runCalls ks).2.cpu.occupied.card =
        (a.runCalls ks).2.getTotalCpuPages ∧
      (a.runCalls ks).2.getAvailableGpuPages + (a.runCalls ks).2.gpu.occupied.card =
        (a.runCalls ks).2.getTotalGpuPages := by
  obtain ⟨hi, h0, hcpu, hgpu⟩ := PageAllocator.init_inv ha hg
  obtain ⟨h1, h2⟩ := hi.runCalls ks
  rw [← hcpu, ← hgpu, ← h0]
  exact ⟨h1, h2.cpu_counted.allocated_eq, h2.gpu_counted.allocated_eq, h2.cpu_counted.available_add,
    h2.gpu_counted.available_add⟩

/-- Two pages of 4 KiB in each pool: an allocation from each, the release of
the host page and a second host allocation answer as the model. -/
theorem first_fit_two_pools :
    ∃ a, PageAllocator.init ⟨4096, 8192, 8192⟩ 0x1000 = some a ∧
      (a.runCalls [.allocateCpuPage, .allocateGpuPage, .deallocateCpuPage 0x1000, .allocateCpuPage]).1 =
        (firstFitRun ⟨0x1000, 4096, 8192⟩ ⟨gpuBase, 4096, 8192⟩ (∅, ∅)
          [.allocateCpuPage, .allocateGpuPage, .deallocateCpuPage 0x1000, .allocateCpuPage]).1 :=
  let ⟨a, ha⟩ := Option.isSome_iff_exists.mp (rfl : (PageAllocator.init ⟨4096, 8192, 8192⟩ 0x1000).isSome = true)
  ⟨a, ha, congrArg Prod.fst (allocator_refines_first_fit ha (by decide)
    [.allocateCpuPage, .allocateGpuPage, .deallocateCpuPage 0x1000, .allocateCpuPage]).1⟩

/-! ## Past the bound -/

theorem firstFree_replicate_true_append (k : Nat) (l : List Bool) :
    firstFree (List.replicate k true ++ false :: l) = some k := by
  induction k with
  | zero => rfl
  | succ k ih => simp [List.replicate_succ, firstFree, ih]

/-- From a device pool of `n` free slots, `k ≤ n` allocations occupy the
first `k`. -/
theorem PageAllocator.allocateGpuPage_iterate {a : PageAllocator} {n : Nat}
    (ha : a.gpu.bitmap = List.replicate n false) :
    ∀ k ≤ n, ((fun b : PageAllocator => b.allocateGpuPage.2)^[k] a).config = a.config ∧
      ((fun b : PageAllocator => b.allocateGpuPage.2)^[k] a).gpu.bitmap =
        List.replicate k true ++ List.replicate (n - k) false
  | 0, _ => ⟨rfl, by simp [ha]⟩
  | k + 1, hk => by
    obtain ⟨hc, hb⟩ := allocateGpuPage_iterate ha k (by omega)
    rw [Function.iterate_succ_apply']
    generalize (fun b : PageAllocator => b.allocateGpuPage.2)^[k] a = b at hc hb
    rw [show n - k = n - (k + 1) + 1 by omega, List.replicate_succ] at hb
    have ht : b.gpu.take = some (k, ⟨List.replicate k true ++ true :: List.replicate (n - (k + 1)) false,
        u64 (b.gpu.allocated + 1)⟩) := by
      simp [SlotPool.take, hb, firstFree_replicate_true_append]
    rw [allocateGpuPage_of_take ht]
    exact ⟨hc, by simp [List.replicate_succ']⟩

/-- A device pool of `2^64 - 1` bytes in pages of `2^32 - 1` bytes has
`2^32 + 1` slots. After `2^32` allocations slot `2^32` is free, and the model
names it `0x100000000 + 2^32 · (2^32 - 1) = 2^64`; `allocate_gpu_page`
computes that address in `uint64_t`, answers `0`, and occupies the slot. -/
theorem gpu_page_address_wraps :
    ∃ a, PageAllocator.init ⟨2 ^ 32 - 1, 0, 2 ^ 64 - 1⟩ 1 = some a ∧
      ((fun b : PageAllocator => b.allocateGpuPage.2)^[2 ^ 32] a).gpu.bitmap[2 ^ 32]? = some false ∧
      (((fun b : PageAllocator => b.allocateGpuPage.2)^[2 ^ 32] a).gpuRange.allocate
        ((fun b : PageAllocator => b.allocateGpuPage.2)^[2 ^ 32] a).gpu.occupied).1 = 2 ^ 64 ∧
      ((fun b : PageAllocator => b.allocateGpuPage.2)^[2 ^ 32] a).allocateGpuPage.1 = 0 ∧
      ((fun b : PageAllocator => b.allocateGpuPage.2)^[2 ^ 32] a).allocateGpuPage.2.gpu.bitmap[2 ^ 32]? =
        some true := by
  obtain ⟨a, ha⟩ :=
    Option.isSome_iff_exists.mp (rfl : (PageAllocator.init ⟨2 ^ 32 - 1, 0, 2 ^ 64 - 1⟩ 1).isSome = true)
  refine ⟨a, ha, ?_⟩
  have ha' := (PageAllocator.init_eq_some ha).2.2.2
  have hbm : a.gpu.bitmap = List.replicate (2 ^ 32 + 1) false := by rw [ha']; rfl
  obtain ⟨hc, hb⟩ := PageAllocator.allocateGpuPage_iterate hbm (2 ^ 32) (by omega)
  generalize (fun b : PageAllocator => b.allocateGpuPage.2)^[2 ^ 32] a = b at hc hb ⊢
  replace hc : b.config = ⟨2 ^ 32 - 1, 0, 2 ^ 64 - 1⟩ := by rw [hc, ha']
  rw [show 2 ^ 32 + 1 - 2 ^ 32 = 1 by rfl, List.replicate_one] at hb
  have ht : b.gpu.take = some (2 ^ 32, ⟨(List.replicate (2 ^ 32) true ++ [false]).set (2 ^ 32) true,
      u64 (b.gpu.allocated + 1)⟩) := by
    simp only [SlotPool.take, hb, firstFree_replicate_true_append, Option.map_some']
  have hlen : b.gpu.bitmap.length = b.gpuRange.slots := by
    rw [hb, List.length_append, List.length_replicate, SlotRange.slots, PageAllocator.gpuRange, hc]; rfl
  refine ⟨?_, ?_, ?_, ?_⟩
  · rw [hb, List.getElem?_append_right (List.length_replicate _ _).le, List.length_replicate, Nat.sub_self]; rfl
  · rw [SlotRange.allocate_of_take hlen ht, PageAllocator.gpuRange, hc]; rfl
  · rw [PageAllocator.allocateGpuPage_of_take ht, PageAllocator.gpuSlot, hc]; rfl
  · rw [PageAllocator.allocateGpuPage_of_take ht, List.getElem?_set_self (by rw [List.length_append, List.length_replicate, List.length_singleton]; omega)]

end UvmSim
