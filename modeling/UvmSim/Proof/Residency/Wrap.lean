import UvmSim.Impl.Access

/-!
# The VPN counter wraps

`next_vpn_` grows by each allocation's page count in a `uint64_t`. After
`2 ^ 64` pages it wraps, and `allocate_vpn_range` then meets VPNs that are
still allocated: it fails, but keeps the entries it inserted before the
collision. Such an entry has no host slot: a host fault on it when the host
pool is full marks it host-resident at `nullptr`, and it can take a device
slot that no host slot backs, so the
device pool fills while a page with a host slot still needs a device slot:
`map_to_gpu` then calls `evict_page_from_gpu`, whose victim comes from a
policy that holds host-only pages.

* `vpn_wrap_breaks_residency`: one-byte pages and three slots in each pool,
  VPN 0 kept, `2 ^ 64 - 4` rounds of allocating and freeing one page
  (`run_wrapCycles`), then the last steps (`wrap_final`).
* `wrapped_map_to_gpu_evicts_host_only_page`: the same with VPN 1 kept
  (VPN 0 allocated and freed first), so that CLOCK's first candidate is
  VPN 1. The kept entries of VPNs `2 ^ 64 - 1` and 0 and a page with a host
  slot fill the device pool; `map_to_gpu` of another page evicts VPN 1,
  which is host-only, and the retried `allocate_gpu_page` returns 0
  (`evict_final`).
-/

namespace UvmSim

namespace VirtualMemoryManager

/-- One-byte pages, so that a VPN is its address, and three slots in each
pool; CLOCK, whose candidates `on_page_freed` erases. -/
def wrapConfig : VMConfig :=
  { pageSize := 1, virtualAddressSpace := 2 ^ 64 - 1, gpuMemory := 3, tlbSize := 4, tlbAssociativity := 2,
    replacementPolicy := .CLOCK }

/-- A page allocated by `allocate` at the host slot `addr`. -/
def wrapEntry (addr : Address) : PageTableEntry :=
  { isValid := true, residentOnCpu := true, cpuAddress := addr, accessCount := 1 }

/-- The manager after `initialize(wrapConfig)` with one page allocated, VPN
`k` in host slot 0, and `next_vpn_ = n`. -/
def wrapState (k n : Nat) : VirtualMemoryManager where
  initialized := true
  config := wrapConfig
  perfCounters := {}
  pageTable := ⟨1, 2 ^ 64 - 1, Finmap.singleton k (wrapEntry 0x10000)⟩
  allocator := ⟨⟨1, 3, 3⟩, 0x10000, ⟨[true, false, false], 1⟩, ⟨[false, false, false], 0⟩⟩
  tlb := ⟨⟨4, 2⟩, [[], []], 0, 0⟩
  replacementPolicy := .clock ⟨[⟨k, true⟩], 0, 65536⟩
  nextVpn := n
  vaddrToVpnMap := Finmap.singleton k k
  gpuResidentPages := ∅
  memory := fun _ => 0

theorem run_wrapState_one :
    (fresh fun _ => 0).run [.init wrapConfig 0x10000, .allocate 1 false] = some (wrapState 0 1) := rfl

theorem run_wrapState_two :
    (fresh fun _ => 0).run [.init wrapConfig 0x10000, .allocate 1 false, .free 0, .allocate 1 false] =
      some (wrapState 1 2) := rfl

theorem modifyEntry_mk_insert (p k v : Nat) (m : EntryMap) (e : PageTableEntry) (f : PageTableEntry → PageTableEntry) :
    (PageTable.mk p k (m.insert v e)).modifyEntry v f = PageTable.mk p k (m.insert v (f e)) := by
  simp [PageTable.modifyEntry, PageTable.lookupEntry, Finmap.insert_insert]

/-- `wrapState k n` after `allocate(1)`: VPN `n` in host slot 1. -/
def wrapAllocated (k n : Nat) : VirtualMemoryManager where
  initialized := true
  config := wrapConfig
  perfCounters := {}
  pageTable := ⟨1, 2 ^ 64 - 1, (Finmap.singleton k (wrapEntry 0x10000)).insert n (wrapEntry 0x10001)⟩
  allocator := ⟨⟨1, 3, 3⟩, 0x10000, ⟨[true, true, false], 2⟩, ⟨[false, false, false], 0⟩⟩
  tlb := ⟨⟨4, 2⟩, [[], []], 0, 0⟩
  replacementPolicy := .clock ⟨[⟨k, true⟩, ⟨n, true⟩], 0, 65536⟩
  nextVpn := n + 1
  vaddrToVpnMap := (Finmap.singleton k k).insert n n
  gpuResidentPages := ∅
  memory := fun _ => 0

theorem erase_insert_singleton {β : Type} {n k : Nat} (h : n ≠ k) (a b : β) :
    ((Finmap.singleton k a : Finmap fun _ : Nat => β).insert n b).erase n = Finmap.singleton k a := by
  refine Finmap.ext_lookup fun v => ?_
  by_cases hv : v = n
  · subst hv
    rw [Finmap.lookup_erase, (Finmap.lookup_eq_none.mpr (show v ∉ (Finmap.singleton k a : Finmap fun _ : Nat => β) by simpa using h))]
  · simp [Finmap.lookup_erase_ne hv, Finmap.lookup_insert_of_ne _ hv]

theorem allocate_wrapState (k n : Nat) (hk : k < n) (h2 : n + 1 < 2 ^ 64) :
    (wrapState k n).allocate 1 false = (n, wrapAllocated k n) := by
  have hn : u64 n = n := u64_of_lt (by omega)
  have hnk : n ≠ k := by omega
  simp (disch := omega) [allocate, wrapState, wrapAllocated, wrapConfig, alignToPage, u32, u64_of_lt,
    PageTable.allocateVpnRange, PageTable.allocateVpnRangeFrom, allocateCpuPages, hnk,
    PageAllocator.allocateCpuPage, SlotPool.take, firstFree, vpnToVaddr, PageTable.setCpuResident,
    PageTable.updateAccessTime, ReplacementPolicy.onPageAllocated, CLOCKPolicy.onPageAllocated,
    CLOCKPolicy.evictOverflow, modifyEntry_mk_insert, wrapEntry, hn]

theorem free_wrapAllocated (k n : Nat) (hk : k < n) (h2 : n + 1 < 2 ^ 64) :
    (wrapAllocated k n).free n = some (wrapState k (n + 1)) := by
  have hn : u64 n = n := u64_of_lt (by omega)
  have hnk : n ≠ k := by omega
  have hsets : ∀ i : Nat, ([[], []] : List (List TLBEntry))[i]?.getD [] = [] := by
    intro i; rcases i with _ | _ | i <;> simp
  have hc : (wrapAllocated k n).freeCount n = 1 := by
    have hall : (wrapAllocated k n).pageTable.getAllEntries.filter (n ≤ ·) = {n} := by
      ext v
      by_cases hv : v = n
      · subst hv; simp [wrapAllocated, PageTable.getAllEntries, PageTable.lookupEntry, wrapEntry, Finmap.mem_keys]
      · simp [wrapAllocated, PageTable.getAllEntries, PageTable.lookupEntry, wrapEntry, Finmap.mem_keys, hv,
          Finmap.lookup_insert_of_ne _ hv]
        intro h; omega
    simp [freeCount, hall, u32]
  have hr : List.range 1 = [0] := rfl
  have hm : (wrapAllocated k n).vaddrToVpnMap.lookup n = some n := by simp [wrapAllocated]
  have hl : (wrapAllocated k n).pageTable.lookupEntry n = some (wrapEntry 0x10001) := by
    simp [wrapAllocated, PageTable.lookupEntry]
  have ha : (wrapAllocated k n).allocator.deallocateCpuPage 0x10001 =
      ⟨⟨1, 3, 3⟩, 0x10000, ⟨[true, false, false], 1⟩, ⟨[false, false, false], 0⟩⟩ := by
    simp only [wrapAllocated]; decide
  have ht : (wrapAllocated k n).tlb.invalidate n = some (wrapAllocated k n).tlb := by
    simp [wrapAllocated, TLB.invalidate, TLB.getSetIndex, hsets]
  have hp : (wrapAllocated k n).replacementPolicy.onPageFreed n = .clock ⟨[⟨k, true⟩], 0, 65536⟩ := by
    simp [wrapAllocated, ReplacementPolicy.onPageFreed, CLOCKPolicy.onPageFreed, Ne.symm hnk, CLOCKPolicy.wrapHand]
  have hpt : ((wrapAllocated k n).pageTable.deallocateVpnRange n 1) = (wrapState k (n + 1)).pageTable := by
    simp only [PageTable.deallocateVpnRange, hr, List.foldl_cons, List.foldl_nil, Nat.add_zero, hn, wrapAllocated,
      wrapState, erase_insert_singleton hnk]
  have hmap : (wrapAllocated k n).vaddrToVpnMap.erase n = (wrapState k (n + 1)).vaddrToVpnMap :=
    erase_insert_singleton hnk _ _
  simp only [free, hm, hc, hr, List.foldlM_cons, List.foldlM_nil, Nat.add_zero, hn, freePage, hl, ht, hp]
  simp [wrapEntry, ha, hpt, hmap]
  simp [wrapAllocated, wrapState]

theorem run_append (s : VirtualMemoryManager) (l₁ l₂ : List Op) :
    s.run (l₁ ++ l₂) = (s.run l₁).bind (·.run l₂) := by
  induction l₁ generalizing s with
  | nil => rfl
  | cons op l ih => simp only [List.cons_append, run, List.append_eq, ih, Option.bind_assoc]

/-- `c` rounds of `allocate(1)` and the `free` of what it returned, from VPN `n` on. -/
def wrapCycles (n : Nat) : Nat → List Op
  | 0 => []
  | c + 1 => .allocate 1 false :: .free n :: wrapCycles (n + 1) c

theorem run_wrapCycles (k c : Nat) : ∀ n, k < n → n + c < 2 ^ 64 →
    (wrapState k n).run (wrapCycles n c) = some (wrapState k (n + c)) := by
  induction c with
  | zero => intro n _ _; rfl
  | succ c ih =>
    intro n h1 h2
    have hs : (wrapState k n).step (.allocate 1 false) = some (wrapAllocated k n) := by
      simp [step, allocate_wrapState k n h1 (by omega)]
    have hf : (wrapAllocated k n).step (.free n) = some (wrapState k (n + 1)) :=
      free_wrapAllocated k n h1 (by omega)
    simp only [wrapCycles, run, hs, Option.some_bind, hf]
    rw [ih (n + 1) (by omega) (by omega), Nat.add_right_comm, Nat.add_assoc]

/-- From `next_vpn_ = 2 ^ 64 - 3`: `allocate(2)` fills the host pool, the
next `allocate(2)` reserves VPN `2 ^ 64 - 1`, wraps to VPN 0 and fails,
leaving the entry of `2 ^ 64 - 1`, and `map_to_cpu` faults that page in with
no host slot left. -/
theorem wrap_final : ((wrapState 0 (2 ^ 64 - 3)).run
    [.allocate 2 false, .allocate 2 false, .mapToCpu (2 ^ 64 - 1) false]).map
      (fun s => (s.initialized, (s.pageTable.lookupEntry (2 ^ 64 - 1)).map fun e => (e.residentOnCpu, e.cpuAddress))) =
      some (true, some (true, 0)) := by
  decide

/-- From `next_vpn_ = 2 ^ 64 - 3` with VPN 1 kept: `allocate(2)` fills the
host pool with VPNs `2 ^ 64 - 3` and `2 ^ 64 - 2`; `allocate(3)` reserves
VPNs `2 ^ 64 - 1` and 0, meets VPN 1 and fails, keeping both entries; these
two and VPN `2 ^ 64 - 3` fill the device pool. The eviction then picks VPN 1,
which no device slot backs: it is counted, and the ledger and the device pool
stay as they were, so `map_to_gpu(2 ^ 64 - 2)` marks its page device-resident
at device address 0. -/
theorem evict_final : ((wrapState 1 (2 ^ 64 - 3)).run
    [.allocate 2 false, .allocate 3 false, .mapToGpu (2 ^ 64 - 1), .mapToGpu 0, .mapToGpu (2 ^ 64 - 3)]).map
      (fun s => (decide (s.initialized = true ∧ s.gpuResidentPages = {2 ^ 64 - 3, 0, 2 ^ 64 - 1} ∧
          s.allocator.getAvailableGpuPages = 0 ∧ s.perfCounters.evictions = 0),
        s.evictPageFromGpu.map (fun u => decide (u.gpuResidentPages = s.gpuResidentPages ∧
          u.allocator.getAvailableGpuPages = 0 ∧ u.perfCounters.evictions = 1)),
        (s.mapToGpu (2 ^ 64 - 2)).bind fun t => (t.pageTable.lookupEntry (2 ^ 64 - 2)).map fun e =>
          decide (e.residentOnGpu = true ∧ e.gpuAddress = 0))) =
      some (true, some true, some true) := by
  decide

end VirtualMemoryManager

/-- The run of `vpn_wrap_breaks_residency`. -/
def wrapRun : List VirtualMemoryManager.Op :=
  [.init VirtualMemoryManager.wrapConfig 0x10000, .allocate 1 false] ++
    VirtualMemoryManager.wrapCycles 1 (2 ^ 64 - 4) ++
    [.allocate 2 false, .allocate 2 false, .mapToCpu (2 ^ 64 - 1) false]

open VirtualMemoryManager in
/-- A reachable state with an entry that is host-resident at `nullptr`. -/
theorem vpn_wrap_breaks_residency :
    ∃ s, (fresh fun _ => 0).run wrapRun = some s ∧ s.initialized = true ∧
      ∃ e, s.pageTable.lookupEntry (2 ^ 64 - 1) = some e ∧ e.residentOnCpu = true ∧ e.cpuAddress = 0 := by
  obtain ⟨s, hs, h⟩ := Option.map_eq_some'.mp wrap_final
  simp only [Prod.mk.injEq, Option.map_eq_some'] at h
  obtain ⟨hi, e, he, h⟩ := h
  refine ⟨s, ?_, hi, e, he, h⟩
  rw [wrapRun, run_append, run_append, run_wrapState_one, Option.some_bind,
    run_wrapCycles _ _ 1 (by decide) (by decide), Option.some_bind]
  exact hs

/-- The run of `wrapped_map_to_gpu_evicts_host_only_page`. -/
def evictRun : List VirtualMemoryManager.Op :=
  [.init VirtualMemoryManager.wrapConfig 0x10000, .allocate 1 false, .free 0, .allocate 1 false] ++
    VirtualMemoryManager.wrapCycles 2 (2 ^ 64 - 5) ++
    [.allocate 2 false, .allocate 3 false, .mapToGpu (2 ^ 64 - 1), .mapToGpu 0, .mapToGpu (2 ^ 64 - 3)]

open VirtualMemoryManager in
/-- A reachable state, after a wrap of `next_vpn_`, whose device pool is
full, with three VPNs in the ledger. The eviction that `map_to_gpu` makes
there removes no VPN from the ledger and frees no device slot, yet counts
one; and `map_to_gpu(2 ^ 64 - 2)`, whose `allocate_gpu_page` retried after it
returns 0, marks the page device-resident at device address 0. -/
theorem wrapped_map_to_gpu_evicts_host_only_page :
    ∃ s, (fresh fun _ => 0).run evictRun = some s ∧ s.initialized = true ∧
      s.gpuResidentPages = {2 ^ 64 - 3, 0, 2 ^ 64 - 1} ∧ s.allocator.getAvailableGpuPages = 0 ∧
      (∃ u, s.evictPageFromGpu = some u ∧ u.gpuResidentPages = s.gpuResidentPages ∧
        u.allocator.getAvailableGpuPages = 0 ∧ u.perfCounters.evictions = s.perfCounters.evictions + 1) ∧
      ∃ t e, s.mapToGpu (2 ^ 64 - 2) = some t ∧ t.pageTable.lookupEntry (2 ^ 64 - 2) = some e ∧
        e.residentOnGpu = true ∧ e.gpuAddress = 0 := by
  obtain ⟨s, hs, h⟩ := Option.map_eq_some'.mp evict_final
  simp only [Prod.mk.injEq, Option.map_eq_some', Option.bind_eq_some, decide_eq_true_eq] at h
  obtain ⟨⟨hi, hl, ha, he⟩, ⟨u, hu, hul, hua, hue⟩, t, ht, e, hte, hr, hg⟩ := h
  refine ⟨s, ?_, hi, hl, ha, ⟨u, hu, hul, hua, by rw [hue, he]⟩, t, e, ht, hte, hr, hg⟩
  rw [evictRun, run_append, run_append, run_wrapState_two, Option.some_bind,
    run_wrapCycles _ _ 2 (by decide) (by decide), Option.some_bind]
  exact hs

end UvmSim
