import UvmSim.Proof.Residency.Persistence

/-!
# A failed `allocate` rolls back all but the policy

When the host pool runs out in the middle of `allocate`, the code gives back
the host slots it took (`deallocate_cpu_page`), erases the VPN range it
reserved (`deallocate_vpn_range`) and returns `nullptr`. It does not undo the
`on_page_allocated` calls it made for the pages it placed before the pool ran
out, so the replacement policy keeps their VPNs.

* `allocateCpuPages_runs_out`: with `a` free host slots and more pages to
  place, the host loop places `a` pages, tells the policy of each, and fails;
* `failed_allocation_rolls_back`: in every state reached without a VPN wrap,
  an `allocate` with too few free host slots returns `nullptr` and leaves the
  page table, the allocator, the ledger, the address map and `next_vpn_` as
  they were, while the policy has been told of the first `a` VPNs.
-/

namespace UvmSim

theorem SlotPool.take_eq_none_of_available {p : SlotPool} (h : p.Counted) (hp : p.available = 0) : p.take = none := by
  cases ht : p.take with
  | none => rfl
  | some r =>
    have := available_take h ht
    omega

namespace VirtualMemoryManager

variable {s : VirtualMemoryManager}

/-- With `a` free host slots and more than `a` pages left, the host loop
places `a` pages, telling the policy of each, and then fails. -/
theorem allocateCpuPages_runs_out (vs : VirtualPageNumber) :
    ∀ (a i k : Nat) (pages : List Address) (u : VirtualMemoryManager), u.allocator.cpuPool ≠ 0 →
      u.allocator.cpu.Counted → u.allocator.cpu.available = a → a < k →
        ∃ r, allocateCpuPages vs i k pages u = .error r ∧
          r.2.replacementPolicy =
            (List.range a).foldl (fun p j => p.onPageAllocated (u64 (vs + (i + j)))) u.replacementPolicy
  | _, _, 0, _, _, _, _, _, hk => absurd hk (Nat.not_lt_zero _)
  | 0, i, k + 1, pages, u, _, hc, ha, _ => by
    have ht := SlotPool.take_eq_none_of_available hc ha
    exact ⟨(pages, u), by simp [allocateCpuPages, PageAllocator.allocateCpuPage_of_full ht], rfl⟩
  | a + 1, i, k + 1, pages, u, h0, hc, ha, hk => by
    obtain ⟨j, q, ht⟩ := SlotPool.take_of_available hc (by omega)
    have hq := SlotPool.available_take hc ht
    have hrest : ∀ {pages' : List Address} {u' : VirtualMemoryManager}, u'.allocator.cpuPool = u.allocator.cpuPool →
        u'.allocator.cpu = q → u'.replacementPolicy = u.replacementPolicy.onPageAllocated (u64 (vs + i)) →
          ∃ r, allocateCpuPages vs (i + 1) k pages' u' = .error r ∧ r.2.replacementPolicy =
            (List.range (a + 1)).foldl (fun p j => p.onPageAllocated (u64 (vs + (i + j)))) u.replacementPolicy := by
      intro pages' u' hp0 hq' hp'
      obtain ⟨r, hr, hp⟩ := allocateCpuPages_runs_out vs a (i + 1) k pages' u' (hp0 ▸ h0) (hq' ▸ hc.take ht)
        (by rw [hq']; omega) (by omega)
      refine ⟨r, hr, hp.trans ?_⟩
      rw [hp', List.range_succ_eq_map, List.foldl_cons, List.foldl_map]
      congr 1
      funext p j
      rw [Nat.add_right_comm i 1 j]
      rfl
    simp only [allocateCpuPages, PageAllocator.allocateCpuPage_of_take ht, PageAllocator.cpuSlot]
    rw [if_neg (Nat.add_pos_left (Nat.pos_of_ne_zero h0) _).ne']
    refine hrest ?_ ?_ ?_ <;> rfl

/-- An initialized `allocate` of `n` pages, with fewer free host slots than
pages and its VPNs below `2 ^ 64`, takes its failure path: the host loop
places as many pages as there are free slots, and the rollback gives the
slots back and erases the range. -/
theorem allocate_eq_of_full (hw : s.Wf) (ha : s.allocator.Inv) (hi : s.initialized = true) {bytes n : Nat}
    (pf : Bool) (hnum : u32 (alignToPage bytes s.config.pageSize / s.config.pageSize) = n)
    (hfull : s.allocator.getAvailableCpuPages < n) (hn : s.nextVpn + n < 2 ^ 64) :
    ∃ pages u, allocateCpuPages s.nextVpn 0 n [] { s with pageTable := (s.pageTable.allocateVpnRange s.nextVpn n).2 } =
        .error (pages, u) ∧
      u.replacementPolicy = (List.range s.allocator.getAvailableCpuPages).foldl
        (fun p j => p.onPageAllocated (u64 (s.nextVpn + j))) s.replacementPolicy ∧
      s.allocate bytes pf = (0, { u with
        allocator := pages.foldl PageAllocator.deallocateCpuPage u.allocator
        pageTable := u.pageTable.deallocateVpnRange s.nextVpn n }) := by
  obtain ⟨hr, -⟩ := allocateVpnRange_of_below hw.below hn.le
  obtain ⟨⟨pages, u⟩, hok, hpol⟩ := allocateCpuPages_runs_out s.nextVpn _ 0 n []
    { s with pageTable := (s.pageTable.allocateVpnRange s.nextVpn n).2 } ha.cpuPool_ne_zero ha.cpu_counted rfl hfull
  refine ⟨pages, u, hok, by simpa only [Nat.zero_add] using hpol, ?_⟩
  subst hnum
  unfold allocate
  rw [if_neg (by simp [hi])]
  dsimp only
  rw [if_neg (by simp [hr]), hok]

end VirtualMemoryManager

open VirtualMemoryManager in
/-- In every state reached without a VPN wrap, while the manager is
initialized: an `allocate` with fewer free host slots than pages, whose VPNs
stay below `2 ^ 64`, returns `nullptr` and leaves the page table, the
allocator, the ledger, the address map and `next_vpn_` as they were; but the
replacement policy has been told of the VPNs of the pages placed before the
pool ran out, one per free slot. -/
theorem failed_allocation_rolls_back {s : VirtualMemoryManager} (h : ReachableNoWrap s) (hi : s.initialized = true)
    (bytes : Nat) (pf : Bool)
    (hfull : s.allocator.getAvailableCpuPages < u32 (alignToPage bytes s.config.pageSize / s.config.pageSize))
    (hn : s.nextVpn + u32 (alignToPage bytes s.config.pageSize / s.config.pageSize) < 2 ^ 64) :
    (s.allocate bytes pf).1 = 0 ∧ (s.allocate bytes pf).2.pageTable = s.pageTable ∧
      (s.allocate bytes pf).2.allocator = s.allocator ∧
      (s.allocate bytes pf).2.gpuResidentPages = s.gpuResidentPages ∧
      (s.allocate bytes pf).2.vaddrToVpnMap = s.vaddrToVpnMap ∧ (s.allocate bytes pf).2.nextVpn = s.nextVpn ∧
      (s.allocate bytes pf).2.replacementPolicy = (List.range s.allocator.getAvailableCpuPages).foldl
        (fun p j => p.onPageAllocated (u64 (s.nextVpn + j))) s.replacementPolicy := by
  obtain ⟨hc, hw⟩ := h.runInv.1 hi
  have ha := (h.reachable.allocator_of_initialized hi).1
  have hk := allocate_keeps s bytes pf
  have hstep : s.step (.allocate bytes pf) = some (s.allocate bytes pf).2 := rfl
  have hr : ReachableNoWrap (s.allocate bytes pf).2 := h.step (by simpa [noWrap, hi] using hn) hstep
  have ha' := (hr.reachable.allocator_of_initialized (hk.initialized.trans hi)).1
  have hcu := (allocate_consistent hc hw bytes pf hn).1
  generalize hnum : u32 (alignToPage bytes s.config.pageSize / s.config.pageSize) = n at hfull hn
  obtain ⟨pages, u, hok, hpol, heq⟩ := allocate_eq_of_full hw ha hi pf hnum hfull hn
  obtain ⟨i, hl⟩ : ∃ i, HostLoop s n i pages u := by
    simpa only [hok] using allocateCpuPages_spec hn n 0 [] _ (Nat.zero_add n) (HostLoop.start hc hw hn)
  have hf := allocateCpuPages_frame s.nextVpn 0 n [] { s with pageTable := (s.pageTable.allocateVpnRange s.nextVpn n).2 }
  rw [hok] at hf
  have hpt : (s.allocate bytes pf).2.pageTable = s.pageTable := by
    refine PageTable.ext_lookupEntry hk.pageSize hk.numPages fun (w : Nat) => ?_
    rw [heq]
    dsimp only
    rw [PageTable.lookupEntry_deallocateVpnRange]
    split_ifs with hin
    · obtain ⟨j, hj, rfl⟩ := hin
      rw [u64_add_of_lt hn hj.le, hw.lookupEntry_eq_none (Nat.le_add_right _ _)]
    · refine hl.outside w ?_
      by_contra hw'
      exact hin ⟨w - s.nextVpn, by omega, by rw [u64_add_of_lt hn (by omega)]; omega⟩
  obtain ⟨hal, hled⟩ := hc.determined hcu ha ha' hpt hk.allocatorConfig hk.cpuPool
  rw [heq] at hpt hal hled ⊢
  exact ⟨rfl, hpt, hal, hled, hf.2.2, hf.2.1, hpol⟩

open VirtualMemoryManager in
/-- A host pool of three pages, two of them taken by an allocation at VPNs 0
and 1: an allocation of two more pages fails, but leaves VPN 2 with the
policy. -/
theorem two_page_allocation_fails_on_full_pool :
    ∃ s, (fresh fun _ => 0).run [.init smallConfig 0x10000, .allocate 8192 false] = some s ∧
      (s.allocate 8192 false).1 = 0 ∧ (s.allocate 8192 false).2.pageTable = s.pageTable ∧
      (s.allocate 8192 false).2.allocator = s.allocator ∧
      (s.allocate 8192 false).2.gpuResidentPages = s.gpuResidentPages ∧
      (s.allocate 8192 false).2.vaddrToVpnMap = s.vaddrToVpnMap ∧ (s.allocate 8192 false).2.nextVpn = s.nextVpn ∧
      (s.allocate 8192 false).2.replacementPolicy = s.replacementPolicy.onPageAllocated 2 := by
  have h : ((fresh fun _ => 0).step (.init smallConfig 0x10000)).map (fun s =>
      (s.noWrap (.allocate 8192 false), (s.step (.allocate 8192 false)).map fun t =>
        decide (t.initialized = true ∧ t.allocator.getAvailableCpuPages = 1 ∧
          u32 (alignToPage 8192 t.config.pageSize / t.config.pageSize) = 2 ∧ t.nextVpn = 2))) =
      some (true, some true) := by
    decide
  obtain ⟨s₁, hs₁, h⟩ := Option.map_eq_some'.mp h
  simp only [Prod.mk.injEq, Option.map_eq_some', decide_eq_true_eq] at h
  obtain ⟨hn, s₂, hs₂, hi, ha, hp, hv⟩ := h
  obtain ⟨h₁, h₂, h₃, h₄, h₅, h₆, h₇⟩ := failed_allocation_rolls_back (.step (.step (.fresh _) (by rfl) hs₁) hn hs₂)
    hi 8192 false (by rw [ha, hp]; decide) (by rw [hp, hv]; decide)
  refine ⟨s₂, by simp [run, hs₁, hs₂], h₁, h₂, h₃, h₄, h₅, h₆, h₇.trans ?_⟩
  rw [ha, hv]
  rfl

end UvmSim
