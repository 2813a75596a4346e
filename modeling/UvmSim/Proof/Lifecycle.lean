import UvmSim.Proof.Frame

/-!
# What `initialize` sets up and the runs keep

`init_eq_some` says once what `initialize` can do; with `step_keeps` it
gives the invariants of the reachable states that only the lifecycle
touches.

* `Reachable.numPages`: while the manager is initialized, the page table's
  page count is the one `initialize` computed from the configuration,
  `virtual_address_space / page_size`; no operation updates it.
* `step_of_not_initialized`: before `initialize` and after `shutdown`, an
  operation other than those two changes nothing but, for
  `reset_counters`, the counters.
* `cpu_pages_used_after_init`: so `get_cpu_pages_used` reads that constant,
  whatever was allocated or freed.
-/

namespace UvmSim

namespace VirtualMemoryManager

@[simp] theorem fresh_initialized (m : Address → UInt8) : (fresh m).initialized = false := rfl

@[simp] theorem shutdown_initialized (s : VirtualMemoryManager) : s.shutdown.initialized = false := by
  unfold shutdown; split_ifs with h
  · rfl
  · simpa using h

/-- What `initialize` can do: nothing to an initialized manager; otherwise it
sets up the table, the allocator and the TLB from `c`, keeping the counters,
the map, the ledger and the memory. -/
theorem init_eq_some {s t : VirtualMemoryManager} {c : VMConfig} {p : Address}
    (h : s.init c p = some t) :
    (s.initialized = true ∧ t = s) ∨
    (s.initialized = false ∧ t.initialized = true ∧ t.config = c ∧
      t.perfCounters = s.perfCounters ∧
      t.pageTable = ⟨c.pageSize, c.virtualAddressSpace / c.pageSize, ∅⟩ ∧
      PageAllocator.init ⟨c.pageSize, c.gpuMemory, c.gpuMemory⟩ p = some t.allocator ∧
      TLB.init ⟨c.tlbSize, c.tlbAssociativity⟩ = some t.tlb ∧ t.nextVpn = 0 ∧
      t.vaddrToVpnMap = s.vaddrToVpnMap ∧ t.gpuResidentPages = s.gpuResidentPages ∧
      t.memory = s.memory) := by
  unfold init at h
  split_ifs at h with hi
  · exact .inl ⟨hi, (Option.some.inj h).symm⟩
  simp only [Option.bind_eq_bind, Option.bind_eq_some] at h
  obtain ⟨pt, hpt, a, ha, tlb, htlb, h⟩ := h
  cases h
  unfold PageTable.init at hpt
  split_ifs at hpt
  cases hpt
  exact .inr ⟨by simpa using hi, rfl, rfl, rfl, rfl, ha, htlb, rfl, rfl, rfl, rfl⟩

/-- Before `initialize` and after `shutdown`, the operations but the
lifecycle leave the manager as it is, but `reset_counters`. -/
theorem step_of_not_initialized {s t : VirtualMemoryManager} {op : Op}
    (hop : op.keepsLifecycle) (hi : s.initialized = false) (h : s.step op = some t) :
    t = s ∨ t = s.resetCounters := by
  cases op with
  | init | shutdown => cases hop
  | readFromVaddr v b n =>
    cases b <;> simp [step, readFromVaddr, hi] at h <;> simp [← h]
  | writeToVaddr v b n =>
    cases b <;> simp [step, writeToVaddr, hi] at h <;> simp [← h]
  | resetCounters => cases h; exact .inr rfl
  | _ =>
    simp [step, allocate, free, mapToCpu, mapToGpu, prefetchToGpu, touchPage, hi] at h
    simp [← h]

/-- While the manager is initialized, its page table counts the pages the
configuration's address space holds. -/
theorem Reachable.numPages {s : VirtualMemoryManager} (h : Reachable s) (hi : s.initialized = true) :
    s.pageTable.numPages = s.config.virtualAddressSpace / s.config.pageSize := by
  induction h with
  | fresh m => simp at hi
  | @step s t op _ hstep ih =>
    cases hop : op.keepsLifecycle
    · cases op with
      | init c p =>
        rcases init_eq_some hstep with ⟨-, rfl⟩ | ⟨-, -, hc, -, hpt, -⟩
        · exact ih hi
        · rw [hpt, hc]
      | shutdown =>
        cases hstep
        simp at hi
      | _ => cases hop
    · have hk := step_keeps hop hstep
      rw [hk.numPages, hk.config]
      exact ih (hk.initialized ▸ hi)

end VirtualMemoryManager

open VirtualMemoryManager in
/-- Right after `initialize` with the default configuration, before any
allocation, `get_cpu_pages_used` is 256 GiB / 64 KiB. -/
theorem cpu_pages_used_after_init :
    ((fresh fun _ => 0).init {} 0x10000).map getCpuPagesUsed = some 4194304 := by
  decide

end UvmSim
