import UvmSim.Proof.Lifecycle
import UvmSim.Proof.FirstFit
import UvmSim.Proof.TLB
import UvmSim.Proof.PolicyCapacity
import UvmSim.Proof.Free

/-!
# How the manager reaches its subsystems

`Uses s t`: from `s` to `t` the manager changed its allocator only by calls
of the allocator's interface (`AllocatorCall`), its replacement policy only
by the policy's four calls (`PolicyCall`), its TLB only by `invalidate`, and
raised none of the counters `tlb_hits`, `tlb_misses` and `kernel_launches`.
Every operation but `initialize` does so (`step_uses`), so each subsystem's
own invariant holds of every reachable state:

* `Reachable.allocator_inv`: while the manager is initialized, its
  allocator keeps the invariant under which it refines the first-fit model
  of the two pools (`PageAllocator.Inv`);
* `policy_within_capacity`: the replacement policy never holds more than
  65536 VPNs;
* `tlb_never_caches_translation`: the TLB never holds an entry and never
  counts a lookup, and the manager's counters of TLB hits, TLB misses and
  kernel launches stay zero.
-/

namespace UvmSim

theorem PageAllocator.runCalls_append (a : PageAllocator) (ks ks' : List AllocatorCall) :
    (a.runCalls (ks ++ ks')).2 = ((a.runCalls ks).2.runCalls ks').2 := by
  induction ks generalizing a with
  | nil => rfl
  | cons k ks ih => exact ih _

/-- `deallocate_cpu_page` on each page of a list, as calls. -/
theorem PageAllocator.runCalls_deallocateCpuPage (a : PageAllocator) (l : List Address) :
    (a.runCalls (l.map .deallocateCpuPage)).2 = l.foldl PageAllocator.deallocateCpuPage a := by
  induction l generalizing a with
  | nil => rfl
  | cons p l ih => exact ih _

@[simp] theorem ReplacementPolicy.run_singleton (p : ReplacementPolicy) (c : PolicyCall) :
    p.run [c] = p.perform c := by
  simp [ReplacementPolicy.run]

/-- An `invalidate` on a TLB that holds no entry leaves it as it is. -/
theorem TLB.invalidate_of_empty {t t' : TLB} {v : VirtualPageNumber} (h : ∀ set ∈ t.sets, set = [])
    (ht : t.invalidate v = some t') : t' = t := by
  obtain ⟨idx, -, rfl⟩ := Option.map_eq_some'.mp ht
  have hset : t.sets.getD idx [] = [] := by
    rw [List.getD_eq_getElem?_getD]
    cases hs : t.sets[idx]? with
    | none => rfl
    | some set => exact h set (List.mem_iff_getElem?.mpr ⟨idx, hs⟩)
  dsimp only
  rw [hset]
  rfl

theorem TLB.run_invalidate_of_empty {t : TLB} (h : ∀ set ∈ t.sets, set = []) :
    ∀ {vs : List VirtualPageNumber} {t' : TLB}, t.run (vs.map .invalidate) = some t' → t' = t
  | [], _, ht => (Option.some.inj ht).symm
  | v :: vs, _, ht => by
    obtain ⟨u, hu, ht⟩ := Option.bind_eq_some.mp ht
    cases invalidate_of_empty h hu
    exact run_invalidate_of_empty h ht

theorem TLB.run_append (t : TLB) (ks ks' : List TLBCall) : t.run (ks ++ ks') = (t.run ks).bind (·.run ks') := by
  induction ks generalizing t with
  | nil => rfl
  | cons k ks ih => simp only [List.cons_append, run, List.append_eq, ih, Option.bind_assoc]

@[simp] theorem PerfCounters.migrated_tlbHits (c : PerfCounters) (b : Bool) (p : Nat) :
    (c.migrated b p).tlbHits = c.tlbHits := by
  unfold migrated; split <;> rfl

@[simp] theorem PerfCounters.migrated_tlbMisses (c : PerfCounters) (b : Bool) (p : Nat) :
    (c.migrated b p).tlbMisses = c.tlbMisses := by
  unfold migrated; split <;> rfl

@[simp] theorem PerfCounters.migrated_kernelLaunches (c : PerfCounters) (b : Bool) (p : Nat) :
    (c.migrated b p).kernelLaunches = c.kernelLaunches := by
  unfold migrated; split <;> rfl

namespace VirtualMemoryManager

/-- From `s` to `t`, the manager reached its subsystems only through their
interfaces, and counted no TLB lookup and no kernel launch. -/
structure Uses (s t : VirtualMemoryManager) : Prop where
  allocator : ∃ ks, t.allocator = (s.allocator.runCalls ks).2
  policy : ∃ cs, s.replacementPolicy.run cs = some t.replacementPolicy
  tlb : ∃ vs : List VirtualPageNumber, s.tlb.run (vs.map .invalidate) = some t.tlb
  tlbHits : t.perfCounters.tlbHits ≤ s.perfCounters.tlbHits
  tlbMisses : t.perfCounters.tlbMisses ≤ s.perfCounters.tlbMisses
  kernelLaunches : t.perfCounters.kernelLaunches ≤ s.perfCounters.kernelLaunches

namespace Uses

variable {s t u : VirtualMemoryManager}

theorem refl (s : VirtualMemoryManager) : Uses s s :=
  ⟨⟨[], rfl⟩, ⟨[], rfl⟩, ⟨[], rfl⟩, le_rfl, le_rfl, le_rfl⟩

theorem trans (h : Uses s t) (h' : Uses t u) : Uses s u := by
  obtain ⟨⟨ks, hk⟩, ⟨cs, hc⟩, ⟨vs, hv⟩, h₁, h₂, h₃⟩ := h
  obtain ⟨⟨ks', hk'⟩, ⟨cs', hc'⟩, ⟨vs', hv'⟩, h₁', h₂', h₃'⟩ := h'
  refine ⟨⟨ks ++ ks', by rw [hk', hk, PageAllocator.runCalls_append]⟩,
    ⟨cs ++ cs', by rw [ReplacementPolicy.run_append, hc]; exact hc'⟩,
    ⟨vs ++ vs', by rw [List.map_append, TLB.run_append, hv]; exact hv'⟩,
    h₁'.trans h₁, h₂'.trans h₂, h₃'.trans h₃⟩

/-- A write that leaves the three subsystems and the counters alone: the
page table, the ledger, the map, the memory or other counters. -/
theorem of_eq (ha : t.allocator = s.allocator) (hp : t.replacementPolicy = s.replacementPolicy)
    (ht : t.tlb = s.tlb) (h₁ : t.perfCounters.tlbHits = s.perfCounters.tlbHits)
    (h₂ : t.perfCounters.tlbMisses = s.perfCounters.tlbMisses)
    (h₃ : t.perfCounters.kernelLaunches = s.perfCounters.kernelLaunches) : Uses s t :=
  ⟨⟨[], ha⟩, ⟨[], by rw [hp]; rfl⟩, ⟨[], by rw [ht]; rfl⟩, h₁.le, h₂.le, h₃.le⟩

/-- One call of the allocator's interface. -/
theorem call (k : AllocatorCall) : Uses s { s with allocator := (s.allocator.call k).2 } :=
  ⟨⟨[k], rfl⟩, ⟨[], rfl⟩, ⟨[], rfl⟩, le_rfl, le_rfl, le_rfl⟩

/-- One call of the policy's interface. -/
theorem perform {c : PolicyCall} {p : ReplacementPolicy} (h : s.replacementPolicy.perform c = some p) :
    Uses s { s with replacementPolicy := p } :=
  ⟨⟨[], rfl⟩, ⟨[c], (s.replacementPolicy.run_singleton c).trans h⟩, ⟨[], rfl⟩, le_rfl, le_rfl, le_rfl⟩

/-- One `invalidate`. -/
theorem invalidate {v : VirtualPageNumber} {tlb : TLB} (h : s.tlb.invalidate v = some tlb) :
    Uses s { s with tlb } :=
  ⟨⟨[], rfl⟩, ⟨[], rfl⟩, ⟨[v], by simp [TLB.run, TLB.perform, h]⟩, le_rfl, le_rfl, le_rfl⟩

end Uses

/-! ## Every operation but `initialize` -/

theorem allocateCpuPages_uses (vs : VirtualPageNumber) :
    ∀ (i k : Nat) (pages : List Address) (s : VirtualMemoryManager),
      Uses s (match allocateCpuPages vs i k pages s with | .ok r => r.2 | .error r => r.2)
  | _, 0, _, s => Uses.refl s
  | i, k + 1, pages, s => by
    dsimp only [allocateCpuPages]
    split_ifs
    · exact Uses.call .allocateCpuPage
    · refine Uses.trans ?_ (allocateCpuPages_uses vs _ k _ _)
      exact ⟨⟨[.allocateCpuPage], rfl⟩, ⟨[.allocated _], (ReplacementPolicy.run_singleton _ _).trans
        (ReplacementPolicy.perform_allocated _ _)⟩, ⟨[], rfl⟩, le_rfl, le_rfl, le_rfl⟩

theorem prefetchGpuPages_uses (vs : VirtualPageNumber) (cp : List Address) :
    ∀ (i k : Nat) (s : VirtualMemoryManager), Uses s (prefetchGpuPages vs cp i k s)
  | _, 0, s => Uses.refl s
  | i, k + 1, s => by
    dsimp only [prefetchGpuPages]
    split_ifs
    · exact (Uses.call .allocateGpuPage).trans (prefetchGpuPages_uses vs cp _ k _)
    · refine Uses.trans ?_ (prefetchGpuPages_uses vs cp _ k _)
      exact (Uses.call .allocateGpuPage).trans (Uses.of_eq rfl rfl rfl (by simp) (by simp) (by simp))

theorem allocate_uses (s : VirtualMemoryManager) (bytes : Nat) (p : Bool) : Uses s (s.allocate bytes p).2 := by
  dsimp only [allocate]
  generalize u32 (alignToPage bytes s.config.pageSize / s.config.pageSize) = n
  split_ifs
  · exact Uses.refl s
  · exact Uses.of_eq rfl rfl rfl rfl rfl rfl
  all_goals
    have h₀ : Uses s { s with pageTable := (s.pageTable.allocateVpnRange s.nextVpn n).2 } :=
      Uses.of_eq rfl rfl rfl rfl rfl rfl
    have hk := h₀.trans (allocateCpuPages_uses s.nextVpn 0 n [] _)
    split <;> rename_i pages t heq <;> rw [heq] at hk <;> refine hk.trans ?_
  · refine ⟨⟨pages.map .deallocateCpuPage, (PageAllocator.runCalls_deallocateCpuPage _ _).symm⟩, ⟨[], rfl⟩,
      ⟨[], rfl⟩, le_rfl, le_rfl, le_rfl⟩
  · exact (prefetchGpuPages_uses s.nextVpn pages 0 n t).trans (Uses.of_eq rfl rfl rfl rfl rfl rfl)
  · refine ⟨⟨pages.map .deallocateCpuPage, (PageAllocator.runCalls_deallocateCpuPage _ _).symm⟩, ⟨[], rfl⟩,
      ⟨[], rfl⟩, le_rfl, le_rfl, le_rfl⟩
  · exact Uses.of_eq rfl rfl rfl rfl rfl rfl

theorem freePage_uses {s t : VirtualMemoryManager} {v : VirtualPageNumber} (h : s.freePage v = some t) :
    Uses s t := by
  simp only [freePage, Option.map_eq_some'] at h
  obtain ⟨tlb, htlb, rfl⟩ := h
  refine ⟨?_, (Uses.perform (ReplacementPolicy.perform_freed _ v)).policy, ⟨[v], by simp [TLB.run, TLB.perform, htlb]⟩,
    le_rfl, le_rfl, le_rfl⟩
  dsimp only
  split
  · rename_i e _
    split_ifs
    exacts [⟨[.deallocateCpuPage e.cpuAddress, .deallocateGpuPage e.gpuAddress], rfl⟩,
      ⟨[.deallocateGpuPage e.gpuAddress], rfl⟩, ⟨[.deallocateCpuPage e.cpuAddress], rfl⟩, ⟨[], rfl⟩]
  · exact ⟨[], rfl⟩

theorem free_uses {s t : VirtualMemoryManager} {vaddr : Address} (h : s.free vaddr = some t) : Uses s t := by
  unfold free at h
  split_ifs at h
  · cases h; exact Uses.refl s
  split at h
  · cases h; exact Uses.refl s
  obtain ⟨u, hu, rfl⟩ := Option.map_eq_some'.mp h
  exact (foldlM_rel Uses Uses.refl Uses.trans (fun _ _ _ => freePage_uses) _ hu).trans
    (Uses.of_eq rfl rfl rfl rfl rfl rfl)

theorem writeBack_uses (s : VirtualMemoryManager) (v : VirtualPageNumber) (e : PageTableEntry) :
    Uses s (s.writeBack v e) := by
  unfold writeBack; split_ifs
  · exact Uses.of_eq rfl rfl rfl (by simp) (by simp) (by simp)
  · exact Uses.refl s

theorem releaseGpuPage_uses (s : VirtualMemoryManager) (v : VirtualPageNumber) (e : PageTableEntry) :
    Uses s (s.releaseGpuPage v e) :=
  (Uses.call (.deallocateGpuPage e.gpuAddress)).trans (Uses.of_eq rfl rfl rfl rfl rfl rfl)

theorem evictVictim_uses {s t : VirtualMemoryManager} {v : VirtualPageNumber} (h : s.evictVictim v = some t) :
    Uses s t := by
  unfold evictVictim at h
  split at h
  · cases h; exact Uses.refl s
  obtain ⟨tlb, htlb, rfl⟩ := Option.map_eq_some'.mp h
  exact ((writeBack_uses s v _).trans (releaseGpuPage_uses _ v _)).trans (Uses.invalidate htlb)

theorem evictPageFromGpu_uses {s t : VirtualMemoryManager} (h : s.evictPageFromGpu = some t) : Uses s t := by
  unfold evictPageFromGpu at h
  split_ifs at h
  · cases h; exact Uses.refl s
  obtain ⟨⟨victim, policy⟩, hv, h⟩ := Option.bind_eq_some.mp h
  have hp : Uses s { s with replacementPolicy := policy } := Uses.perform (ReplacementPolicy.perform_selected hv)
  dsimp only at h
  split_ifs at h <;> first | (cases h; exact hp) | exact hp.trans (evictVictim_uses h)

theorem takeGpuPage_uses (s : VirtualMemoryManager) (v : VirtualPageNumber) : Uses s (s.takeGpuPage v) :=
  (Uses.call .allocateGpuPage).trans (Uses.of_eq rfl rfl rfl rfl rfl rfl)

theorem allocateGpuPageFor_uses {s t : VirtualMemoryManager} {v : VirtualPageNumber}
    (h : s.allocateGpuPageFor v = some t) : Uses s t := by
  unfold allocateGpuPageFor at h
  dsimp only at h
  split_ifs at h
  · cases h; exact takeGpuPage_uses s v
  obtain ⟨u, hu, rfl⟩ := Option.map_eq_some'.mp h
  exact (takeGpuPage_uses s v).trans ((evictPageFromGpu_uses hu).trans (takeGpuPage_uses u v))

theorem copyToGpu_uses (s : VirtualMemoryManager) (v : VirtualPageNumber) : Uses s (s.copyToGpu v) := by
  unfold copyToGpu; dsimp only; split_ifs
  · exact Uses.of_eq rfl rfl rfl (by simp) (by simp) (by simp)
  · exact Uses.refl s

theorem faultToGpu_uses {s t : VirtualMemoryManager} {v : VirtualPageNumber} (h : s.faultToGpu v = some t) :
    Uses s t := by
  unfold faultToGpu at h
  split_ifs at h
  · cases h; exact Uses.refl s
  all_goals
    obtain ⟨u, hu, rfl⟩ := Option.map_eq_some'.mp h
    refine Uses.trans ?_ ((copyToGpu_uses u v).trans (Uses.of_eq rfl rfl rfl rfl rfl rfl))
  · exact allocateGpuPageFor_uses hu
  · cases hu; exact Uses.refl s

theorem takeCpuPage_uses (s : VirtualMemoryManager) (v : VirtualPageNumber) : Uses s (s.takeCpuPage v) := by
  unfold takeCpuPage; dsimp only; split_ifs
  · exact (Uses.call .allocateCpuPage).trans (Uses.of_eq rfl rfl rfl rfl rfl rfl)
  · exact Uses.refl s

theorem copyToCpu_uses (s : VirtualMemoryManager) (v : VirtualPageNumber) : Uses s (s.copyToCpu v) := by
  unfold copyToCpu; dsimp only; split_ifs
  · exact Uses.of_eq rfl rfl rfl (by simp) (by simp) (by simp)
  · exact Uses.refl s

theorem faultToCpu_uses (s : VirtualMemoryManager) (v : VirtualPageNumber) : Uses s (s.faultToCpu v) := by
  unfold faultToCpu
  split_ifs
  · exact Uses.refl s
  · exact (takeCpuPage_uses s v).trans ((copyToCpu_uses _ v).trans (Uses.of_eq rfl rfl rfl rfl rfl rfl))

theorem resolvePageFault_uses {s t : VirtualMemoryManager} {v : VirtualPageNumber} {g : Bool}
    (h : s.resolvePageFault v g = some t) : Uses s t := by
  unfold resolvePageFault at h
  split at h
  · cases h; exact Uses.refl s
  split_ifs at h
  · exact faultToGpu_uses h
  · cases h; exact faultToCpu_uses s v

theorem mapToCpu_uses {s t : VirtualMemoryManager} {a : Address} {b : Bool} (h : s.mapToCpu a b = some t) :
    Uses s t := by
  unfold mapToCpu at h
  dsimp only at h
  split_ifs at h
  · cases h; exact Uses.refl s
  split at h
  · cases h; exact Uses.refl s
  split_ifs at h
  · exact resolvePageFault_uses h
  · cases h; exact Uses.refl s

theorem mapToGpu_uses {s t : VirtualMemoryManager} {a : Address} (h : s.mapToGpu a = some t) : Uses s t := by
  unfold mapToGpu at h
  dsimp only at h
  split_ifs at h
  · cases h; exact Uses.refl s
  split at h
  · cases h; exact Uses.refl s
  · exact faultToGpu_uses h

theorem recordAccess_uses (s : VirtualMemoryManager) (v : VirtualPageNumber) (w : Bool) :
    Uses s (s.recordAccess v w) := by
  unfold recordAccess
  split
  · exact Uses.refl s
  · exact ⟨⟨[], rfl⟩, ⟨[.accessed v], (ReplacementPolicy.run_singleton _ _).trans
      (ReplacementPolicy.perform_accessed _ _)⟩, ⟨[], rfl⟩, le_rfl, le_rfl, le_rfl⟩

theorem touchPage_uses {s t : VirtualMemoryManager} {a : Address} {w : Bool} (h : s.touchPage a w = some t) :
    Uses s t := by
  unfold touchPage at h
  dsimp only at h
  split_ifs at h
  · cases h; exact Uses.refl s
  obtain ⟨u, hu, rfl⟩ := Option.map_eq_some'.mp h
  refine Uses.trans ?_ (recordAccess_uses u _ w)
  split at hu
  · have h₀ : Uses s { s with perfCounters :=
        { s.perfCounters with totalPageFaults := u64 (s.perfCounters.totalPageFaults + 1) } } :=
      Uses.of_eq rfl rfl rfl rfl rfl rfl
    exact h₀.trans (resolvePageFault_uses hu)
  · cases hu; exact Uses.refl s

theorem hostEntry_uses {s t : VirtualMemoryManager} {v : VirtualPageNumber} {e : Option PageTableEntry}
    (h : s.hostEntry v = some (e, t)) : Uses s t := by
  unfold hostEntry at h
  split at h
  · cases h; exact Uses.refl s
  obtain ⟨u, hu, h⟩ := Option.map_eq_some'.mp h
  cases h
  split_ifs at hu
  · exact resolvePageFault_uses hu
  · cases hu; exact Uses.refl s

theorem readFromVaddr_uses {s t : VirtualMemoryManager} {a : Address} {buf buf' : Buffer} {n : Nat}
    (h : s.readFromVaddr a buf n = some (buf', t)) : Uses s t := by
  unfold readFromVaddr at h
  split at h
  · cases h; exact Uses.refl s
  split_ifs at h
  · cases h; exact Uses.refl s
  obtain ⟨⟨e, u⟩, hu, h⟩ := Option.bind_eq_some.mp h
  have := hostEntry_uses hu
  dsimp only at h
  split at h
  · split_ifs at h <;> cases h <;> exact this
  · cases h; exact this

theorem writeToVaddr_uses {s t : VirtualMemoryManager} {a : Address} {buf : Buffer} {n : Nat}
    (h : s.writeToVaddr a buf n = some t) : Uses s t := by
  unfold writeToVaddr at h
  split at h
  · cases h; exact Uses.refl s
  split_ifs at h
  · cases h; exact Uses.refl s
  obtain ⟨⟨e, u⟩, hu, h⟩ := Option.bind_eq_some.mp h
  have := hostEntry_uses hu
  dsimp only at h
  split at h
  · split_ifs at h <;> cases h
    · exact this
    · exact this.trans (Uses.of_eq rfl rfl rfl rfl rfl rfl)
  · cases h; exact this

/-- Every operation but `initialize` reaches the subsystems only through
their interfaces. -/
theorem step_uses {s t : VirtualMemoryManager} {op : Op} (hop : ∀ c p, op ≠ .init c p)
    (h : s.step op = some t) : Uses s t := by
  cases op with
  | init c p => exact absurd rfl (hop c p)
  | shutdown =>
    cases h; unfold shutdown; split_ifs
    · exact Uses.of_eq rfl rfl rfl rfl rfl rfl
    · exact Uses.refl s
  | allocate bytes p => cases h; exact allocate_uses s bytes p
  | free => exact free_uses h
  | mapToCpu a b => exact mapToCpu_uses (show s.mapToCpu a b = some t from h)
  | mapToGpu | prefetchToGpu => exact mapToGpu_uses h
  | touchPage => exact touchPage_uses h
  | readFromVaddr =>
    obtain ⟨⟨b, u⟩, hu, rfl⟩ := Option.map_eq_some'.mp h
    exact readFromVaddr_uses hu
  | writeToVaddr => exact writeToVaddr_uses h
  | syncAllMigrations => cases h; exact Uses.refl s
  | resetCounters =>
    cases h
    exact ⟨⟨[], rfl⟩, ⟨[], rfl⟩, ⟨[], rfl⟩, Nat.zero_le _, Nat.zero_le _, Nat.zero_le _⟩

theorem Reachable.run {s t : VirtualMemoryManager} (h : Reachable s) :
    ∀ {ops : List Op}, s.run ops = some t → Reachable t
  | [], hr => by cases hr; exact h
  | _ :: _, hr => by
    obtain ⟨u, hu, hr⟩ := Option.bind_eq_some.mp hr
    exact (h.step hu).run hr

/-! ## The subsystems in every reachable state -/

/-- While the manager is initialized, its allocator keeps the invariant of
the first-fit model and the manager's page size: `initialize` sets up both,
with a device pool below `2^63` bytes, and the other operations only call
the allocator. -/
theorem Reachable.allocator_of_initialized {s : VirtualMemoryManager} (h : Reachable s)
    (hi : s.initialized = true) : s.allocator.Inv ∧ s.allocator.config.pageSize = s.config.pageSize := by
  induction h with
  | fresh m => cases hi
  | @step s t op _ ht ih =>
    cases hl : op.keepsLifecycle
    · cases op with
      | init c p =>
        rcases init_eq_some ht with ⟨hs, rfl⟩ | ⟨-, -, hc, -, -, ha, -⟩
        · exact ih hs
        · obtain ⟨-, -, hlt, hP⟩ := PageAllocator.init_eq_some ha
          refine ⟨(PageAllocator.init_inv ha (by unfold gpuBase; dsimp only at hlt ⊢; omega)).1, ?_⟩
          rw [hP, hc]
      | shutdown => cases ht; simp at hi
      | _ => cases hl
    · have hk := step_keeps hl ht
      obtain ⟨hinv, hP⟩ := ih (hk.initialized ▸ hi)
      obtain ⟨⟨ks, hks⟩, -⟩ := step_uses (fun c p h => by subst h; cases hl) ht
      refine ⟨hks ▸ (hinv.runCalls ks).2, ?_⟩
      rw [hk.allocatorConfig, hk.config]
      exact hP

/-- While the manager is initialized, its allocator keeps the invariant of
the first-fit model. -/
theorem Reachable.allocator_inv {s : VirtualMemoryManager} (h : Reachable s) (hi : s.initialized = true) :
    s.allocator.Inv :=
  (h.allocator_of_initialized hi).1

theorem allocator_inv_after_allocation :
    ∃ s, (fresh fun _ => 0).run [.init smallConfig 0x10000, .allocate 8192 true, .touchPage 4096 true] = some s ∧
      s.initialized = true ∧ s.allocator.Inv := by
  have h : ((fresh fun _ => 0).run [.init smallConfig 0x10000, .allocate 8192 true, .touchPage 4096 true]).map
      (·.initialized) = some true := by decide
  obtain ⟨s, hs, hi⟩ := Option.map_eq_some'.mp h
  exact ⟨s, hs, hi, Reachable.allocator_inv ((Reachable.fresh _).run hs) hi⟩

end VirtualMemoryManager

open VirtualMemoryManager in
/-- The replacement policy never holds more than its `max_pages_`, which is
never above 65536: it is the empty LRU policy of capacity 0 until
`initialize` makes one of capacity 65536, and the other operations only call
it. -/
theorem policy_within_capacity {s : VirtualMemoryManager} (h : Reachable s) :
    s.replacementPolicy.size ≤ s.replacementPolicy.maxPages ∧ s.replacementPolicy.maxPages ≤ 65536 := by
  induction h with
  | fresh m => exact ⟨le_rfl, Nat.zero_le _⟩
  | @step s t op _ ht ih =>
    by_cases hop : ∀ c p, op ≠ .init c p
    · obtain ⟨-, ⟨cs, hcs⟩, -⟩ := step_uses hop ht
      obtain ⟨hb, hm⟩ := ReplacementPolicy.Bounded.run cs ih.1 hcs
      exact ⟨hb, hm ▸ ih.2⟩
    · push_neg at hop
      obtain ⟨c, p, rfl⟩ := hop
      have ht' : s.init c p = some t := ht
      unfold init at ht'
      split_ifs at ht'
      · cases ht'; exact ih
      · simp only [Option.bind_eq_bind, Option.bind_eq_some] at ht'
        obtain ⟨_, _, _, _, _, _, ht'⟩ := ht'
        cases ht'
        dsimp only
        split <;> exact ⟨Nat.zero_le _, le_rfl⟩

open VirtualMemoryManager in
theorem policy_within_capacity_after_access :
    ∃ s, (fresh fun _ => 0).run [.init smallConfig 0x10000, .allocate 8192 true, .touchPage 4096 true] = some s ∧
      s.replacementPolicy.size ≤ s.replacementPolicy.maxPages ∧ s.replacementPolicy.maxPages ≤ 65536 := by
  have h : ((fresh fun _ => 0).run [.init smallConfig 0x10000, .allocate 8192 true, .touchPage 4096 true]).isSome :=
    by decide
  obtain ⟨s, hs⟩ := Option.isSome_iff_exists.mp h
  exact ⟨s, hs, policy_within_capacity ((Reachable.fresh _).run hs)⟩

open VirtualMemoryManager in
/-- The manager never inserts into its TLB and never looks a translation up
in it, and no operation counts a TLB hit, a TLB miss or a kernel launch:
the TLB holds no entry and counts no lookup, and the three counters stay
zero. -/
theorem tlb_never_caches_translation {s : VirtualMemoryManager} (h : Reachable s) :
    (∀ set ∈ s.tlb.sets, set = []) ∧ s.tlb.hits = 0 ∧ s.tlb.misses = 0 ∧
      s.perfCounters.tlbHits = 0 ∧ s.perfCounters.tlbMisses = 0 ∧ s.perfCounters.kernelLaunches = 0 := by
  induction h with
  | fresh m => simp [fresh]
  | @step s t op _ ht ih =>
    obtain ⟨hsets, hh, hm, h₁, h₂, h₃⟩ := ih
    by_cases hop : ∀ c p, op ≠ .init c p
    · obtain ⟨-, -, ⟨vs, hvs⟩, h₁', h₂', h₃'⟩ := step_uses hop ht
      rw [TLB.run_invalidate_of_empty hsets hvs]
      exact ⟨hsets, hh, hm, by omega, by omega, by omega⟩
    · push_neg at hop
      obtain ⟨c, p, rfl⟩ := hop
      rcases init_eq_some ht with ⟨-, rfl⟩ | ⟨-, -, -, hc, -, -, htlb, -⟩
      · exact ⟨hsets, hh, hm, h₁, h₂, h₃⟩
      · unfold TLB.init at htlb
        split_ifs at htlb
        rw [← Option.some.inj htlb, hc]
        exact ⟨fun set hs => List.eq_of_mem_replicate hs, rfl, rfl, h₁, h₂, h₃⟩

open VirtualMemoryManager in
theorem tlb_empty_after_access :
    ∃ s, (fresh fun _ => 0).run [.init smallConfig 0x10000, .allocate 8192 true, .touchPage 4096 true] = some s ∧
      (∀ set ∈ s.tlb.sets, set = []) ∧ s.tlb.hits = 0 ∧ s.tlb.misses = 0 ∧
      s.perfCounters.tlbHits = 0 ∧ s.perfCounters.tlbMisses = 0 ∧ s.perfCounters.kernelLaunches = 0 := by
  have h : ((fresh fun _ => 0).run [.init smallConfig 0x10000, .allocate 8192 true, .touchPage 4096 true]).isSome :=
    by decide
  obtain ⟨s, hs⟩ := Option.isSome_iff_exists.mp h
  exact ⟨s, hs, tlb_never_caches_translation ((Reachable.fresh _).run hs)⟩

end UvmSim
