import UvmSim.Proof.Residency.Run
import UvmSim.Proof.Counters

/-!
# No page ever leaves the device

`resolve_page_fault` and `map_to_gpu` call `evict_page_from_gpu` only when
`allocate_gpu_page` finds the device pool full. Under the residency
invariant that never happens: every entry holds a host slot of its own and
the device pool has as many slots as the host pool, so an entry without a
device slot always finds a free one (`Consistent.gpu_take_eq_some`). Nor is
a page ever copied back to the host, since every entry is host-resident and
no host fault migrates. The write-back, the release of a victim's slot and
`select_victim` are never reached.

* `step_noReturn`: under the invariant, every operation but the lifecycle
  keeps `evictions` and `gpu_to_cpu_migrations`, or resets them;
* `no_page_leaves_device`: in every state reached without a VPN wrap, both
  counters are zero;
* `map_to_gpu_places_page`: there, `map_to_gpu` of a VPN with an entry
  returns with the page resident on both sides and in the ledger.
-/

namespace UvmSim

namespace VirtualMemoryManager

/-- From `s` to `t` no page was evicted and none copied back to the host. -/
structure NoReturn (s t : VirtualMemoryManager) : Prop where
  evictions : t.perfCounters.evictions = s.perfCounters.evictions
  gpuToCpu : t.perfCounters.gpuToCpuMigrations = s.perfCounters.gpuToCpuMigrations

namespace NoReturn

variable {s t u : VirtualMemoryManager}

theorem refl (s : VirtualMemoryManager) : NoReturn s s := ⟨rfl, rfl⟩

theorem trans (h : NoReturn s t) (h' : NoReturn t u) : NoReturn s u := ⟨h'.1.trans h.1, h'.2.trans h.2⟩

theorem of_perfCounters (h : t.perfCounters = s.perfCounters) : NoReturn s t := ⟨by rw [h], by rw [h]⟩

/-- A migration to the device. -/
theorem migrated (h : t.perfCounters = s.perfCounters.migrated true s.config.pageSize) : NoReturn s t :=
  ⟨by simp [h], by simp [h, PerfCounters.migrated]⟩

end NoReturn

variable {s t : VirtualMemoryManager} {op : Op}

theorem allocateCpuPages_perfCounters (vs : VirtualPageNumber) :
    ∀ (i k : Nat) (pages : List Address) (s : VirtualMemoryManager),
      (match allocateCpuPages vs i k pages s with | .ok r => r.2 | .error r => r.2).perfCounters = s.perfCounters
  | _, 0, _, _ => rfl
  | i, k + 1, pages, s => by
    dsimp only [allocateCpuPages]
    split_ifs
    · rfl
    · exact allocateCpuPages_perfCounters vs _ k _ _

theorem prefetchGpuPages_noReturn (vs : VirtualPageNumber) (cp : List Address) :
    ∀ (i k : Nat) (s : VirtualMemoryManager), NoReturn s (prefetchGpuPages vs cp i k s)
  | _, 0, s => NoReturn.refl s
  | i, k + 1, s => by
    dsimp only [prefetchGpuPages]
    split_ifs <;> refine NoReturn.trans ?_ (prefetchGpuPages_noReturn vs cp _ k _)
    · exact NoReturn.of_perfCounters rfl
    · exact ⟨by simp, by simp [PerfCounters.migrated]⟩

theorem allocate_noReturn (s : VirtualMemoryManager) (bytes : Nat) (p : Bool) : NoReturn s (s.allocate bytes p).2 := by
  dsimp only [allocate]
  generalize u32 (alignToPage bytes s.config.pageSize / s.config.pageSize) = n
  split_ifs
  · exact NoReturn.refl s
  · exact NoReturn.of_perfCounters rfl
  all_goals
    have hk := allocateCpuPages_perfCounters s.nextVpn 0 n [] { s with pageTable := (s.pageTable.allocateVpnRange s.nextVpn n).2 }
    split <;> rename_i pages t heq <;> rw [heq] at hk
  · exact NoReturn.of_perfCounters hk
  · exact ((show NoReturn s t from NoReturn.of_perfCounters hk).trans
      (prefetchGpuPages_noReturn s.nextVpn pages 0 n t)).trans (NoReturn.of_perfCounters rfl)
  · exact NoReturn.of_perfCounters hk
  · exact NoReturn.of_perfCounters hk

theorem free_perfCounters {a : Address} (h : s.free a = some t) : t.perfCounters = s.perfCounters := by
  unfold free at h
  split_ifs at h
  · cases h; rfl
  split at h
  · cases h; rfl
  obtain ⟨u, hu, rfl⟩ := Option.map_eq_some'.mp h
  show u.perfCounters = s.perfCounters
  refine foldlM_rel (fun s t => t.perfCounters = s.perfCounters) (fun _ => rfl) (fun h h' => h'.trans h)
    (fun s v t ht => ?_) _ hu
  obtain ⟨tlb, -, rfl⟩ := Option.map_eq_some'.mp ht
  rfl

/-- `touch_page` faults only a VPN with no entry, which resolves nothing. -/
theorem touchPage_noReturn {a : Address} {w : Bool} (ht : s.touchPage a w = some t) : NoReturn s t := by
  unfold touchPage at ht
  dsimp only at ht
  split_ifs at ht
  · cases ht; exact NoReturn.refl s
  obtain ⟨u, hu, rfl⟩ := Option.map_eq_some'.mp ht
  have hr : NoReturn u (u.recordAccess (vaddrToVpn a s.config.pageSize) w) :=
    NoReturn.of_perfCounters (by unfold recordAccess; split <;> rfl)
  refine NoReturn.trans ?_ hr
  split at hu
  · rename_i he
    simp only [resolvePageFault, he] at hu
    cases hu
    exact ⟨rfl, rfl⟩
  · cases hu; exact NoReturn.refl s

section Consistent

variable (h : s.Consistent) (hw : s.Wf)
include h hw

/-- A device fault takes a free slot at once and copies the page there. -/
theorem faultToGpu_noReturn {v : VirtualPageNumber} {e : PageTableEntry} (he : s.pageTable.lookupEntry v = some e)
    (hf : s.faultToGpu v = some t) : NoReturn s t := by
  cases hg : e.residentOnGpu
  · obtain ⟨k, p, ht⟩ := h.gpu_take_eq_some hw he (h.device.gpuAddress_eq_zero he hg)
    rw [faultToGpu_eq h hw he hg ht] at hf
    cases hf
    exact NoReturn.migrated rfl
  · rw [faultToGpu, entryAt_of_lookupEntry he, if_pos hg] at hf
    cases hf
    exact NoReturn.refl s

theorem mapToGpu_noReturn {a : Address} (hm : s.mapToGpu a = some t) : NoReturn s t := by
  unfold mapToGpu at hm
  dsimp only at hm
  split_ifs at hm
  · cases hm; exact NoReturn.refl s
  split at hm
  · cases hm; exact NoReturn.refl s
  · rename_i e he
    exact faultToGpu_noReturn h hw he hm

theorem writeToVaddr_noReturn {a : Address} {buf : Buffer} {n : Nat} (hr : s.writeToVaddr a buf n = some t) :
    NoReturn s t := by
  unfold writeToVaddr at hr
  split at hr
  · cases hr; exact NoReturn.refl s
  split_ifs at hr
  · cases hr; exact NoReturn.refl s
  simp only [hostEntry_of_consistent h hw, Option.bind_eq_bind, Option.some_bind] at hr
  split at hr
  · split_ifs at hr <;> cases hr <;> exact NoReturn.of_perfCounters rfl
  · cases hr; exact NoReturn.refl s

/-- Under the invariant every operation but the lifecycle keeps the two
counters, but `reset_counters`. -/
theorem step_noReturn (hop : op.keepsLifecycle) (hs : s.step op = some t) : NoReturn s t ∨ t = s.resetCounters := by
  cases op with
  | init | shutdown => cases hop
  | allocate bytes pf => cases hs; exact .inl (allocate_noReturn s bytes pf)
  | free a => exact .inl (NoReturn.of_perfCounters (free_perfCounters hs))
  | mapToCpu a b =>
    rw [mapToCpu_of_consistent h hw (show s.mapToCpu a b = some t from hs)]
    exact .inl (NoReturn.refl s)
  | mapToGpu a | prefetchToGpu a => exact .inl (mapToGpu_noReturn h hw hs)
  | touchPage a w => exact .inl (touchPage_noReturn hs)
  | readFromVaddr a b n =>
    obtain ⟨⟨b', u⟩, hu, rfl⟩ := Option.map_eq_some'.mp hs
    rw [readFromVaddr_of_consistent h hw hu]
    exact .inl (NoReturn.refl s)
  | writeToVaddr a b n => exact .inl (writeToVaddr_noReturn h hw hs)
  | syncAllMigrations => cases hs; exact .inl (NoReturn.refl s)
  | resetCounters => cases hs; exact .inr rfl

end Consistent

end VirtualMemoryManager

open VirtualMemoryManager in
/-- In every state reached from construction without a VPN wrap, no page
has been evicted from the device and none copied back to the host: the
counters `evictions` and `gpu_to_cpu_migrations` are zero. -/
theorem no_page_leaves_device {s : VirtualMemoryManager} (h : ReachableNoWrap s) :
    s.perfCounters.evictions = 0 ∧ s.perfCounters.gpuToCpuMigrations = 0 := by
  induction h with
  | fresh m => exact ⟨rfl, rfl⟩
  | @step s t op hs _ ht ih =>
    cases hl : op.keepsLifecycle
    · cases op with
      | init c p =>
        rcases init_eq_some ht with ⟨-, rfl⟩ | ⟨-, -, -, hc, -⟩
        · exact ih
        · rw [hc]; exact ih
      | shutdown => cases ht; rw [shutdown_perfCounters]; exact ih
      | _ => cases hl
    · cases hi : s.initialized
      · rcases step_of_not_initialized hl hi ht with rfl | rfl
        · exact ih
        · exact ⟨rfl, rfl⟩
      · obtain ⟨hc, hw⟩ := hs.runInv.1 hi
        rcases step_noReturn hc hw hl ht with hr | rfl
        · exact ⟨hr.evictions.trans ih.1, hr.gpuToCpu.trans ih.2⟩
        · exact ⟨rfl, rfl⟩

open VirtualMemoryManager in
/-- In every state reached without a VPN wrap, while the manager is
initialized: `map_to_gpu` of an address whose VPN has an entry returns, and
leaves that entry resident on the device at a device address, still resident
on the host at its host address, and its VPN added to the ledger. -/
theorem map_to_gpu_places_page {s : VirtualMemoryManager} (h : ReachableNoWrap s) (hi : s.initialized = true)
    (a : Address) {e : PageTableEntry} (he : s.pageTable.lookupEntry (vaddrToVpn a s.config.pageSize) = some e) :
    ∃ t e', s.mapToGpu a = some t ∧ t.pageTable.lookupEntry (vaddrToVpn a s.config.pageSize) = some e' ∧
      e'.residentOnGpu = true ∧ e'.gpuAddress ≠ 0 ∧ e'.residentOnCpu = true ∧ e'.cpuAddress = e.cpuAddress ∧
      t.gpuResidentPages = insert (vaddrToVpn a s.config.pageSize) s.gpuResidentPages := by
  obtain ⟨hc, hw⟩ := h.runInv.1 hi
  have hm : s.mapToGpu a = s.faultToGpu (vaddrToVpn a s.config.pageSize) := by simp [mapToGpu, hi, he]
  have hcpu := hc.residentOnCpu hw he
  cases hg : e.residentOnGpu
  · obtain ⟨k, p, ht⟩ := hc.gpu_take_eq_some hw he (hc.device.gpuAddress_eq_zero he hg)
    rw [hm, faultToGpu_eq hc hw he hg ht]
    exact ⟨_, { e with residentOnGpu := true, gpuAddress := s.allocator.gpuSlot k, isDirty := false }, rfl,
      by simp [he], rfl, hw.shaped.gpuSlot_ne_zero (SlotPool.take_lt_length ht), hcpu, rfl, rfl⟩
  · rw [hm, faultToGpu, entryAt_of_lookupEntry he, if_pos hg,
      Finset.insert_eq_of_mem ((hc.device.ledger _).mpr ⟨e, he, hg⟩)]
    exact ⟨s, e, rfl, he, hg, (hc.device.resident _ e he).mp hg, hcpu, rfl, rfl⟩

open VirtualMemoryManager in
theorem map_to_gpu_places_prefetched_page :
    ∃ s t e', (fresh fun _ => 0).run [.init smallConfig 0x10000, .allocate 8192 false] = some s ∧
      s.mapToGpu 4096 = some t ∧ t.pageTable.lookupEntry 1 = some e' ∧ e'.residentOnGpu = true ∧
      e'.gpuAddress ≠ 0 ∧ e'.residentOnCpu = true ∧ t.gpuResidentPages = {1} := by
  have h : ((fresh fun _ => 0).step (.init smallConfig 0x10000)).map (fun s =>
      (s.noWrap (.allocate 8192 false), (s.step (.allocate 8192 false)).map fun t =>
        (t.initialized, vaddrToVpn 4096 t.config.pageSize, (t.pageTable.lookupEntry 1).isSome,
          decide (t.gpuResidentPages = ∅)))) = some (true, some (true, 1, true, true)) := by
    decide
  obtain ⟨s₁, hs₁, h⟩ := Option.map_eq_some'.mp h
  simp only [Prod.mk.injEq, Option.map_eq_some', decide_eq_true_eq] at h
  obtain ⟨hn, s₂, hs₂, hi, hv, he, hl⟩ := h
  obtain ⟨e, he⟩ := Option.isSome_iff_exists.mp he
  obtain ⟨t, e', ht, he', hg, hg0, hc, -, hlt⟩ :=
    map_to_gpu_places_page (.step (.step (.fresh _) (by rfl) hs₁) hn hs₂) hi 4096 (hv ▸ he)
  rw [hv, hl] at *
  exact ⟨s₂, t, e', by simp [run, hs₁, hs₂], ht, he', hg, hg0, hc, hlt⟩

open VirtualMemoryManager in
/-- A prefetching allocation of three pages fills the device pool of the
small configuration, and evicts nothing. -/
theorem full_device_prefetch_evicts_nothing :
    ∃ s, (fresh fun _ => 0).run [.init smallConfig 0x10000, .allocate 12288 true] = some s ∧
      s.perfCounters.cpuToGpuMigrations = 3 ∧
      s.perfCounters.evictions = 0 ∧ s.perfCounters.gpuToCpuMigrations = 0 := by
  have h : ((fresh fun _ => 0).step (.init smallConfig 0x10000)).map (fun s =>
      (s.noWrap (.allocate 12288 true), (s.step (.allocate 12288 true)).map (·.perfCounters.cpuToGpuMigrations))) =
      some (true, some 3) := by decide
  obtain ⟨s₁, hs₁, h⟩ := Option.map_eq_some'.mp h
  simp only [Prod.mk.injEq, Option.map_eq_some'] at h
  obtain ⟨hn, s₂, hs₂, hc⟩ := h
  exact ⟨s₂, by simp [run, hs₁, hs₂], hc, no_page_leaves_device (.step (.step (.fresh _) (by rfl) hs₁) hn hs₂)⟩

end UvmSim
