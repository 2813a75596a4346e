import UvmSim.Proof.Residency.Invariant

/-!
# Faults and accesses keep the residency invariant

Under `Wf` every entry holds a host slot, so by `Consistent` it is
host-resident: a host fault has nothing to do (`resolvePageFault_cpu`), and
`map_to_cpu`, `read_from_vaddr`, `touch_page` and `write_to_vaddr` change no
residency. A device fault on an entry off the device finds a free device
slot (`Consistent.gpu_take_eq_some`), so `allocate_gpu_page` succeeds at the
first try and no page is evicted (`faultToGpu_eq`): the entry gets the slot,
a copy of its page, and a place in the ledger.

* `faultToGpu_consistent`: a device fault keeps `Consistent` and `Wf`, and
  so does `map_to_gpu` (`mapToGpu_consistent`).
-/

namespace UvmSim

namespace VirtualMemoryManager

variable {s t : VirtualMemoryManager} {v : VirtualPageNumber} {e : PageTableEntry}

theorem entryAt_of_lookupEntry (he : s.pageTable.lookupEntry v = some e) : s.entryAt v = e := by
  simp [entryAt, he]

theorem Consistent.residentOnCpu (h : s.Consistent) (hw : s.Wf) (he : s.pageTable.lookupEntry v = some e) :
    e.residentOnCpu = true :=
  (h.host.resident v e he).mpr (hw.hostBacked v e he)

/-! ## Host faults and host accesses -/

section Host

variable (h : s.Consistent) (hw : s.Wf)
include h hw

theorem resolvePageFault_cpu (v : VirtualPageNumber) : s.resolvePageFault v false = some s := by
  unfold resolvePageFault
  split
  · rfl
  · rename_i e he
    simp [faultToCpu, entryAt_of_lookupEntry he, h.residentOnCpu hw he]

theorem mapToCpu_of_consistent {a : Address} {b : Bool} (hm : s.mapToCpu a b = some t) : t = s := by
  unfold mapToCpu at hm
  dsimp only at hm
  split_ifs at hm
  · exact (Option.some.inj hm).symm
  split at hm
  · exact (Option.some.inj hm).symm
  split_ifs at hm
  · rw [resolvePageFault_cpu h hw] at hm; exact (Option.some.inj hm).symm
  · exact (Option.some.inj hm).symm

theorem hostEntry_of_consistent (v : VirtualPageNumber) : s.hostEntry v = some (s.pageTable.lookupEntry v, s) := by
  unfold hostEntry
  split
  · rename_i he; rw [he]
  · rename_i e he
    simp [h.residentOnCpu hw he, he]

theorem readFromVaddr_of_consistent {a : Address} {buf buf' : Buffer} {n : Nat}
    (hr : s.readFromVaddr a buf n = some (buf', t)) : t = s := by
  unfold readFromVaddr at hr
  split at hr
  · exact (Prod.mk.inj (Option.some.inj hr)).2.symm
  split_ifs at hr
  · exact (Prod.mk.inj (Option.some.inj hr)).2.symm
  simp only [hostEntry_of_consistent h hw, Option.bind_eq_bind, Option.some_bind] at hr
  split at hr
  · split_ifs at hr <;> exact (Prod.mk.inj (Option.some.inj hr)).2.symm
  · exact (Prod.mk.inj (Option.some.inj hr)).2.symm

theorem writeToVaddr_sameResidency {a : Address} {buf : Buffer} {n : Nat} (hr : s.writeToVaddr a buf n = some t) :
    SameResidency s t := by
  unfold writeToVaddr at hr
  split at hr
  · cases hr; exact SameResidency.refl s
  split_ifs at hr
  · cases hr; exact SameResidency.refl s
  simp only [hostEntry_of_consistent h hw, Option.bind_eq_bind, Option.some_bind] at hr
  split at hr
  · split_ifs at hr <;> cases hr
    · exact SameResidency.refl s
    · exact ⟨PageTable.hostView_modifyEntry fun _ _ => ⟨rfl, rfl⟩,
        PageTable.deviceView_modifyEntry fun _ _ => ⟨rfl, rfl⟩, rfl, rfl, rfl⟩
  · cases hr; exact SameResidency.refl s

end Host

theorem sameResidency_recordAccess (s : VirtualMemoryManager) (v : VirtualPageNumber) (w : Bool) :
    SameResidency s (s.recordAccess v w) := by
  unfold recordAccess
  split
  · exact SameResidency.refl s
  · exact ⟨PageTable.hostView_modifyEntry fun _ _ => ⟨rfl, rfl⟩,
      PageTable.deviceView_modifyEntry fun _ _ => ⟨rfl, rfl⟩, rfl, rfl, rfl⟩

/-- `touch_page` faults only a VPN with no entry, which resolves nothing, and
then counts the access. -/
theorem touchPage_sameResidency {a : Address} {w : Bool} (ht : s.touchPage a w = some t) : SameResidency s t := by
  unfold touchPage at ht
  dsimp only at ht
  split_ifs at ht
  · cases ht; exact SameResidency.refl s
  obtain ⟨u, hu, rfl⟩ := Option.map_eq_some'.mp ht
  refine SameResidency.trans ?_ (sameResidency_recordAccess u _ w)
  split at hu
  · rename_i he
    simp only [resolvePageFault, he] at hu
    cases hu
    exact ⟨rfl, rfl, rfl, rfl, rfl⟩
  · cases hu; exact SameResidency.refl s

/-! ## Device faults -/

/-- What a device fault does under the invariant: the entry takes the first
free device slot, its page is copied there and it enters the ledger. -/
theorem faultToGpu_eq (h : s.Consistent) (hw : s.Wf) (he : s.pageTable.lookupEntry v = some e)
    (hg : e.residentOnGpu = false) {k : Nat} {p : SlotPool} (ht : s.allocator.gpu.take = some (k, p)) :
    s.faultToGpu v = some { s with
      allocator := { s.allocator with gpu := p }
      pageTable := ((s.pageTable.modifyEntry v fun e => { e with gpuAddress := s.allocator.gpuSlot k }).modifyEntry v
        fun e => { e with residentOnGpu := true, gpuAddress := s.allocator.gpuSlot k, isDirty := false }).modifyEntry v
          fun e => { e with residentOnGpu := true }
      perfCounters := s.perfCounters.migrated true s.config.pageSize
      gpuResidentPages := insert v s.gpuResidentPages } := by
  simp [faultToGpu, allocateGpuPageFor, takeGpuPage, copyToGpu, markResidentOnGpu, migrateCpuToGpu, entryAt, he, hg,
    h.device.gpuAddress_eq_zero he hg, PageAllocator.allocateGpuPage_of_take ht,
    hw.shaped.gpuSlot_ne_zero (SlotPool.take_lt_length ht), h.residentOnCpu hw he, hw.hostBacked v e he]

/-- A device fault keeps the invariant. -/
theorem faultToGpu_consistent (h : s.Consistent) (hw : s.Wf) (he : s.pageTable.lookupEntry v = some e)
    (hf : s.faultToGpu v = some t) : t.Consistent ∧ t.Wf := by
  cases hg : e.residentOnGpu
  · have hg0 := h.device.gpuAddress_eq_zero he hg
    obtain ⟨k, p, ht⟩ := h.gpu_take_eq_some hw he hg0
    rw [faultToGpu_eq h hw he hg ht] at hf
    cases hf
    have hc : Consistent { s with
        allocator := { s.allocator with gpu := p }
        pageTable := s.pageTable.setGpuResident v (s.allocator.gpuSlot k)
        gpuResidentPages := insert v s.gpuResidentPages } :=
      ⟨h.host.setGpuResident _ _, h.device.assign hw.shaped he hg0 ht⟩
    simp only [PageTable.modifyEntry_modifyEntry]
    have hv : (s.pageTable.modifyEntry v ((fun e => { e with residentOnGpu := true }) ∘
        (fun e => { e with residentOnGpu := true, gpuAddress := s.allocator.gpuSlot k, isDirty := false }) ∘
          fun e => { e with gpuAddress := s.allocator.gpuSlot k })).hostView = s.pageTable.hostView :=
      PageTable.hostView_modifyEntry fun _ _ => ⟨rfl, rfl⟩
    refine ⟨hc.of_same ⟨hv.trans (PageTable.hostView_setGpuResident _ _ _).symm,
      PageTable.deviceView_modifyEntry_congr fun _ _ => ⟨rfl, rfl⟩, rfl, rfl, rfl⟩,
      hw.of_host hv (hw.shaped.of_lengths rfl rfl rfl (by simp [(SlotPool.take_spec ht).2])) rfl rfl⟩
  · rw [faultToGpu, entryAt_of_lookupEntry he, if_pos hg] at hf
    cases hf
    exact ⟨h, hw⟩

theorem mapToGpu_consistent (h : s.Consistent) (hw : s.Wf) {a : Address} (hm : s.mapToGpu a = some t) :
    t.Consistent ∧ t.Wf := by
  unfold mapToGpu at hm
  dsimp only at hm
  split_ifs at hm
  · cases hm; exact ⟨h, hw⟩
  split at hm
  · cases hm; exact ⟨h, hw⟩
  · rename_i e he
    exact faultToGpu_consistent h hw he hm

end VirtualMemoryManager

end UvmSim
