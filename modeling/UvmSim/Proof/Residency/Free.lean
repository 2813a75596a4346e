import UvmSim.Proof.Residency.Invariant

/-!
# `free` keeps the residency invariant

The loop of `free` reads the page table without writing it: after the VPNs
`L` it has released the slots the entries of `L` held and taken `L` out of the
ledger (`FreeLoop`). The entries go afterwards, all at once, and what is left
is the invariant with the entries of `L` removed (`Consistent.remove`). A VPN
of `L` whose entry holds no slot on a side, or has no entry, releases nothing
there; one that appears twice releases its slots once.

* `free_consistent`: `free` keeps `Consistent` and `Wf`.
-/

namespace UvmSim

namespace VirtualMemoryManager

variable {s u t : VirtualMemoryManager} {L : List VirtualPageNumber}

/-- The state of `free`'s loop from `s` after the VPNs `L`. -/
structure FreeLoop (s : VirtualMemoryManager) (L : List VirtualPageNumber) (u : VirtualMemoryManager) : Prop where
  pageTable : u.pageTable = s.pageTable
  config : u.allocator.config = s.allocator.config
  cpuPool : u.allocator.cpuPool = s.allocator.cpuPool
  cpu : ReleasedFor (· ∈ L) s.pageTable.cpuAddresses s.allocator.cpuSlot s.allocator.cpu.bitmap u.allocator.cpu.bitmap
  gpu : ReleasedFor (· ∈ L) s.pageTable.gpuAddresses s.allocator.gpuSlot s.allocator.gpu.bitmap u.allocator.gpu.bitmap
  ledger : ∀ w, w ∈ u.gpuResidentPages ↔ w ∈ s.gpuResidentPages ∧ w ∉ L
  nextVpn : u.nextVpn = s.nextVpn

theorem FreeLoop.start (s : VirtualMemoryManager) : FreeLoop s [] s :=
  ⟨rfl, rfl, rfl, ReleasedFor.nil, ReleasedFor.nil, by simp, rfl⟩

section Release

variable (hs : s.Consistent) (hw : s.Wf) {a : PageAllocator} (ha : a.Shaped)
  {v : VirtualPageNumber} {e : PageTableEntry} (he : s.pageTable.lookupEntry v = some e)
include hs hw ha he

/-- `free` gives back the host slot of an entry, if it holds one. -/
theorem Consistent.releaseCpu (hslot : a.cpuSlot = s.allocator.cpuSlot)
    (hbm : ReleasedFor (· ∈ L) s.pageTable.cpuAddresses s.allocator.cpuSlot s.allocator.cpu.bitmap a.cpu.bitmap) :
    ∃ c : SlotPool, (if e.cpuAddress ≠ 0 then a.deallocateCpuPage e.cpuAddress else a) = { a with cpu := c } ∧
      ReleasedFor (· ∈ L ++ [v]) s.pageTable.cpuAddresses s.allocator.cpuSlot s.allocator.cpu.bitmap c.bitmap := by
  have hv : s.pageTable.cpuAddresses v = some e.cpuAddress := by simp [PageTable.cpuAddresses, he]
  split_ifs with hc
  · obtain ⟨k, hk, hek⟩ := hs.host.slots.owned v _ hv hc
    have hkl : k < a.cpu.bitmap.length := hbm.1 ▸ (List.getElem?_eq_some.mp hk).1
    refine ⟨a.cpu.release k, by rw [hek, ← hslot, ha.deallocateCpuPage_cpuSlot hkl], ?_⟩
    rw [SlotPool.release_bitmap]
    exact hbm.release (hek ▸ hv) fun i _ hi => hw.shaped.cpuSlot_inj hi
  · refine ⟨a.cpu, rfl, hbm.skip fun k _ hk => hw.shaped.cpuSlot_ne_zero k ?_⟩
    rw [hv, Option.some.injEq] at hk
    exact hk ▸ of_not_not hc

/-- `free` gives back the device slot of an entry, if it holds one. -/
theorem Consistent.releaseGpu (hslot : a.gpuSlot = s.allocator.gpuSlot)
    (hbm : ReleasedFor (· ∈ L) s.pageTable.gpuAddresses s.allocator.gpuSlot s.allocator.gpu.bitmap a.gpu.bitmap) :
    ∃ g : SlotPool, (if e.gpuAddress ≠ 0 then a.deallocateGpuPage e.gpuAddress else a) = { a with gpu := g } ∧
      ReleasedFor (· ∈ L ++ [v]) s.pageTable.gpuAddresses s.allocator.gpuSlot s.allocator.gpu.bitmap g.bitmap := by
  have hv : s.pageTable.gpuAddresses v = some e.gpuAddress := by simp [PageTable.gpuAddresses, he]
  split_ifs with hc
  · obtain ⟨k, hk, hek⟩ := hs.device.slots.owned v _ hv hc
    have hk' := (List.getElem?_eq_some.mp hk).1
    have hkl : k < a.gpu.bitmap.length := hbm.1 ▸ hk'
    refine ⟨a.gpu.release k, by rw [hek, ← hslot, ha.deallocateGpuPage_gpuSlot hkl], ?_⟩
    rw [SlotPool.release_bitmap]
    exact hbm.release (hek ▸ hv) fun i hi hik => hw.shaped.gpuSlot_inj hi hk' hik
  · refine ⟨a.gpu, rfl, hbm.skip fun k hk hk' => hw.shaped.gpuSlot_ne_zero hk ?_⟩
    rw [hv, Option.some.injEq] at hk'
    exact hk' ▸ of_not_not hc

end Release

theorem FreeLoop.step (h : FreeLoop s L u) (hs : s.Consistent) (hw : s.Wf) {v : VirtualPageNumber}
    (hf : u.freePage v = some t) : FreeLoop s (L ++ [v]) t := by
  simp only [freePage, Option.map_eq_some'] at hf
  obtain ⟨tlb, -, rfl⟩ := hf
  have ha : u.allocator.Shaped := hw.shaped.of_lengths h.config h.cpuPool h.cpu.1 h.gpu.1
  have hcs : u.allocator.cpuSlot = s.allocator.cpuSlot := by
    funext k; simp [PageAllocator.cpuSlot, h.config, h.cpuPool]
  have hgs : u.allocator.gpuSlot = s.allocator.gpuSlot := by
    funext k; simp [PageAllocator.gpuSlot, h.config]
  have hl : ∀ w, w ∈ u.gpuResidentPages.erase v ↔ w ∈ s.gpuResidentPages ∧ w ∉ L ++ [v] := by
    intro w
    simp only [Finset.mem_erase, h.ledger, List.mem_append, List.mem_singleton]
    tauto
  rw [h.pageTable]
  cases he : s.pageTable.lookupEntry v with
  | none =>
    have hno : ∀ (g : PageTableEntry → Nat) k, (s.pageTable.lookupEntry v).map g ≠ some k := by simp [he]
    exact ⟨rfl, h.config, h.cpuPool, h.cpu.skip fun k _ => hno _ _, h.gpu.skip fun k _ => hno _ _, hl, h.nextVpn⟩
  | some e =>
    obtain ⟨c, hc, hcr⟩ := hs.releaseCpu hw ha he hcs h.cpu
    have ha' : ({ u.allocator with cpu := c } : PageAllocator).Shaped :=
      ha.of_lengths rfl rfl (by rw [hcr.1, h.cpu.1]) rfl
    obtain ⟨g, hg, hgr⟩ := hs.releaseGpu hw ha' he hgs h.gpu
    simp only [hc, hg]
    exact ⟨rfl, h.config, h.cpuPool, hcr, hgr, hl, h.nextVpn⟩

theorem foldlM_freePage (hs : s.Consistent) (hw : s.Wf) (vs : Nat) :
    ∀ (is : List Nat) (L : List VirtualPageNumber) (u t : VirtualMemoryManager), FreeLoop s L u →
      is.foldlM (fun t i => t.freePage (u64 (vs + i))) u = some t →
      FreeLoop s (L ++ is.map fun i => u64 (vs + i)) t
  | [], L, u, t, h, hf => by cases hf; simpa using h
  | i :: is, L, u, t, h, hf => by
    obtain ⟨u', hu', hf⟩ := Option.bind_eq_some.mp hf
    simpa using foldlM_freePage hs hw vs is _ u' t (h.step hs hw hu') hf

/-- `free` keeps the invariant. -/
theorem free_consistent (h : s.Consistent) (hw : s.Wf) {vaddr : Address} (hf : s.free vaddr = some t) :
    t.Consistent ∧ t.Wf := by
  unfold free at hf
  split_ifs at hf
  · cases hf; exact ⟨h, hw⟩
  split at hf
  · cases hf; exact ⟨h, hw⟩
  rename_i vs _
  obtain ⟨u, hu, rfl⟩ := Option.map_eq_some'.mp hf
  have hl := foldlM_freePage h hw vs _ [] s u (FreeLoop.start s) hu
  rw [List.nil_append] at hl
  have hlook := PageTable.lookupEntry_deallocateVpnRange u.pageTable vs (s.freeCount vs)
  have hmem : ∀ w : Nat, (w ∈ (List.range (s.freeCount vs)).map fun i => u64 (vs + i)) ↔
      ∃ i < s.freeCount vs, u64 (vs + i) = w := by simp
  have hkept : ∀ w e, (u.pageTable.deallocateVpnRange vs (s.freeCount vs)).lookupEntry w = some e →
      s.pageTable.lookupEntry w = some e := by
    intro w e he
    rw [hlook] at he
    split_ifs at he
    rwa [← hl.pageTable]
  refine ⟨h.remove hw.shaped _ (fun w hw' => by rw [hlook, if_pos ((hmem w).mp hw')])
    (fun w hw' => by rw [hlook, if_neg (mt (hmem w).mpr hw'), hl.pageTable]) hl.cpuPool hl.config hl.cpu hl.gpu
    hl.ledger, hw.shaped.of_lengths hl.config hl.cpuPool hl.cpu.1 hl.gpu.1, hl.config ▸ hw.sameSize,
    fun w e he => hw.hostBacked w e (hkept w e he), fun w e he => hl.nextVpn ▸ hw.below w e (hkept w e he)⟩

end VirtualMemoryManager

end UvmSim
