import UvmSim.Proof.Interfaces
import UvmSim.Proof.Residency.Run

/-!
# The page counts the manager reports

`get_gpu_pages_used` counts the ledger `gpu_resident_pages_`, and
`get_gpu_pages_available` asks the allocator. In the runs without a VPN
wrap the two add up to the device pool: the ledger holds the device-resident
VPNs, each holds a device slot of its own, and every occupied slot is one of
theirs (`Consistent`), so the ledger is as large as the set of occupied
slots, and the allocator's count is the pool less that set
(`PageAllocator.Inv`). The host pool adds up the same way with the entries
of the page table, each of which holds a host slot of its own (`Wf`).

* `SlotsMatch.card_eq`: the VPNs holding a slot are as many as the occupied
  slots;
* `pages_accounted`: used and available device pages make the device pool,
  and the page table's entries and the available host pages the host pool.
-/

namespace UvmSim

/-- When distinct slots have distinct nonzero addresses, the VPNs that hold
a nonzero address are as many as the occupied slots. -/
theorem SlotsMatch.card_eq {A : VirtualPageNumber → Option Nat} {p : SlotPool} {slot : Nat → Nat}
    (h : SlotsMatch A p.bitmap slot) {L : Finset VirtualPageNumber} (hL : ∀ v, v ∈ L ↔ ∃ a, A v = some a ∧ a ≠ 0)
    (hne : ∀ i < p.bitmap.length, slot i ≠ 0)
    (hinj : ∀ i < p.bitmap.length, ∀ j < p.bitmap.length, slot i = slot j → i = j) :
    L.card = p.occupied.card := by
  have hslot : ∀ v ∈ L, ∃ i, p.bitmap[i]? = some true ∧ A v = some (slot i) := fun v hv => by
    obtain ⟨a, ha, h0⟩ := (hL v).mp hv
    obtain ⟨i, hi, rfl⟩ := h.owned v a ha h0
    exact ⟨i, hi, ha⟩
  have hlt : ∀ {i}, p.bitmap[i]? = some true → i < p.bitmap.length := fun hi =>
    (List.getElem?_eq_some_iff.mp hi).1
  refine Finset.card_bij (fun v hv => Classical.choose (hslot v hv)) (fun v hv => ?_)
    (fun v hv w hw (hvw : Classical.choose (hslot v hv) = Classical.choose (hslot w hw)) => ?_) (fun i hi => ?_)
  · exact SlotPool.mem_occupied.mpr (Classical.choose_spec (hslot v hv)).1
  · obtain ⟨-, hv'⟩ := Classical.choose_spec (hslot v hv)
    obtain ⟨hw₁, hw'⟩ := Classical.choose_spec (hslot w hw)
    rw [hvw] at hv'
    exact h.unique v w _ hv' hw' (hne _ (hlt hw₁))
  · have hi' := SlotPool.mem_occupied.mp hi
    obtain ⟨v, hv⟩ := (h.occupied i (hlt hi')).mp hi'
    have hvL : v ∈ L := (hL v).mpr ⟨_, hv, hne i (hlt hi')⟩
    obtain ⟨hc₁, hc⟩ := Classical.choose_spec (hslot v hvL)
    exact ⟨v, hvL, hinj _ (hlt hc₁) i (hlt hi') (Option.some.inj (hc.symm.trans hv))⟩

namespace VirtualMemoryManager

variable {s : VirtualMemoryManager}

theorem Consistent.mem_ledger (h : s.Consistent) (v : VirtualPageNumber) :
    v ∈ s.gpuResidentPages ↔ ∃ a, s.pageTable.gpuAddresses v = some a ∧ a ≠ 0 := by
  simp only [h.device.ledger v, PageTable.gpuAddresses, Option.map_eq_some']
  constructor
  · rintro ⟨e, he, hr⟩
    exact ⟨_, ⟨e, he, rfl⟩, (h.device.resident v e he).mp hr⟩
  · rintro ⟨_, ⟨e, he, rfl⟩, h0⟩
    exact ⟨e, he, (h.device.resident v e he).mpr h0⟩

theorem Wf.mem_entries (h : s.Wf) (v : VirtualPageNumber) :
    v ∈ s.pageTable.entries.keys ↔ ∃ a, s.pageTable.cpuAddresses v = some a ∧ a ≠ 0 := by
  simp only [Finmap.mem_keys, ← Finmap.lookup_isSome, PageTable.cpuAddresses, Option.map_eq_some',
    Option.isSome_iff_exists]
  constructor
  · rintro ⟨e, he⟩
    exact ⟨_, ⟨e, he, rfl⟩, h.hostBacked v e he⟩
  · rintro ⟨_, ⟨e, he, rfl⟩, -⟩
    exact ⟨e, he⟩

end VirtualMemoryManager

open VirtualMemoryManager in
/-- In every state reached without a VPN wrap, while the manager is
initialized: `get_gpu_pages_used` and `get_gpu_pages_available` add up to
the device pages of the allocator, and the entries of the page table and
`get_available_cpu_pages` to its host pages. -/
theorem pages_accounted {s : VirtualMemoryManager} (h : ReachableNoWrap s) (hi : s.initialized = true) :
    s.getGpuPagesUsed + s.getGpuPagesAvailable = s.allocator.getTotalGpuPages ∧
      s.pageTable.entries.keys.card + s.allocator.getAvailableCpuPages = s.allocator.getTotalCpuPages := by
  obtain ⟨hc, hw⟩ := h.runInv.1 hi
  have ha := (h.reachable.allocator_of_initialized hi).1
  have hgpu : s.gpuResidentPages.card = s.allocator.gpu.occupied.card :=
    hc.device.slots.card_eq hc.mem_ledger (fun _ => hw.shaped.gpuSlot_ne_zero)
      fun _ hi _ hj => hw.shaped.gpuSlot_inj hi hj
  have hcpu : s.pageTable.entries.keys.card = s.allocator.cpu.occupied.card :=
    hc.host.slots.card_eq hw.mem_entries (fun i _ => hw.shaped.cpuSlot_ne_zero i)
      fun _ _ _ _ => hw.shaped.cpuSlot_inj
  simp only [getGpuPagesUsed, getGpuPagesAvailable, hi, if_true, PageAllocator.getAvailableGpuPages,
    PageAllocator.getTotalGpuPages, PageAllocator.getAvailableCpuPages, PageAllocator.getTotalCpuPages, hgpu, hcpu]
  exact ⟨(Nat.add_comm _ _).trans ha.gpu_counted.available_add,
    (Nat.add_comm _ _).trans ha.cpu_counted.available_add⟩

open VirtualMemoryManager in
theorem pages_accounted_after_prefetch :
    ∃ s, (fresh fun _ => 0).run [.init smallConfig 0x10000, .allocate 8192 true] = some s ∧
      s.getGpuPagesUsed + s.getGpuPagesAvailable = s.allocator.getTotalGpuPages ∧
      s.pageTable.entries.keys.card + s.allocator.getAvailableCpuPages = s.allocator.getTotalCpuPages := by
  have h : ((fresh fun _ => 0).step (.init smallConfig 0x10000)).map (fun s =>
      (s.noWrap (.allocate 8192 true), (s.step (.allocate 8192 true)).map (·.initialized))) =
      some (true, some true) := by decide
  obtain ⟨s₁, hs₁, h⟩ := Option.map_eq_some'.mp h
  simp only [Prod.mk.injEq, Option.map_eq_some'] at h
  obtain ⟨hn, s₂, hs₂, hi⟩ := h
  exact ⟨s₂, by simp [run, hs₁, hs₂], pages_accounted (.step (.step (.fresh _) (by rfl) hs₁) hn hs₂) hi⟩

end UvmSim
