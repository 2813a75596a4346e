import Mathlib.Order.Interval.Finset.Nat
import UvmSim.Proof.Interfaces
import UvmSim.Proof.Residency.Run

/-!
# `free` undoes `allocate`

An `allocate` of `n ≥ 1` pages that finds room in the host pool reserves the
VPNs from `next_vpn_`, one valid entry each, and maps its address to the
first (`allocate_reserves`). `free` of that address then counts exactly
those `n` entries, since every other entry lies below `next_vpn_`, and
releases them. What is left has the page table it started from, and the
residency invariant says the rest: the page table determines which slots of
each pool are occupied and which VPNs the ledger holds
(`Consistent.determined`).

* `allocateCpuPages_ok`: the host loop places every page when the pool has
  room for them;
* `free_undoes_allocate`: from every state reached without a VPN wrap,
  `free` of what `allocate` returned gives back the page table, the
  allocator and the ledger.
-/

namespace UvmSim

/-! ## Bitmaps and counts that the addresses determine -/

/-- Two bitmaps of one length that match the same addresses are equal. -/
theorem SlotsMatch.bitmap_eq {A : VirtualPageNumber → Option Nat} {bm bm' : List Bool} {slot : Nat → Nat}
    (h : SlotsMatch A bm slot) (h' : SlotsMatch A bm' slot) (hl : bm'.length = bm.length) : bm' = bm := by
  refine List.ext_getElem? fun i => ?_
  rcases Nat.lt_or_ge i bm.length with hi | hi
  · have hi' : i < bm'.length := hl ▸ hi
    have := (h'.occupied i hi').trans (h.occupied i hi).symm
    rw [List.getElem?_eq_getElem hi, List.getElem?_eq_getElem hi'] at this ⊢
    simpa using Bool.eq_iff_iff.mpr (by simpa using this)
  · rw [List.getElem?_eq_none hi, List.getElem?_eq_none (hl ▸ hi)]

namespace SlotPool

/-- A pool whose count agrees with its bitmap is determined by the bitmap. -/
theorem eq_of_counted {p q : SlotPool} (hp : p.Counted) (hq : q.Counted) (h : q.bitmap = p.bitmap) : q = p := by
  have ha : q.allocated = p.allocated := by rw [hq.allocated_eq, hp.allocated_eq, occupied, occupied, h]
  cases p; cases q
  exact congrArg₂ _ h ha

/-- A pool with a free slot has one to take. -/
theorem take_of_available {p : SlotPool} (h : p.Counted) (hp : 0 < p.available) : ∃ i q, p.take = some (i, q) := by
  cases ht : p.take with
  | some r => exact ⟨r.1, r.2, rfl⟩
  | none =>
    have hall := take_eq_none.mp ht
    have hocc : p.occupied = Finset.range p.bitmap.length := Finset.filter_true_of_mem fun i hi => by
      rw [List.getD_eq_getElem?_getD, List.getElem?_eq_getElem (Finset.mem_range.mp hi)]
      exact hall _ (List.getElem_mem _)
    have := h.available_add
    rw [hocc, Finset.card_range] at this
    omega

/-- A take leaves one free slot fewer. -/
theorem available_take {p q : SlotPool} {i : Nat} (h : p.Counted) (ht : p.take = some (i, q)) :
    q.available + 1 = p.available := by
  obtain ⟨hi, hq⟩ := occupied_of_take ht
  have hp := h.available_add
  have hq' := (h.take ht).available_add
  rw [hq, Finset.card_insert_of_not_mem hi, length_of_take ht] at hq'
  omega

end SlotPool

theorem PageAllocator.eq_of_fields {a b : PageAllocator} (hc : a.config = b.config) (hp : a.cpuPool = b.cpuPool)
    (hcpu : a.cpu = b.cpu) (hgpu : a.gpu = b.gpu) : a = b := by
  cases a; cases b
  cases hc; cases hp; cases hcpu; cases hgpu; rfl

/-! ## Writes confined to a range of VPNs -/

namespace PageTable

/-- `pt'` differs from `pt` only in the entries of the VPNs from `lo` below
`hi`, and each of its entries is valid exactly when that of `pt` is. -/
structure EditedWithin (lo hi : Nat) (pt pt' : PageTable) : Prop where
  outside : ∀ w : Nat, w < lo ∨ hi ≤ w → pt'.lookupEntry w = pt.lookupEntry w
  valid : ∀ w, (pt'.lookupEntry w).map (·.isValid) = (pt.lookupEntry w).map (·.isValid)

namespace EditedWithin

variable {lo hi : Nat} {pt pt' pt'' : PageTable}

theorem refl (pt : PageTable) : EditedWithin lo hi pt pt := ⟨fun _ _ => rfl, fun _ => rfl⟩

theorem mono {lo' : Nat} (h : EditedWithin lo hi pt pt') (hlo : lo' ≤ lo) : EditedWithin lo' hi pt pt' :=
  ⟨fun w hw => h.outside w (by omega), h.valid⟩

theorem trans (h : EditedWithin lo hi pt pt') (h' : EditedWithin lo hi pt' pt'') : EditedWithin lo hi pt pt'' :=
  ⟨fun w hw => (h'.outside w hw).trans (h.outside w hw), fun w => (h'.valid w).trans (h.valid w)⟩

/-- A write to the entry of a VPN of the range that keeps its validity. -/
theorem modifyEntry {v : Nat} (hv : lo ≤ v ∧ v < hi) {f : PageTableEntry → PageTableEntry}
    (hf : ∀ e, (f e).isValid = e.isValid) : EditedWithin lo hi pt (pt.modifyEntry v f) := by
  refine ⟨fun w hw => by rw [lookupEntry_modifyEntry, if_neg fun h => by subst h; omega], fun w => ?_⟩
  rw [lookupEntry_modifyEntry]
  split_ifs with hw
  · subst hw; cases pt.lookupEntry w <;> simp [hf]
  · rfl

theorem setCpuResident {v : Nat} (hv : lo ≤ v ∧ v < hi) (c : Address) :
    EditedWithin lo hi pt (pt.setCpuResident v c) :=
  modifyEntry hv fun _ => rfl

theorem updateAccessTime {v : Nat} (hv : lo ≤ v ∧ v < hi) : EditedWithin lo hi pt (pt.updateAccessTime v) :=
  modifyEntry hv fun _ => rfl

theorem setGpuResident {v : Nat} (hv : lo ≤ v ∧ v < hi) (g : Nat) :
    EditedWithin lo hi pt (pt.setGpuResident v g) :=
  modifyEntry hv fun _ => rfl

theorem migrateCpuToGpu {v : Nat} (hv : lo ≤ v ∧ v < hi) (c : Address) (g : Nat) :
    EditedWithin lo hi pt (UvmSim.migrateCpuToGpu pt v c g) := by
  unfold UvmSim.migrateCpuToGpu
  split_ifs
  · exact refl pt
  · exact modifyEntry hv fun _ => rfl

end EditedWithin

end PageTable

namespace VirtualMemoryManager

open PageTable

variable {s : VirtualMemoryManager} {vs n : Nat}

/-- The host loop of `allocate`, from its `i`-th page, writes only the
entries of the rest of its range. -/
theorem allocateCpuPages_editedWithin (hn : vs + n < 2 ^ 64) :
    ∀ (k i : Nat) (pages : List Address) (u : VirtualMemoryManager), i + k = n →
      u.pageTable.EditedWithin (vs + i) (vs + n)
        (match allocateCpuPages vs i k pages u with | .ok r => r.2 | .error r => r.2).pageTable
  | 0, _, _, u, _ => .refl u.pageTable
  | k + 1, i, pages, u, hik => by
    have hv : vs + i ≤ u64 (vs + i) ∧ u64 (vs + i) < vs + n := by
      rw [u64_add_of_lt hn (show i ≤ n by omega)]; omega
    dsimp only [allocateCpuPages]
    split_ifs
    · exact .refl u.pageTable
    · refine EditedWithin.trans ?_ ((allocateCpuPages_editedWithin hn k (i + 1) _ _ (by omega)).mono (by omega))
      exact (EditedWithin.setCpuResident hv _).trans (.updateAccessTime hv)

/-- So does its prefetch loop. -/
theorem prefetchGpuPages_editedWithin (cp : List Address) (hn : vs + n < 2 ^ 64) :
    ∀ (k i : Nat) (u : VirtualMemoryManager), i + k = n →
      u.pageTable.EditedWithin vs (vs + n) (prefetchGpuPages vs cp i k u).pageTable
  | 0, _, u, _ => .refl u.pageTable
  | k + 1, i, u, hik => by
    have hv : vs ≤ u64 (vs + i) ∧ u64 (vs + i) < vs + n := by rw [u64_add_of_lt hn (show i ≤ n by omega)]; omega
    dsimp only [prefetchGpuPages]
    split_ifs
    · exact prefetchGpuPages_editedWithin cp hn k (i + 1) { u with allocator := u.allocator.allocateGpuPage.2 }
        (by omega)
    · refine EditedWithin.trans ?_ (prefetchGpuPages_editedWithin cp hn k (i + 1) _ (by omega))
      exact (EditedWithin.setGpuResident hv _).trans (.migrateCpuToGpu hv _ _)

/-- The host loop places all its pages when the pool has a free slot for
each. -/
theorem allocateCpuPages_ok :
    ∀ (k i : Nat) (pages : List Address) (u : VirtualMemoryManager), u.allocator.cpuPool ≠ 0 →
      u.allocator.cpu.Counted → k ≤ u.allocator.cpu.available → ∃ r, allocateCpuPages vs i k pages u = .ok r
  | 0, _, pages, u, _, _, _ => ⟨(pages, u), rfl⟩
  | k + 1, i, pages, u, h0, hc, hk => by
    obtain ⟨j, q, ht⟩ := SlotPool.take_of_available hc (by omega)
    have hq := SlotPool.available_take hc ht
    simp only [allocateCpuPages, PageAllocator.allocateCpuPage_of_take ht, PageAllocator.cpuSlot]
    rw [if_neg (Nat.add_pos_left (Nat.pos_of_ne_zero h0) _).ne']
    refine allocateCpuPages_ok k (i + 1) _ _ h0 (hc.take ht) ?_
    show k ≤ q.available
    omega

/-- An initialized `allocate` of `n` pages, with room for them in the host
pool and its VPNs below `2 ^ 64`, takes its success path: it reserves the
range, fills it from the host pool, prefetches it if asked, and maps its first
address to `next_vpn_`. -/
theorem allocate_eq_of_room (hw : s.Wf) (ha : s.allocator.Inv) (hi : s.initialized = true) {bytes n : Nat}
    (pf : Bool) (hnum : u32 (alignToPage bytes s.config.pageSize / s.config.pageSize) = n)
    (hroom : n ≤ s.allocator.getAvailableCpuPages) (hn : s.nextVpn + n < 2 ^ 64) :
    ∃ pages u, allocateCpuPages s.nextVpn 0 n [] { s with pageTable := (s.pageTable.allocateVpnRange s.nextVpn n).2 } =
        .ok (pages, u) ∧
      s.allocate bytes pf = let v := if pf then prefetchGpuPages s.nextVpn pages 0 n u else u
        (vpnToVaddr s.nextVpn v.config.pageSize,
          { v with vaddrToVpnMap := v.vaddrToVpnMap.insert (vpnToVaddr s.nextVpn v.config.pageSize) s.nextVpn
                   nextVpn := u64 (v.nextVpn + n) }) := by
  obtain ⟨hr, -⟩ := allocateVpnRange_of_below hw.below hn.le
  obtain ⟨⟨pages, u⟩, hok⟩ := @allocateCpuPages_ok s.nextVpn n 0 []
    { s with pageTable := (s.pageTable.allocateVpnRange s.nextVpn n).2 } ha.cpuPool_ne_zero ha.cpu_counted hroom
  refine ⟨pages, u, hok, ?_⟩
  subst hnum
  unfold allocate
  rw [if_neg (by simp [hi])]
  dsimp only
  rw [if_neg (by simp [hr]), hok]

/-- An `allocate` of `n` pages that the host pool has room for maps the
address it returns to `next_vpn_`, gives each VPN of the range a valid
entry, and leaves the other entries as they were. -/
theorem allocate_reserves (hw : s.Wf) (ha : s.allocator.Inv) (hi : s.initialized = true) (bytes : Nat) (pf : Bool)
    (hroom : u32 (alignToPage bytes s.config.pageSize / s.config.pageSize) ≤ s.allocator.getAvailableCpuPages)
    (hn : s.nextVpn + u32 (alignToPage bytes s.config.pageSize / s.config.pageSize) < 2 ^ 64) :
    (s.allocate bytes pf).2.vaddrToVpnMap.lookup (s.allocate bytes pf).1 = some s.nextVpn ∧
      (∀ w : Nat, w < s.nextVpn ∨ w ≥ s.nextVpn + u32 (alignToPage bytes s.config.pageSize / s.config.pageSize) →
        (s.allocate bytes pf).2.pageTable.lookupEntry w = s.pageTable.lookupEntry w) ∧
      ∀ w : Nat, w ≥ s.nextVpn → w < s.nextVpn + u32 (alignToPage bytes s.config.pageSize / s.config.pageSize) →
        ∃ e, (s.allocate bytes pf).2.pageTable.lookupEntry w = some e ∧ e.isValid = true := by
  generalize hnum : u32 (alignToPage bytes s.config.pageSize / s.config.pageSize) = n at hroom hn ⊢
  obtain ⟨pages, u, hok, heq⟩ := allocate_eq_of_room hw ha hi pf hnum hroom hn
  obtain ⟨-, hlook⟩ := allocateVpnRange_of_below hw.below hn.le
  have h₁ := allocateCpuPages_editedWithin hn n 0 [] { s with pageTable := (s.pageTable.allocateVpnRange s.nextVpn n).2 } (Nat.zero_add n)
  rw [hok] at h₁
  rw [heq]
  dsimp only
  have h₂ : u.pageTable.EditedWithin s.nextVpn (s.nextVpn + n)
      (if pf then prefetchGpuPages s.nextVpn pages 0 n u else u).pageTable := by
    split_ifs
    · exact prefetchGpuPages_editedWithin pages hn n 0 u (Nat.zero_add n)
    · exact .refl _
  have h₃ := h₁.trans h₂
  refine ⟨Finmap.lookup_insert _, fun w hw' => ?_, fun w hw₁ hw₂ => ?_⟩
  · rw [h₃.outside w hw', hlook, if_neg (by omega)]
  · have hv := h₃.valid w
    rw [hlook, if_pos (show s.nextVpn ≤ w ∧ w < s.nextVpn + n from ⟨hw₁, hw₂⟩)] at hv
    exact Option.map_eq_some'.mp hv

theorem Wf.lookupEntry_eq_none (hw : s.Wf) {w : Nat} (h : w ≥ s.nextVpn) : s.pageTable.lookupEntry w = none :=
  Option.eq_none_iff_forall_not_mem.mpr fun e he => absurd (hw.below w e he) (by omega)

/-- `free` counts the `n` valid entries from `vs` when none lies above them. -/
theorem freeCount_eq {t : VirtualMemoryManager} (hn0 : 0 < n) (hn : n < 2 ^ 32)
    (hin : ∀ w : Nat, w ≥ vs → w < vs + n → ∃ e, t.pageTable.lookupEntry w = some e ∧ e.isValid = true)
    (hout : ∀ w : Nat, w ≥ vs + n → t.pageTable.lookupEntry w = none) : t.freeCount vs = n := by
  have hset : t.pageTable.getAllEntries.filter (vs ≤ ·) = Finset.Ico vs (vs + n) := by
    ext w
    simp only [PageTable.getAllEntries, Finset.mem_filter, Finmap.mem_keys, ← Finmap.lookup_isSome,
      Finset.mem_Ico]
    change ((t.pageTable.lookupEntry w).isSome = true ∧ _) ∧ _ ↔ _
    constructor
    · rintro ⟨⟨hk, -⟩, hw⟩
      refine ⟨hw, Nat.lt_of_not_le fun hw' => ?_⟩
      simp [hout w hw'] at hk
    · rintro ⟨hw, hw'⟩
      obtain ⟨e, he, hev⟩ := hin w hw hw'
      simp [he, hev, hw]
  simp only [freeCount, hset, Nat.card_Ico, Nat.add_sub_cancel_left, u32, Nat.mod_eq_of_lt hn]
  exact if_neg (by omega)

/-- The loop of `free` runs to its end when the TLB has a set. -/
theorem foldlM_freePage_eq_some (vs : Nat) :
    ∀ (l : List Nat) (u : VirtualMemoryManager), 0 < u.tlb.config.tlbSize / u.tlb.config.associativity →
      ∃ t, l.foldlM (fun t i => t.freePage (u64 (vs + i))) u = some t
  | [], u, _ => ⟨u, rfl⟩
  | i :: l, u, h => by
    have hu : (u.freePage (u64 (vs + i))).isSome := by
      simp [freePage, TLB.invalidate, TLB.getSetIndex, h.ne']
    obtain ⟨u', hu'⟩ := Option.isSome_iff_exists.mp hu
    obtain ⟨t, ht⟩ := foldlM_freePage_eq_some vs l u' (by rw [(freePage_keeps hu').tlbConfig]; exact h)
    exact ⟨t, by simp only [List.foldlM_cons, hu', Option.bind_eq_bind, Option.some_bind, ht]⟩

/-- Two consistent states with one page table, over allocators of one shape
whose counts agree with their bitmaps, have the same allocator and the same
ledger: the page table says which slots are occupied and which VPNs are
device-resident. -/
theorem Consistent.determined {t : VirtualMemoryManager} (hs : s.Consistent) (ht : t.Consistent)
    (ha : s.allocator.Inv) (ha' : t.allocator.Inv) (hpt : t.pageTable = s.pageTable)
    (hc : t.allocator.config = s.allocator.config) (hp : t.allocator.cpuPool = s.allocator.cpuPool) :
    t.allocator = s.allocator ∧ t.gpuResidentPages = s.gpuResidentPages := by
  have hcs : t.allocator.cpuSlot = s.allocator.cpuSlot := by funext k; simp only [PageAllocator.cpuSlot, hc, hp]
  have hgs : t.allocator.gpuSlot = s.allocator.gpuSlot := by funext k; simp only [PageAllocator.gpuSlot, hc]
  have hcpu := hs.host.slots.bitmap_eq (by rw [← hcs, ← hpt]; exact ht.host.slots)
    (by rw [ha'.cpu_length, ha.cpu_length, hc])
  have hgpu := hs.device.slots.bitmap_eq (by rw [← hgs, ← hpt]; exact ht.device.slots)
    (by rw [ha'.gpu_length, ha.gpu_length, hc])
  refine ⟨PageAllocator.eq_of_fields hc hp (SlotPool.eq_of_counted ha.cpu_counted ha'.cpu_counted hcpu)
    (SlotPool.eq_of_counted ha.gpu_counted ha'.gpu_counted hgpu), Finset.ext fun v => ?_⟩
  rw [ht.device.ledger, hs.device.ledger, hpt]

end VirtualMemoryManager

open VirtualMemoryManager in
/-- In every state reached without a VPN wrap, while the manager is
initialized: an `allocate` of at least one page, for which the host pool has
room and whose VPNs stay below `2 ^ 64`, followed by `free` of the address it
returned, runs to its end when the TLB has a set, and gives back the page
table, the allocator and the ledger `gpu_resident_pages_` it started from. -/
theorem free_undoes_allocate {s : VirtualMemoryManager} (h : ReachableNoWrap s) (hi : s.initialized = true)
    (bytes : Nat) (pf : Bool) (hpos : 0 < u32 (alignToPage bytes s.config.pageSize / s.config.pageSize))
    (hroom : u32 (alignToPage bytes s.config.pageSize / s.config.pageSize) ≤ s.allocator.getAvailableCpuPages)
    (hn : s.nextVpn + u32 (alignToPage bytes s.config.pageSize / s.config.pageSize) < 2 ^ 64)
    (htlb : 0 < s.tlb.config.tlbSize / s.tlb.config.associativity) :
    ∃ t, (s.allocate bytes pf).2.free (s.allocate bytes pf).1 = some t ∧
      t.pageTable = s.pageTable ∧ t.allocator = s.allocator ∧ t.gpuResidentPages = s.gpuResidentPages := by
  obtain ⟨hc, hw⟩ := h.runInv.1 hi
  have ha := (h.reachable.allocator_of_initialized hi).1
  have hk := allocate_keeps s bytes pf
  have hui : (s.allocate bytes pf).2.initialized = true := hk.initialized.trans hi
  obtain ⟨hmap, hout, hin⟩ := allocate_reserves hw ha hi bytes pf hroom hn
  have hcu := allocate_consistent hc hw bytes pf hn
  have hstep : s.step (.allocate bytes pf) = some (s.allocate bytes pf).2 := rfl
  have h32 : u32 (alignToPage bytes s.config.pageSize / s.config.pageSize) < 2 ^ 32 := Nat.mod_lt _ (by decide)
  generalize u32 (alignToPage bytes s.config.pageSize / s.config.pageSize) = n at hpos hroom hn hout hin h32
  generalize s.allocate bytes pf = r at hk hui hmap hout hin hcu hstep
  obtain ⟨a, u⟩ := r
  dsimp only at hk hui hmap hout hin hcu hstep
  have hcount : u.freeCount s.nextVpn = n := freeCount_eq hpos h32 hin
    fun w hw' => by rw [hout w (.inr hw'), hw.lookupEntry_eq_none (by omega)]
  obtain ⟨v, hv⟩ := foldlM_freePage_eq_some s.nextVpn (List.range (u.freeCount s.nextVpn)) u
    (by rw [hk.tlbConfig]; exact htlb)
  obtain ⟨t, hf⟩ : ∃ t, u.free a = some t := by simp [free, hui, hmap, hv]
  have hkf := free_keeps hf
  have hpt : t.pageTable = s.pageTable := by
    refine PageTable.ext_lookupEntry (hkf.pageSize.trans hk.pageSize) (hkf.numPages.trans hk.numPages) fun (w : Nat) => ?_
    rw [free_lookupEntry hui hmap hf w, hcount]
    by_cases hw' : w ≥ s.nextVpn ∧ w < s.nextVpn + n
    · rw [if_pos ⟨w - s.nextVpn, by omega, by rw [u64_add_of_lt hn (by omega)]; omega⟩,
        hw.lookupEntry_eq_none hw'.1]
    · rw [if_neg ?_, hout w (by omega)]
      rintro ⟨i, hi', hiw⟩
      rw [u64_add_of_lt hn hi'.le] at hiw
      omega
  have ha' := (((h.reachable.step hstep).step (show u.step (.free a) = some t from hf)).allocator_of_initialized
    (hkf.initialized.trans hui)).1
  obtain ⟨hal, hled⟩ := hc.determined (free_consistent hcu.1 hcu.2 hf).1 ha ha' hpt
    (hkf.allocatorConfig.trans hk.allocatorConfig) (hkf.cpuPool.trans hk.cpuPool)
  exact ⟨t, hf, hpt, hal, hled⟩

open VirtualMemoryManager in
/-- After a one-page allocation at VPN 0, a prefetching allocation of two
pages at `4096`, then its `free`: the page table, the pools and the ledger
are back. -/
theorem prefetched_allocation_freed :
    ∃ s t, (fresh fun _ => 0).run [.init smallConfig 0x10000, .allocate 4096 false] = some s ∧
      (s.allocate 8192 true).2.free (s.allocate 8192 true).1 = some t ∧
      t.pageTable = s.pageTable ∧ t.allocator = s.allocator ∧ t.gpuResidentPages = s.gpuResidentPages := by
  have h : ((fresh fun _ => 0).step (.init smallConfig 0x10000)).map (fun s =>
      (s.noWrap (.allocate 4096 false), (s.step (.allocate 4096 false)).map fun t =>
        decide (t.initialized = true ∧ 0 < u32 (alignToPage 8192 t.config.pageSize / t.config.pageSize) ∧
          u32 (alignToPage 8192 t.config.pageSize / t.config.pageSize) ≤ t.allocator.getAvailableCpuPages ∧
          t.nextVpn + u32 (alignToPage 8192 t.config.pageSize / t.config.pageSize) < 2 ^ 64 ∧
          0 < t.tlb.config.tlbSize / t.tlb.config.associativity))) = some (true, some true) := by decide
  obtain ⟨s₁, hs₁, h⟩ := Option.map_eq_some'.mp h
  simp only [Prod.mk.injEq, Option.map_eq_some', decide_eq_true_eq] at h
  obtain ⟨hn, s₂, hs₂, hi, hpos, hroom, hwrap, htlb⟩ := h
  obtain ⟨t, ht⟩ := free_undoes_allocate (.step (.step (.fresh _) (by rfl) hs₁) hn hs₂) hi 8192 true hpos hroom
    hwrap htlb
  exact ⟨s₂, t, by simp [run, hs₁, hs₂], ht⟩

end UvmSim
