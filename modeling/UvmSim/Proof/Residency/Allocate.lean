import UvmSim.Proof.Residency.Invariant
import UvmSim.Proof.PageTable

/-!
# `allocate` keeps the residency invariant

While `next_vpn_ + num_pages` stays below `2 ^ 64`, the VPNs `allocate`
reserves lie above every entry, so `allocate_vpn_range` succeeds and adds
entries with no address (`allocateVpnRange_of_below`). The host loop then
gives them host slots in order (`HostLoop`, `allocateCpuPages_spec`); when
the host pool runs out, the rollback releases the slots taken and removes the
entries (`HostLoop.rollback`). The prefetch loop gives device slots to the
entries while the device pool lasts, never touching their host side
(`PrefetchLoop`, `prefetchGpuPages_spec`).

* `allocate_consistent`: `allocate` keeps `Consistent` and `Wf` when the
  VPN counter does not wrap.
-/

namespace UvmSim

namespace VirtualMemoryManager

/-! ## The VPN range -/

/-- The VPNs of a range that ends below `2 ^ 64` do not wrap. -/
theorem u64_add_of_lt {a b n : Nat} (h : a + n < 2 ^ 64) (hb : b ≤ n) : u64 (a + b) = a + b :=
  u64_of_lt (by omega)

/-- Above every entry, `allocate_vpn_range` succeeds and adds fresh entries. -/
theorem allocateVpnRange_of_below {pt : PageTable} {vs n : Nat}
    (hb : ∀ (v : Nat) e, pt.lookupEntry v = some e → v < vs) (hn : vs + n ≤ 2 ^ 64) :
    (pt.allocateVpnRange vs n).1 = true ∧ ∀ w : Nat, (pt.allocateVpnRange vs n).2.lookupEntry w =
      if vs ≤ w ∧ w < vs + n then some freshEntry else pt.lookupEntry w := by
  obtain ⟨d, hd, -, hcol, h1, h2⟩ := pt.allocateVpnRange_spec vs (show n ≤ 2 ^ 64 by omega)
  have hv : ∀ j < n, u64 (vs + j) = vs + j := fun j hj => u64_of_lt (by omega)
  -- no VPN of the range has an entry, so the walk covers all of it
  obtain rfl : d = n := by
    by_contra hne
    obtain ⟨e, he⟩ := Option.ne_none_iff_exists'.mp (hcol (by omega))
    have := hb _ e he
    rw [hv d (by omega)] at this
    omega
  refine ⟨by simpa using h1, fun w => ?_⟩
  rw [h2]
  by_cases hw : vs ≤ w ∧ w < vs + d
  · rw [if_pos ⟨w - vs, by omega, by rw [hv _ (by omega)]; omega⟩, if_pos hw]
    rfl
  · rw [if_neg (by rintro ⟨j, hj, rfl⟩; rw [hv j hj] at hw; omega), if_neg hw]

/-! ## The host loop -/

/-- The host loop of `allocate` from `s`, after `i` of its `n` pages: the
first `i` reserved entries hold host slots, the others none, the slots taken
are `pages`, and nothing else has changed. -/
structure HostLoop (s : VirtualMemoryManager) (n i : Nat) (pages : List Address) (u : VirtualMemoryManager) :
    Prop where
  le : i ≤ n
  consistent : u.Consistent
  shaped : u.allocator.Shaped
  config : u.allocator.config = s.allocator.config
  gpu : u.allocator.gpu = s.allocator.gpu
  ledger : u.gpuResidentPages = s.gpuResidentPages
  nextVpn : u.nextVpn = s.nextVpn
  outside : ∀ w : Nat, w < s.nextVpn ∨ w ≥ s.nextVpn + n → u.pageTable.lookupEntry w = s.pageTable.lookupEntry w
  taken : ∀ j < i, ∃ e, u.pageTable.lookupEntry (s.nextVpn + j) = some e ∧ e.cpuAddress ≠ 0 ∧ e.gpuAddress = 0
  fresh : ∀ j, i ≤ j → j < n → u.pageTable.lookupEntry (s.nextVpn + j) = some freshEntry
  pages : ∀ a, a ∈ pages ↔ ∃ j < i, u.pageTable.cpuAddresses (s.nextVpn + j) = some a

variable {s u : VirtualMemoryManager} {n i : Nat} {pages : List Address}

theorem HostLoop.start (h : s.Consistent) (hw : s.Wf) (hn : s.nextVpn + n < 2 ^ 64) :
    HostLoop s n 0 [] { s with pageTable := (s.pageTable.allocateVpnRange s.nextVpn n).2 } := by
  obtain ⟨-, hr⟩ := allocateVpnRange_of_below hw.below (le_of_lt hn)
  refine ⟨Nat.zero_le _, h.extend hw.shaped (fun w => ?_) rfl rfl, hw.shaped, rfl, rfl, rfl, rfl,
    fun w hw' => by rw [hr, if_neg (by omega)], fun j hj => absurd hj (Nat.not_lt_zero j),
    fun j _ hj => by simp only [hr]; rw [if_pos (by omega)], fun a => by simp⟩
  rw [hr]
  split_ifs with hw'
  · refine .inr ⟨?_, rfl⟩
    by_contra hne
    obtain ⟨e, he⟩ := Option.ne_none_iff_exists'.mp hne
    have := hw.below w e he
    omega
  · exact .inl rfl

theorem HostLoop.step (h : HostLoop s n i pages u) (hi : i < n) {j : Nat} {p : SlotPool}
    (ht : u.allocator.cpu.take = some (j, p)) :
    HostLoop s n (i + 1) (pages ++ [u.allocator.cpuSlot j])
      { u with
        allocator := { u.allocator with cpu := p }
        pageTable := (u.pageTable.setCpuResident (s.nextVpn + i) (u.allocator.cpuSlot j)).updateAccessTime
          (s.nextVpn + i)
        replacementPolicy := u.replacementPolicy.onPageAllocated (s.nextVpn + i) } := by
  have hv := h.fresh i le_rfl hi
  have hc : Consistent { u with
      allocator := { u.allocator with cpu := p }
      pageTable := u.pageTable.setCpuResident (s.nextVpn + i) (u.allocator.cpuSlot j) } :=
    ⟨h.consistent.host.assign h.shaped hv rfl ht, h.consistent.device.setCpuResident _ _⟩
  -- the loop writes only the entry of `s.nextVpn + i`
  have hl : ∀ w : Nat, w ≠ s.nextVpn + i → ((u.pageTable.setCpuResident (s.nextVpn + i) (u.allocator.cpuSlot j)).updateAccessTime
      (s.nextVpn + i)).lookupEntry w = u.pageTable.lookupEntry w := fun w hw => by
    simp [PageTable.updateAccessTime, PageTable.setCpuResident, hw]
  obtain ⟨e, hlv, hec, heg⟩ : ∃ e, ((u.pageTable.setCpuResident (s.nextVpn + i) (u.allocator.cpuSlot j)).updateAccessTime
      (s.nextVpn + i)).lookupEntry (s.nextVpn + i) = some e ∧ e.cpuAddress = u.allocator.cpuSlot j ∧
        e.gpuAddress = 0 := by
    simp [PageTable.updateAccessTime, PageTable.setCpuResident, hv, freshEntry]
  refine ⟨hi, hc.of_same ⟨PageTable.hostView_modifyEntry fun _ _ => ⟨rfl, rfl⟩,
      PageTable.deviceView_modifyEntry fun _ _ => ⟨rfl, rfl⟩, rfl, rfl, rfl⟩,
    h.shaped.of_lengths rfl rfl (by simp [(SlotPool.take_spec ht).2]) rfl, h.config, h.gpu, h.ledger, h.nextVpn,
    fun w hw => (hl w (by omega)).trans (h.outside w hw), fun j' hj' => ?_,
    fun j' hj' hj'' => (hl _ (by omega)).trans (h.fresh j' (by omega) hj''), fun a => ?_⟩
  · rcases Nat.lt_succ_iff_lt_or_eq.mp hj' with hj' | rfl
    · rw [hl _ (by omega)]; exact h.taken j' hj'
    · exact ⟨e, hlv, hec ▸ h.shaped.cpuSlot_ne_zero j, heg⟩
  · simp only [List.mem_append, List.mem_singleton, h.pages, PageTable.cpuAddresses]
    constructor
    · rintro (⟨j', hj', ha⟩ | rfl)
      · exact ⟨j', by omega, by rw [hl _ (by omega)]; exact ha⟩
      · exact ⟨i, by omega, by rw [hlv, ← hec]; rfl⟩
    · rintro ⟨j', hj', ha⟩
      rcases Nat.lt_succ_iff_lt_or_eq.mp hj' with hj' | rfl
      · exact .inl ⟨j', hj', by rwa [hl _ (by omega)] at ha⟩
      · rw [hlv] at ha; exact .inr (hec ▸ (Option.some.inj ha).symm)

/-- The host loop ends with every page placed, or with the host pool full
after some of them. -/
theorem allocateCpuPages_spec (hn : s.nextVpn + n < 2 ^ 64) :
    ∀ (k i : Nat) (pages : List Address) (u : VirtualMemoryManager), i + k = n → HostLoop s n i pages u →
      match allocateCpuPages s.nextVpn i k pages u with
      | .ok (pages, u) => HostLoop s n n pages u
      | .error (pages, u) => ∃ i, HostLoop s n i pages u
  | 0, i, pages, u, hik, h => by
    simp only [allocateCpuPages]
    exact (Nat.add_zero i ▸ hik) ▸ h
  | k + 1, i, pages, u, hik, h => by
    cases ht : u.allocator.cpu.take with
    | none =>
      simp only [allocateCpuPages, PageAllocator.allocateCpuPage_of_full ht, if_true]
      exact ⟨i, h⟩
    | some r =>
      obtain ⟨j, p⟩ := r
      simp only [allocateCpuPages, PageAllocator.allocateCpuPage_of_take ht, if_neg (h.shaped.cpuSlot_ne_zero j),
        u64_add_of_lt hn (show i ≤ n by omega)]
      exact allocateCpuPages_spec hn k (i + 1) _ _ (by omega) (h.step (by omega) ht)

/-- The pages taken are host slots of the pool. -/
theorem HostLoop.pages_cpuSlot (h : HostLoop s n i pages u) :
    ∀ q ∈ pages, ∃ k < u.allocator.cpu.bitmap.length, q = u.allocator.cpuSlot k := by
  intro q hq
  obtain ⟨j, hji, hj⟩ := (h.pages q).mp hq
  obtain ⟨e, he, hc, -⟩ := h.taken j hji
  obtain ⟨k, hk, hq'⟩ := h.consistent.host.slots.owned _ q hj (by
    simp only [PageTable.cpuAddresses, he, Option.map_some', Option.some.injEq] at hj; exact hj ▸ hc)
  exact ⟨k, (List.getElem?_eq_some.mp hk).1, hq'⟩

/-- The reserved entries hold no device slot, and their host slots are the
pages taken. -/
theorem HostLoop.reserved (h : HostLoop s n i pages u) :
    ∀ j < n, ∀ e, u.pageTable.lookupEntry (s.nextVpn + j) = some e →
      e.gpuAddress = 0 ∧ (e.cpuAddress ≠ 0 → e.cpuAddress ∈ pages) := by
  intro j hj e he
  by_cases hji : j < i
  · obtain ⟨e', he', -, hg⟩ := h.taken j hji
    rw [he] at he'; cases he'
    exact ⟨hg, fun _ => (h.pages _).mpr ⟨j, hji, by simp [PageTable.cpuAddresses, he]⟩⟩
  · rw [h.fresh j (by omega) hj] at he; cases he
    exact ⟨rfl, fun hc => absurd rfl hc⟩

/-- When the host pool runs out, the rollback gives the slots back and
removes the reserved entries. -/
theorem HostLoop.rollback (h : HostLoop s n i pages u) (hw : s.Wf) (hn : s.nextVpn + n < 2 ^ 64) :
    Consistent { u with
        allocator := pages.foldl PageAllocator.deallocateCpuPage u.allocator
        pageTable := u.pageTable.deallocateVpnRange s.nextVpn n } ∧
      Wf { u with
        allocator := pages.foldl PageAllocator.deallocateCpuPage u.allocator
        pageTable := u.pageTable.deallocateVpnRange s.nextVpn n } := by
  have hin := h.le
  have hu : ∀ j < n, u64 (s.nextVpn + j) = s.nextVpn + j := fun j hj => u64_add_of_lt hn hj.le
  let R : VirtualPageNumber → Prop := fun w => ∃ j < n, u64 (s.nextVpn + j) = w
  have hR : ∀ w : Nat, R w ↔ w ≥ s.nextVpn ∧ w < s.nextVpn + n := fun w =>
    ⟨fun ⟨j, hj, hw⟩ => by rw [hu j hj] at hw; omega, fun hw => ⟨w - s.nextVpn, by omega, by rw [hu _ (by omega)]; omega⟩⟩
  obtain ⟨h1, h2, h3, h4, h5⟩ := h.shaped.foldl_deallocateCpuPage pages h.pages_cpuSlot
  have hlook := PageTable.lookupEntry_deallocateVpnRange u.pageTable s.nextVpn n
  have hkept : ∀ w e, (u.pageTable.deallocateVpnRange s.nextVpn n).lookupEntry w = some e →
      s.pageTable.lookupEntry w = some e := by
    intro w e he
    rw [hlook] at he
    split_ifs at he with hw'
    rw [← h.outside w (by by_contra hc; exact hw' ((hR w).mpr (by omega)))]
    exact he
  refine ⟨h.consistent.remove h.shaped R (fun w hw' => by rw [hlook, if_pos hw'])
    (fun w hw' => by rw [hlook, if_neg hw']) h2 h1 ⟨h4, fun k => ?_⟩ ⟨by rw [h3], fun k => ?_⟩ (fun w => ?_),
    h.shaped.of_lengths h1 h2 h4 (by rw [h3]), by rw [h1, h.config]; exact hw.sameSize,
    fun w e he => hw.hostBacked w e (hkept w e he), fun w e he => h.nextVpn ▸ hw.below w e (hkept w e he)⟩
  · rw [h5]
    refine and_congr_right fun _ => not_congr ⟨fun hk => ?_, fun ⟨w, ⟨j, hj, hw'⟩, hc⟩ => ?_⟩
    · obtain ⟨j, hj, hc⟩ := (h.pages _).mp hk
      exact ⟨_, ⟨j, by omega, hu j (by omega)⟩, hc⟩
    · rw [← hw', hu j hj] at hc
      obtain ⟨e, he, hc⟩ := Option.map_eq_some'.mp hc
      exact hc ▸ (h.reserved j hj e he).2 (hc ▸ h.shaped.cpuSlot_ne_zero k)
  · rw [h3]
    refine ⟨fun hk => ⟨hk, ?_⟩, And.left⟩
    rintro ⟨w, ⟨j, hj, rfl⟩, hc⟩
    rw [hu j hj] at hc
    obtain ⟨e, he, hc⟩ := Option.map_eq_some'.mp hc
    exact h.shaped.gpuSlot_ne_zero ((List.getElem?_eq_some.mp hk).1) (hc ▸ (h.reserved j hj e he).1)
  · show w ∈ u.gpuResidentPages ↔ w ∈ u.gpuResidentPages ∧ ¬R w
    refine ⟨fun hl => ⟨hl, fun hw' => ?_⟩, And.left⟩
    obtain ⟨e, he, hg⟩ := (h.consistent.device.ledger w).mp hl
    obtain ⟨j, hj, rfl⟩ := hw'
    rw [hu j hj] at he
    exact (h.consistent.device.resident _ e he).mp hg (h.reserved j hj e he).1

/-! ## The prefetch loop -/

theorem lookupEntry_migrateCpuToGpu_ne {pt : PageTable} {v w : Nat} (h : w ≠ v) (c : Address) (g : Nat) :
    (migrateCpuToGpu pt v c g).lookupEntry w = pt.lookupEntry w := by
  unfold migrateCpuToGpu
  split_ifs
  · rfl
  · simp [h]

/-- The migration after `set_gpu_resident` writes what it already holds. -/
theorem views_migrateCpuToGpu (pt : PageTable) (v : VirtualPageNumber) (c : Address) (g : Nat) :
    (migrateCpuToGpu (pt.setGpuResident v g) v c g).hostView = pt.hostView ∧
      (migrateCpuToGpu (pt.setGpuResident v g) v c g).deviceView = (pt.setGpuResident v g).deviceView := by
  unfold migrateCpuToGpu
  split_ifs
  · exact ⟨PageTable.hostView_setGpuResident pt v g, rfl⟩
  · constructor
    · apply (PageTable.hostView_modifyEntry _).trans (PageTable.hostView_setGpuResident pt v g)
      exact fun _ _ => ⟨rfl, rfl⟩
    apply PageTable.deviceView_modifyEntry
    intro e he
    rw [PageTable.setGpuResident, PageTable.lookupEntry_modifyEntry, if_pos rfl] at he
    obtain ⟨e₀, -, rfl⟩ := Option.map_eq_some'.mp he
    exact ⟨rfl, rfl⟩

/-- The prefetch loop of `allocate` from `s`, after `i` of the `n` pages from
`vs`: the host side is untouched, and the entries not yet visited hold no
device slot. -/
structure PrefetchLoop (s : VirtualMemoryManager) (vs n i : Nat) (u : VirtualMemoryManager) : Prop where
  consistent : u.Consistent
  shaped : u.allocator.Shaped
  config : u.allocator.config = s.allocator.config
  hostView : u.pageTable.hostView = s.pageTable.hostView
  nextVpn : u.nextVpn = s.nextVpn
  pending : ∀ j, i ≤ j → j < n → ∃ e, u.pageTable.lookupEntry (vs + j) = some e ∧ e.gpuAddress = 0

theorem PrefetchLoop.step {vs : Nat} (h : PrefetchLoop s vs n i u) (hi : i < n) {j : Nat} {p : SlotPool}
    (ht : u.allocator.gpu.take = some (j, p)) (c : Address) (pc : PerfCounters) :
    PrefetchLoop s vs n (i + 1)
      { u with
        allocator := { u.allocator with gpu := p }
        pageTable := migrateCpuToGpu (u.pageTable.setGpuResident (vs + i) (u.allocator.gpuSlot j)) (vs + i) c
          (u.allocator.gpuSlot j)
        gpuResidentPages := insert (vs + i) u.gpuResidentPages
        perfCounters := pc } := by
  obtain ⟨e, he, hg⟩ := h.pending i le_rfl hi
  have hc : Consistent { u with
      allocator := { u.allocator with gpu := p }
      pageTable := u.pageTable.setGpuResident (vs + i) (u.allocator.gpuSlot j)
      gpuResidentPages := insert (vs + i) u.gpuResidentPages } :=
    ⟨h.consistent.host.setGpuResident _ _, h.consistent.device.assign h.shaped he hg ht⟩
  obtain ⟨hhv, hdv⟩ := views_migrateCpuToGpu u.pageTable (vs + i) c (u.allocator.gpuSlot j)
  refine ⟨hc.of_same ⟨hhv.trans (PageTable.hostView_setGpuResident _ _ _).symm, hdv, rfl, rfl, rfl⟩,
    h.shaped.of_lengths rfl rfl rfl (by simp [(SlotPool.take_spec ht).2]), h.config, hhv.trans h.hostView,
    h.nextVpn, fun j' hj' hj'' => ?_⟩
  rw [lookupEntry_migrateCpuToGpu_ne (by omega)]
  simp only [PageTable.setGpuResident, PageTable.lookupEntry_modifyEntry, if_neg (show vs + j' ≠ vs + i by omega)]
  exact h.pending j' (by omega) hj''

/-- The prefetch loop keeps its invariant to the end. -/
theorem prefetchGpuPages_spec {vs : Nat} (cp : List Address) (hn : vs + n < 2 ^ 64) :
    ∀ (k i : Nat) (u : VirtualMemoryManager), i + k = n → PrefetchLoop s vs n i u →
      PrefetchLoop s vs n n (prefetchGpuPages vs cp i k u)
  | 0, i, u, hik, h => by
    simp only [prefetchGpuPages]
    exact (Nat.add_zero i ▸ hik) ▸ h
  | k + 1, i, u, hik, h => by
    cases ht : u.allocator.gpu.take with
    | none =>
      simp only [prefetchGpuPages, PageAllocator.allocateGpuPage_of_full ht, if_true]
      exact prefetchGpuPages_spec cp hn k (i + 1) u (by omega)
        { h with pending := fun j hj hj' => h.pending j (by omega) hj' }
    | some r =>
      obtain ⟨j, p⟩ := r
      simp only [prefetchGpuPages, PageAllocator.allocateGpuPage_of_take ht,
        if_neg (h.shaped.gpuSlot_ne_zero (SlotPool.take_lt_length ht)),
        u64_add_of_lt hn (show i ≤ n by omega)]
      exact prefetchGpuPages_spec cp hn k (i + 1) _ (by omega) (h.step (by omega) ht _ _)

/-- After the host loop, the prefetch loop may start from any page: none of
the reserved entries holds a device slot. -/
theorem HostLoop.prefetchStart (h : HostLoop s n n pages u) (i : Nat) :
    PrefetchLoop u s.nextVpn n i u :=
  ⟨h.consistent, h.shaped, rfl, rfl, rfl, fun j _ hj => by
    obtain ⟨e, he, -, hg⟩ := h.taken j hj
    exact ⟨e, he, hg⟩⟩

/-- Every entry after the host loop is host-backed and below the reserved range's end. -/
theorem HostLoop.lookup_backed (h : HostLoop s n n pages u) (hw : s.Wf) {w : Nat} {e : PageTableEntry}
    (he : u.pageTable.lookupEntry w = some e) : e.cpuAddress ≠ 0 ∧ w < s.nextVpn + n := by
  by_cases hw' : w < s.nextVpn ∨ w ≥ s.nextVpn + n
  · rw [h.outside w hw'] at he
    exact ⟨hw.hostBacked w e he, by have := hw.below w e he; omega⟩
  · obtain ⟨e', he', hc, -⟩ := h.taken (w - s.nextVpn) (by omega)
    rw [Nat.add_sub_cancel' (by omega), he] at he'
    cases he'
    exact ⟨hc, by omega⟩

/-- The end of a successful `allocate`: the map records the base and
`next_vpn_` moves past the range. -/
theorem HostLoop.finish (h : HostLoop s n n pages u) (hw : s.Wf) (hn : s.nextVpn + n < 2 ^ 64)
    {t : VirtualMemoryManager} (ht : PrefetchLoop u s.nextVpn n n t) (m : Finmap fun _ : Address => VirtualPageNumber) :
    Consistent { t with vaddrToVpnMap := m, nextVpn := u64 (t.nextVpn + n) } ∧
      Wf { t with vaddrToVpnMap := m, nextVpn := u64 (t.nextVpn + n) } := by
  have hv : u64 (t.nextVpn + n) = s.nextVpn + n := by rw [ht.nextVpn, h.nextVpn, u64_add_of_lt hn le_rfl]
  refine ⟨⟨ht.consistent.host, ht.consistent.device⟩, ht.shaped, by rw [ht.config, h.config]; exact hw.sameSize,
    fun w e he => ?_, fun w e he => ?_⟩
  · obtain ⟨e', he', -, hc⟩ := PageTable.exists_of_hostView ht.hostView he
    exact hc ▸ (h.lookup_backed hw he').1
  · obtain ⟨e', he', -⟩ := PageTable.exists_of_hostView ht.hostView he
    show w < u64 (t.nextVpn + n)
    rw [hv]; exact (h.lookup_backed hw he').2

/-- `allocate` keeps the invariant when the VPNs it reserves stay below `2 ^ 64`. -/
theorem allocate_consistent {s : VirtualMemoryManager} (h : s.Consistent) (hw : s.Wf) (bytes : Nat) (pf : Bool)
    (hn : s.nextVpn + u32 (alignToPage bytes s.config.pageSize / s.config.pageSize) < 2 ^ 64) :
    (s.allocate bytes pf).2.Consistent ∧ (s.allocate bytes pf).2.Wf := by
  unfold allocate
  by_cases hi : (!s.initialized) = true
  · rw [if_pos hi]; exact ⟨h, hw⟩
  rw [if_neg hi]
  dsimp only
  generalize u32 (alignToPage bytes s.config.pageSize / s.config.pageSize) = n at hn ⊢
  obtain ⟨hr, -⟩ := allocateVpnRange_of_below hw.below hn.le
  have hloop := allocateCpuPages_spec hn n 0 [] _ (Nat.zero_add n) (HostLoop.start h hw hn)
  rw [if_neg (by simp [hr])]
  split
  · rename_i pages u heq
    rw [heq] at hloop
    obtain ⟨i, hl⟩ := hloop
    exact hl.rollback hw hn
  · rename_i pages u heq
    rw [heq] at hloop
    refine hloop.finish hw hn ?_ _
    split_ifs
    · exact prefetchGpuPages_spec pages hn n 0 u (Nat.zero_add n) (hloop.prefetchStart 0)
    · exact hloop.prefetchStart n

end VirtualMemoryManager

end UvmSim
