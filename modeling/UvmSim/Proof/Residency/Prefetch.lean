import UvmSim.Proof.Residency.RoundTrip
import UvmSim.Proof.Residency.NoEviction

/-!
# A prefetching `allocate` places every page on the device

The prefetch loop of `allocate` logs "Failed to allocate GPU page" and skips
a page when `allocate_gpu_page` finds the device pool full. Under the
residency invariant that branch is dead: every entry holds a host slot of its
own and the device pool is as large as the host pool, so an entry without a
device slot always finds a free one (`Consistent.gpu_take_eq_some`), also in
the middle of the loop, where the reserved entries lie above `next_vpn_`
(`PrefetchLoop.wf`).

* `prefetchGpuPages_places`: the loop gives a device slot to each of the
  pages it visits, and counts one migration and one prefetch for each;
* `prefetch_places_every_page`: from every state reached without a VPN wrap,
  a prefetching `allocate` with room in the host pool adds all its VPNs to
  the ledger and counts one migration and one prefetch per page.
-/

namespace UvmSim

theorem u64_u64_add (a b : Nat) : u64 (u64 a + b) = u64 (a + b) := Nat.mod_add_mod a _ b

namespace VirtualMemoryManager

variable {s u v : VirtualMemoryManager} {n i : Nat} {pages : List Address}

/-- In the middle of the prefetch loop the state, with `next_vpn_` moved past
the reserved range as `allocate` moves it at its end, satisfies `Wf`. -/
theorem PrefetchLoop.wf (hs : HostLoop s n n pages u) (hw : s.Wf) (hn : s.nextVpn + n < 2 ^ 64)
    (hv : PrefetchLoop u s.nextVpn n i v) : Wf { v with nextVpn := u64 (v.nextVpn + n) } :=
  (hs.finish hw hn { hv with pending := fun _ hj hj' => absurd hj' (by omega) } v.vaddrToVpnMap).2

/-- One turn of the prefetch loop under its invariant: the page gets a
device slot, enters the ledger, and counts one migration and one prefetch. -/
theorem PrefetchLoop.prefetchGpuPages_succ (hs : HostLoop s n n pages u) (hw : s.Wf) (hn : s.nextVpn + n < 2 ^ 64)
    (cp : List Address) {k : Nat} (hik : i + (k + 1) = n) (hv : PrefetchLoop u s.nextVpn n i v) :
    ∃ v', prefetchGpuPages s.nextVpn cp i (k + 1) v = prefetchGpuPages s.nextVpn cp (i + 1) k v' ∧
      PrefetchLoop u s.nextVpn n (i + 1) v' ∧ v'.gpuResidentPages = insert (s.nextVpn + i) v.gpuResidentPages ∧
      v'.perfCounters.cpuToGpuMigrations = u64 (v.perfCounters.cpuToGpuMigrations + 1) ∧
      v'.perfCounters.pagePrefetches = u64 (v.perfCounters.pagePrefetches + 1) := by
  obtain ⟨e, he, hg⟩ := hv.pending i le_rfl (by omega)
  have hc : Consistent { v with nextVpn := u64 (v.nextVpn + n) } := ⟨hv.consistent.host, hv.consistent.device⟩
  obtain ⟨j, p, ht⟩ := hc.gpu_take_eq_some (hv.wf hs hw hn) he hg
  replace ht : v.allocator.gpu.take = some (j, p) := ht
  simp only [prefetchGpuPages, PageAllocator.allocateGpuPage_of_take ht,
    if_neg (hv.shaped.gpuSlot_ne_zero (SlotPool.take_lt_length ht)), u64_add_of_lt hn (show i ≤ n by omega)]
  exact ⟨_, rfl, hv.step (by omega) ht _ _, rfl, by simp [PerfCounters.migrated], by simp [PerfCounters.migrated]⟩

/-- The prefetch loop from the `i`-th page puts every page it visits in the
ledger. -/
theorem prefetchGpuPages_ledger (hs : HostLoop s n n pages u) (hw : s.Wf) (hn : s.nextVpn + n < 2 ^ 64)
    (cp : List Address) :
    ∀ (k i : Nat) (v : VirtualMemoryManager), i + k = n → PrefetchLoop u s.nextVpn n i v → ∀ w : Nat,
      w ∈ (prefetchGpuPages s.nextVpn cp i k v).gpuResidentPages ↔
        w ∈ v.gpuResidentPages ∨ (w ≥ s.nextVpn + i ∧ w < s.nextVpn + n)
  | 0, i, v, hik, _, w => ⟨.inl, fun h => h.resolve_right (by omega)⟩
  | k + 1, i, v, hik, hv, w => by
    obtain ⟨v', heq, hv', hl, -, -⟩ := hv.prefetchGpuPages_succ hs hw hn cp hik
    rw [heq, prefetchGpuPages_ledger hs hw hn cp k (i + 1) v' (by omega) hv' w, hl, Finset.mem_insert]
    by_cases hm : w ∈ v.gpuResidentPages
    · simp [hm]
    · simp only [hm, or_false, false_or]
      omega

/-- The prefetch loop from the `i`-th page, `k + 1` pages left, counts
`k + 1` migrations and prefetches. -/
theorem prefetchGpuPages_counters (hs : HostLoop s n n pages u) (hw : s.Wf) (hn : s.nextVpn + n < 2 ^ 64)
    (cp : List Address) :
    ∀ (k i : Nat) (v : VirtualMemoryManager), i + (k + 1) = n → PrefetchLoop u s.nextVpn n i v →
      (prefetchGpuPages s.nextVpn cp i (k + 1) v).perfCounters.cpuToGpuMigrations =
        u64 (v.perfCounters.cpuToGpuMigrations + (k + 1)) ∧
      (prefetchGpuPages s.nextVpn cp i (k + 1) v).perfCounters.pagePrefetches =
        u64 (v.perfCounters.pagePrefetches + (k + 1))
  | 0, i, v, hik, hv => by
    obtain ⟨v', heq, -, -, hc, hp⟩ := hv.prefetchGpuPages_succ hs hw hn cp hik
    rw [heq]
    exact ⟨hc, hp⟩
  | k + 1, i, v, hik, hv => by
    obtain ⟨v', heq, hv', -, hc, hp⟩ := hv.prefetchGpuPages_succ hs hw hn cp hik
    obtain ⟨hc', hp'⟩ := prefetchGpuPages_counters hs hw hn cp k (i + 1) v' (by omega) hv'
    rw [heq, hc', hp', hc, hp, u64_u64_add, u64_u64_add]
    constructor <;> congr 1 <;> omega

end VirtualMemoryManager

open VirtualMemoryManager in
/-- In every state reached without a VPN wrap, while the manager is
initialized: a prefetching `allocate` of at least one page, with room for its
pages in the host pool and its VPNs below `2 ^ 64`, places every one of them
on the device. The ledger gains exactly its VPNs, and the manager counts one
migration to the device and one prefetch per page. -/
theorem prefetch_places_every_page {s : VirtualMemoryManager} (h : ReachableNoWrap s) (hi : s.initialized = true)
    (bytes : Nat) (hpos : 0 < u32 (alignToPage bytes s.config.pageSize / s.config.pageSize))
    (hroom : u32 (alignToPage bytes s.config.pageSize / s.config.pageSize) ≤ s.allocator.getAvailableCpuPages)
    (hn : s.nextVpn + u32 (alignToPage bytes s.config.pageSize / s.config.pageSize) < 2 ^ 64) :
    (∀ w : Nat, w ∈ (s.allocate bytes true).2.gpuResidentPages ↔ w ∈ s.gpuResidentPages ∨
      (w ≥ s.nextVpn ∧ w < s.nextVpn + u32 (alignToPage bytes s.config.pageSize / s.config.pageSize))) ∧
    (s.allocate bytes true).2.perfCounters.cpuToGpuMigrations =
      u64 (s.perfCounters.cpuToGpuMigrations + u32 (alignToPage bytes s.config.pageSize / s.config.pageSize)) ∧
    (s.allocate bytes true).2.perfCounters.pagePrefetches =
      u64 (s.perfCounters.pagePrefetches + u32 (alignToPage bytes s.config.pageSize / s.config.pageSize)) := by
  obtain ⟨hc, hw⟩ := h.runInv.1 hi
  have ha := (h.reachable.allocator_of_initialized hi).1
  generalize hnum : u32 (alignToPage bytes s.config.pageSize / s.config.pageSize) = n at hpos hroom hn ⊢
  obtain ⟨pages, u, hok, heq⟩ := allocate_eq_of_room hw ha hi true hnum hroom hn
  have hloop := allocateCpuPages_spec hn n 0 [] _ (Nat.zero_add n) (HostLoop.start hc hw hn)
  have hpc := allocateCpuPages_perfCounters s.nextVpn 0 n [] { s with pageTable := (s.pageTable.allocateVpnRange s.nextVpn n).2 }
  rw [hok] at hloop hpc
  dsimp only at hloop hpc
  rw [heq, if_pos rfl]
  obtain ⟨k, rfl⟩ : ∃ k, n = k + 1 := ⟨n - 1, by omega⟩
  obtain ⟨hcu, hpu⟩ := prefetchGpuPages_counters hloop hw hn pages k 0 u (Nat.zero_add _) (hloop.prefetchStart 0)
  refine ⟨fun w => ?_, by rw [hcu, hpc], by rw [hpu, hpc]⟩
  simpa [hloop.ledger] using prefetchGpuPages_ledger hloop hw hn pages (k + 1) 0 u (Nat.zero_add _) (hloop.prefetchStart 0) w

open VirtualMemoryManager in
/-- After a one-page allocation at VPN 0, a prefetching allocation of two
pages puts VPNs 1 and 2 on the device and counts two migrations. -/
theorem two_page_prefetch_places_both :
    ∃ s, (fresh fun _ => 0).run [.init smallConfig 0x10000, .allocate 4096 false] = some s ∧
      (∀ w : Nat, w ∈ (s.allocate 8192 true).2.gpuResidentPages ↔ w ∈ s.gpuResidentPages ∨ (w ≥ 1 ∧ w < 3)) ∧
      (s.allocate 8192 true).2.perfCounters.cpuToGpuMigrations = u64 (s.perfCounters.cpuToGpuMigrations + 2) ∧
      (s.allocate 8192 true).2.perfCounters.pagePrefetches = u64 (s.perfCounters.pagePrefetches + 2) := by
  have h : ((fresh fun _ => 0).step (.init smallConfig 0x10000)).map (fun s =>
      (s.noWrap (.allocate 4096 false), (s.step (.allocate 4096 false)).map fun t =>
        (t.initialized, t.nextVpn, u32 (alignToPage 8192 t.config.pageSize / t.config.pageSize),
          t.allocator.getAvailableCpuPages))) = some (true, some (true, 1, 2, 2)) := by
    decide
  obtain ⟨s₁, hs₁, h⟩ := Option.map_eq_some'.mp h
  simp only [Prod.mk.injEq, Option.map_eq_some'] at h
  obtain ⟨hn, s₂, hs₂, hi, hv, hp, ha⟩ := h
  have := prefetch_places_every_page (.step (.step (.fresh _) (by rfl) hs₁) hn hs₂) hi 8192 (by rw [hp]; decide)
    (by rw [hp, ha]) (by rw [hp, hv]; decide)
  rw [hp, hv] at this
  exact ⟨s₂, by simp [run, hs₁, hs₂], this⟩

end UvmSim
