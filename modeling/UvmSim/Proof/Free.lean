import UvmSim.Impl.Access

/-!
# What `free` releases

`free_lookupEntry`: `free(vaddr)` erases the entries of `freeCount` VPNs
from the VPN `vaddr` maps to, and no other; `freeCount` counts every valid
entry at or above that VPN, whichever allocation it belongs to. So freeing
an allocation also erases every later allocation's entries and releases
their host slots, while their base addresses stay mapped
(`free_releases_later_allocation`).
-/

namespace UvmSim

namespace VirtualMemoryManager

/-- A field that every step of a fold keeps is kept by the fold. -/
theorem foldlM_keep {α β : Type} (get : VirtualMemoryManager → β)
    {f : VirtualMemoryManager → α → Option VirtualMemoryManager}
    (hf : ∀ s a s', f s a = some s' → get s' = get s) :
    ∀ (l : List α) {s s' : VirtualMemoryManager}, l.foldlM f s = some s' → get s' = get s
  | [], _, _, h => by cases h; rfl
  | a :: l, s, s', h => by
    simp only [List.foldlM_cons, Option.bind_eq_bind, Option.bind_eq_some] at h
    obtain ⟨t, ht, hl⟩ := h
    rw [foldlM_keep get hf l hl, hf s a t ht]

theorem freePage_pageTable {s s' : VirtualMemoryManager} {v : VirtualPageNumber}
    (h : s.freePage v = some s') : s'.pageTable = s.pageTable := by
  simp only [freePage, Option.map_eq_some'] at h
  obtain ⟨_, -, rfl⟩ := h
  rfl

theorem free_lookupEntry {s s' : VirtualMemoryManager} {vaddr : Address} {vpnStart : VirtualPageNumber}
    (hs : s.initialized = true) (hm : s.vaddrToVpnMap.lookup vaddr = some vpnStart)
    (h : s.free vaddr = some s') (w : VirtualPageNumber) :
    s'.pageTable.lookupEntry w =
      if ∃ i < s.freeCount vpnStart, u64 (vpnStart + i) = w then none else s.pageTable.lookupEntry w := by
  simp only [free, hs, Bool.not_true, Bool.false_eq_true, if_false, hm, Option.map_eq_some'] at h
  obtain ⟨t, ht, rfl⟩ := h
  rw [PageTable.lookupEntry_deallocateVpnRange,
    foldlM_keep (·.pageTable) (fun _ _ _ => freePage_pageTable) _ ht]

end VirtualMemoryManager

/-- The configuration of the runs of this development: 4 KiB pages, three
of them in each pool, a TLB of two sets. -/
def smallConfig : VMConfig :=
  { pageSize := 4096, virtualAddressSpace := 65536, gpuMemory := 12288, tlbSize := 4, tlbAssociativity := 2 }

open VirtualMemoryManager in
/-- Three one-page allocations (VPNs 0, 1, 2 at `0`, `4096`, `8192`) and the
release of the one at `4096`: VPN 2's entry is erased and its host slot
released too, while `8192` still maps to VPN 2. -/
theorem free_releases_later_allocation :
    ((fresh fun _ => 0).run
      [.init smallConfig 0x10000,
       .allocate 4096 false, .allocate 4096 false, .allocate 4096 false, .free 4096]).map
      (fun s => (s.pageTable.lookupEntry 2, s.allocator.cpu.bitmap, s.vaddrToVpnMap.lookup 8192)) =
      some (none, [true, false, false], some 2) := by
  decide

end UvmSim
