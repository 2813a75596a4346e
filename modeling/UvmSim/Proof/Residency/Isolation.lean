import UvmSim.Proof.Interfaces
import UvmSim.Proof.Residency.Run

/-!
# Pages do not share bytes

`read_from_vaddr` and `write_to_vaddr` `memcpy` at the host address of the
page's entry, `bytes` bytes from its start, with no bound but the host pool.
Under the residency invariant the host addresses of two VPNs are distinct
slots of the host pool, so they lie at least a page apart
(`Consistent.cpuAddress_apart`). A write of at most a page to one VPN thus
leaves every byte that a read of at most a page from another VPN returns.
The code does not check `bytes` against the page size: past a page, the
`memcpy` runs into the next slot.

* `writeToVaddr_eq`: under the invariant, a write changes nothing or copies
  its buffer to the host slot of its VPN and marks the entry dirty;
* `write_keeps_other_pages`: in every state reached without a VPN wrap, a
  write of at most a page changes no read of at most a page of another VPN.
-/

namespace UvmSim

namespace VirtualMemoryManager

variable {s t : VirtualMemoryManager}

/-- The host slots of two VPNs lie a page apart. -/
theorem Consistent.cpuAddress_apart (h : s.Consistent) (hw : s.Wf) {v w : VirtualPageNumber}
    {e e' : PageTableEntry} (he : s.pageTable.lookupEntry v = some e) (he' : s.pageTable.lookupEntry w = some e')
    (hvw : v ≠ w) :
    s.allocator.config.pageSize + e.cpuAddress ≤ e'.cpuAddress ∨
      s.allocator.config.pageSize + e'.cpuAddress ≤ e.cpuAddress := by
  have hv : s.pageTable.cpuAddresses v = some e.cpuAddress := by simp [PageTable.cpuAddresses, he]
  have hw' : s.pageTable.cpuAddresses w = some e'.cpuAddress := by simp [PageTable.cpuAddresses, he']
  obtain ⟨i, -, hi⟩ := h.host.slots.owned v _ hv (hw.hostBacked v e he)
  obtain ⟨j, -, hj⟩ := h.host.slots.owned w _ hw' (hw.hostBacked w e' he')
  have hij : i ≠ j := fun hij => hvw (h.host.slots.unique v w _ hv (by rw [hw', hi, hj, hij])
    (hw.hostBacked v e he))
  rw [hi, hj]
  exact (Nat.lt_or_gt_of_ne hij).imp s.allocator.cpuSlot_add_le s.allocator.cpuSlot_add_le

/-- Under the invariant a write changes nothing, or copies its buffer to the
host slot of its VPN's entry and marks the entry dirty. -/
theorem writeToVaddr_eq (h : s.Consistent) (hw : s.Wf) {a : Address} {buf : Buffer} {n : Nat}
    (hr : s.writeToVaddr a buf n = some t) :
    t = s ∨ ∃ l e, buf = some l ∧ s.pageTable.lookupEntry (vaddrToVpn a s.config.pageSize) = some e ∧
      t = { s with
        memory := fun x => if e.cpuAddress ≤ x ∧ x < e.cpuAddress + n then l.getD (x - e.cpuAddress) 0 else s.memory x
        pageTable := s.pageTable.modifyEntry (vaddrToVpn a s.config.pageSize) fun e => { e with isDirty := true } } := by
  unfold writeToVaddr at hr
  split at hr
  · exact .inl (Option.some.inj hr).symm
  rename_i l
  split_ifs at hr
  · exact .inl (Option.some.inj hr).symm
  simp only [hostEntry_of_consistent h hw, Option.bind_eq_bind, Option.some_bind] at hr
  split at hr
  · rename_i e he
    split_ifs at hr
    · exact .inl (Option.some.inj hr).symm
    · exact .inr ⟨l, e, rfl, he, (Option.some.inj hr).symm⟩
  · exact .inl (Option.some.inj hr).symm

/-- Under the invariant, what a read returns depends only on the lifecycle
flag, the page size, the bounds of the host pool, the host address of its
VPN's entry and the bytes it copies from there. -/
theorem readFromVaddr_congr (hs : s.Consistent) (hws : s.Wf) (ht : t.Consistent) (hwt : t.Wf)
    (hi : t.initialized = s.initialized) (hc : t.config = s.config) (hp : t.allocator.cpuPool = s.allocator.cpuPool)
    (ha : t.allocator.config = s.allocator.config) {b : Address}
    (hl : t.pageTable.cpuAddresses (vaddrToVpn b s.config.pageSize) =
      s.pageTable.cpuAddresses (vaddrToVpn b s.config.pageSize)) {m : Nat}
    (hmem : ∀ c, s.pageTable.cpuAddresses (vaddrToVpn b s.config.pageSize) = some c →
      ∀ k < m, t.memory (c + k) = s.memory (c + k)) (out : Buffer) :
    (t.readFromVaddr b out m).map (·.1) = (s.readFromVaddr b out m).map (·.1) := by
  unfold readFromVaddr
  split
  · rfl
  simp only [hi, hc, hostEntry_of_consistent hs hws, hostEntry_of_consistent ht hwt, Option.bind_eq_bind,
    Option.some_bind]
  split_ifs
  · rfl
  simp only [PageTable.cpuAddresses] at hl hmem
  cases he : s.pageTable.lookupEntry (vaddrToVpn b s.config.pageSize) with
  | none => rw [he, Option.map_none', Option.map_eq_none'] at hl; rw [hl]; rfl
  | some e =>
    rw [he] at hl hmem
    obtain ⟨e', he', hce⟩ := Option.map_eq_some'.mp hl
    simp only [he', inHostPool, hp, ha, hce]
    split_ifs with h0 h1
    · rfl
    · simp only [Option.map_some', Option.some.injEq, List.append_left_inj]
      exact List.map_congr_left fun k hk => hmem _ rfl k (List.mem_range.mp hk)
    · rfl

end VirtualMemoryManager

open VirtualMemoryManager in
/-- In every state reached without a VPN wrap, while the manager is
initialized: a write of at most a page through any address changes nothing
that a read of at most a page through an address of another VPN returns. -/
theorem write_keeps_other_pages {s t : VirtualMemoryManager} (h : ReachableNoWrap s) (hi : s.initialized = true)
    {a b : Address} (hab : vaddrToVpn a s.config.pageSize ≠ vaddrToVpn b s.config.pageSize) {buf : Buffer}
    {n : Nat} (hn : n ≤ s.config.pageSize) (hwr : s.writeToVaddr a buf n = some t) (out : Buffer) {m : Nat}
    (hm : m ≤ s.config.pageSize) :
    (t.readFromVaddr b out m).map (·.1) = (s.readFromVaddr b out m).map (·.1) := by
  obtain ⟨hc, hw⟩ := h.runInv.1 hi
  have hP := (h.reachable.allocator_of_initialized hi).2
  obtain ⟨hct, hwt⟩ : t.Consistent ∧ t.Wf := by
    have hs := writeToVaddr_sameResidency hc hw hwr
    exact ⟨hc.of_same hs, hw.of_same hs⟩
  rcases writeToVaddr_eq hc hw hwr with rfl | ⟨l, e, rfl, he, rfl⟩
  · rfl
  refine readFromVaddr_congr hc hw hct hwt rfl rfl rfl rfl (by simp [PageTable.cpuAddresses, Ne.symm hab])
    (fun c hc' k hk => ?_) out
  obtain ⟨e', he', rfl⟩ := Option.map_eq_some'.mp hc'
  have := hc.cpuAddress_apart hw he he' hab
  refine if_neg fun hx => ?_
  dsimp only [Address] at this hx
  omega

open VirtualMemoryManager in
/-- Two pages allocated at `0` and `4096`: two bytes written through `4096`
leave what two bytes read through `100` return. -/
theorem write_spares_neighbouring_page :
    ∃ s t, (fresh fun _ => 0).run [.init smallConfig 0x10000, .allocate 8192 false] = some s ∧
      s.writeToVaddr 4096 (some [7, 7]) 2 = some t ∧
      (t.readFromVaddr 100 (some [0, 0]) 2).map (·.1) = (s.readFromVaddr 100 (some [0, 0]) 2).map (·.1) := by
  have h : ((fresh fun _ => 0).step (.init smallConfig 0x10000)).map (fun s =>
      (s.noWrap (.allocate 8192 false), (s.step (.allocate 8192 false)).map fun t =>
        decide (t.initialized = true ∧ vaddrToVpn 4096 t.config.pageSize ≠ vaddrToVpn 100 t.config.pageSize ∧
          2 ≤ t.config.pageSize ∧ (t.writeToVaddr 4096 (some [7, 7]) 2).isSome))) = some (true, some true) := by
    decide
  obtain ⟨s₁, hs₁, h⟩ := Option.map_eq_some'.mp h
  simp only [Prod.mk.injEq, Option.map_eq_some', decide_eq_true_eq] at h
  obtain ⟨hn, s₂, hs₂, hi, hab, h2, hw⟩ := h
  obtain ⟨t, ht⟩ := Option.isSome_iff_exists.mp hw
  exact ⟨s₂, t, by simp [run, hs₁, hs₂], ht,
    write_keeps_other_pages (.step (.step (.fresh _) (by rfl) hs₁) hn hs₂) hi hab h2 ht (some [0, 0]) h2⟩

end UvmSim
