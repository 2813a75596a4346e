import UvmSim.Proof.Free

/-!
# What `allocate` returns

`allocate` reserves `num_pages` VPNs from `next_vpn_` and returns
`vpn_to_vaddr(vpn_start)`, with no check that it is not null or not taken.

* `zero_byte_allocation_shares_address`: `allocate(0)` reserves nothing and
  returns, and maps, the address of the next VPN, the one the next
  allocation will return.
* `first_allocation_returns_null`: the first allocation after `initialize`
  gets VPN 0, whose address is `nullptr`, although its page, its host slot,
  its map entry and `next_vpn_` are committed.
* `allocate_size_wraps`: `allocate` reads `bytes` only through the page
  count it keeps in a `uint32_t`, so a request of `2 ^ 32` pages or more
  reserves the count modulo `2 ^ 32`, and one within a page of `2 ^ 64`
  bytes, whose rounding wraps, is `allocate(0)`.
-/

namespace UvmSim

namespace VirtualMemoryManager

/-- The page count `allocate` computes from `bytes`: the pages of the
request modulo `2 ^ 32`, and none when `bytes + page_size - 1` wraps. -/
theorem u32_alignToPage_div {bytes P : Nat} (hP : 0 < P) (hb : bytes < 2 ^ 64) (hP' : P ≤ 2 ^ 64) :
    u32 (alignToPage bytes P / P) = if bytes + P - 1 < 2 ^ 64 then (bytes + P - 1) / P % 2 ^ 32 else 0 := by
  unfold alignToPage u32 u64
  split_ifs with h
  · rw [Nat.mod_eq_of_lt h, Nat.mul_div_cancel _ hP]
  · have hlt : (bytes + P - 1) % 2 ^ 64 < P := by
      rw [Nat.mod_eq_sub_mod (by omega), Nat.mod_eq_of_lt (by omega)]; omega
    rw [Nat.div_eq_of_lt hlt, Nat.zero_mul, Nat.zero_div, Nat.zero_mod]

/-- Two requests of one page count are one request. -/
theorem allocate_congr {s : VirtualMemoryManager} {b₁ b₂ : Nat} (p : Bool)
    (h : u32 (alignToPage b₁ s.config.pageSize / s.config.pageSize) =
      u32 (alignToPage b₂ s.config.pageSize / s.config.pageSize)) :
    s.allocate b₁ p = s.allocate b₂ p := by
  simp only [allocate, h]

end VirtualMemoryManager

open VirtualMemoryManager in
/-- For every manager whose page size fits in a `uint32_t` and every
`size_t` request: `allocate(bytes)` is the allocation of the request's page
count modulo `2 ^ 32`, or `allocate(0)` when rounding `bytes` up to a page
wraps. -/
theorem allocate_size_wraps (s : VirtualMemoryManager) (p : Bool) {bytes : Nat} (hP : 0 < s.config.pageSize)
    (hP' : s.config.pageSize ≤ 2 ^ 32) (hb : bytes < 2 ^ 64) :
    s.allocate bytes p = s.allocate (if bytes + s.config.pageSize - 1 < 2 ^ 64 then
      (bytes + s.config.pageSize - 1) / s.config.pageSize % 2 ^ 32 * s.config.pageSize else 0) p := by
  refine allocate_congr p ?_
  rw [u32_alignToPage_div hP hb (by omega)]
  split_ifs with h
  · generalize hk : (bytes + s.config.pageSize - 1) / s.config.pageSize % 2 ^ 32 = k
    have hk' : k < 2 ^ 32 := hk ▸ Nat.mod_lt _ (by decide)
    have hkP : k * s.config.pageSize ≤ (2 ^ 32 - 1) * 2 ^ 32 := Nat.mul_le_mul (by omega) hP'
    rw [u32_alignToPage_div hP (by omega) (by omega), if_pos (by omega),
      show k * s.config.pageSize + s.config.pageSize - 1 = s.config.pageSize * k + (s.config.pageSize - 1) by
        rw [Nat.mul_comm]; omega,
      Nat.mul_add_div hP, Nat.div_eq_of_lt (by omega), Nat.add_zero, Nat.mod_eq_of_lt hk']
  · simp [u32]

open VirtualMemoryManager in
/-- `allocate(SIZE_MAX)` after `initialize` with 4 KiB pages is `allocate(0)`. -/
theorem max_size_allocation_is_empty :
    ∃ s, (fresh fun _ => 0).run [.init smallConfig 0x10000] = some s ∧
      s.allocate (2 ^ 64 - 1) false = s.allocate 0 false := by
  have h : ((fresh fun _ => 0).run [.init smallConfig 0x10000]).map (·.config.pageSize) = some 4096 := by decide
  obtain ⟨s, hs, hp⟩ := Option.map_eq_some'.mp h
  refine ⟨s, hs, ?_⟩
  have := @allocate_size_wraps s false (2 ^ 64 - 1) (by omega) (by omega) (by decide)
  rwa [hp, if_neg (by decide)] at this

open VirtualMemoryManager in
/-- After a one-page allocation at `0`, `allocate(0)` returns `4096`, and so
does the one-page allocation after it. -/
theorem zero_byte_allocation_shares_address :
    ((fresh fun _ => 0).init smallConfig 0x10000).map
      (fun s =>
        let z := (s.allocate 4096 false).2.allocate 0 false
        (z.1, (z.2.allocate 4096 false).1)) = some (4096, 4096) := by
  decide

open VirtualMemoryManager in
/-- The first allocation after `initialize` returns `nullptr` although VPN 0
got its host-resident entry and its host slot, `0` is mapped to it and
`next_vpn_` moved on. -/
theorem first_allocation_returns_null :
    ((fresh fun _ => 0).init smallConfig 0x10000).map
      (fun s =>
        let a := s.allocate 4096 false
        (a.1, (a.2.pageTable.lookupEntry 0).map (·.residentOnCpu), a.2.allocator.cpu.bitmap,
          a.2.vaddrToVpnMap.lookup 0, a.2.nextVpn)) =
      some (0, some true, [true, false, false], some 0, 1) := by
  decide

end UvmSim
