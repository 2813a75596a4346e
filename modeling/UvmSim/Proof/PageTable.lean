import UvmSim.Impl.PageTable

/-!
# What `allocate_vpn_range` does

`allocate_vpn_range(vpn_start, n)` walks the VPNs `vpn_start + j` (in
`uint64_t`) in order and stops at the first that has an entry, live or not.
With `d` the number of VPNs before it (`d = n` when none has one), the call
returns whether `d = n`, and the entries are the old ones plus a fresh valid
entry for each of those `d` VPNs (`allocateVpnRangeFrom_spec`). So it
succeeds exactly when no VPN of the range has an entry, and then adds the
whole range; when it fails, the entries it added before the collision stay.

* `failed_range_keeps_entries`: a call that fails at its second VPN leaves a
  new entry at its first, and a VPN whose only entry is the non-valid one
  `get_entry` inserted is refused.
-/

namespace UvmSim

/-- The VPNs of one range, fewer than `2 ^ 64` apart, are distinct in
`uint64_t`. -/
theorem u64_add_inj {vs a b : Nat} (ha : a < 2 ^ 64) (hb : b < 2 ^ 64) (h : u64 (vs + a) = u64 (vs + b)) :
    a = b := by
  unfold u64 at h; omega

namespace PageTable

/-- The loop of `allocate_vpn_range` from its `i`-th VPN, with `k` left: it
adds fresh entries at the `d` VPNs before the first that has an entry. -/
theorem allocateVpnRangeFrom_spec (vs : Nat) : ∀ (k i : Nat) (m : EntryMap), i + k ≤ 2 ^ 64 →
    ∃ d ≤ k, (∀ j < d, u64 (vs + (i + j)) ∉ m) ∧ (d < k → u64 (vs + (i + d)) ∈ m) ∧
      (allocateVpnRangeFrom vs i k m).1 = decide (d = k) ∧
      ∀ w, (allocateVpnRangeFrom vs i k m).2.lookup w =
        if ∃ j < d, u64 (vs + (i + j)) = w then some { isValid := true } else m.lookup w
  | 0, i, m, _ => ⟨0, le_rfl, fun j hj => absurd hj (Nat.not_lt_zero j), fun h => absurd h (lt_irrefl 0), rfl,
      fun w => by simp [allocateVpnRangeFrom]⟩
  | k + 1, i, m, hk => by
    by_cases hm : u64 (vs + i) ∈ m
    · refine ⟨0, Nat.zero_le _, fun j hj => absurd hj (Nat.not_lt_zero j), fun _ => by simpa using hm, ?_, ?_⟩
      all_goals simp [allocateVpnRangeFrom, hm]
    obtain ⟨d, hd, hfree, hcol, h1, h2⟩ :=
      allocateVpnRangeFrom_spec vs k (i + 1) (m.insert (u64 (vs + i)) { isValid := true }) (by omega)
    have hshift : ∀ j, i + 1 + j = i + (j + 1) := fun j => by omega
    -- the VPN inserted first is none of the later ones
    have hne : ∀ j < k, u64 (vs + (i + (j + 1))) ≠ u64 (vs + i) := fun j hj h => by
      have := u64_add_inj (a := i + (j + 1)) (b := i) (by omega) (by omega) h
      omega
    refine ⟨d + 1, by omega, fun j hj => ?_, fun hdk => ?_, ?_, fun w => ?_⟩
    · rcases j with _ | j
      · simpa using hm
      · have := hfree j (by omega)
        rw [Finmap.mem_insert, not_or, hshift] at this
        exact this.2
    · have := hcol (by omega)
      rw [Finmap.mem_insert, hshift] at this
      exact this.resolve_left (hne d (by omega))
    · simp [allocateVpnRangeFrom, hm, h1]
    · rw [allocateVpnRangeFrom, if_neg hm, h2]
      simp only [hshift, Nat.exists_lt_succ_left, Nat.add_zero]
      by_cases hw : u64 (vs + i) = w
      · subst hw; simp
      · simp [hw, Finmap.lookup_insert_of_ne _ (Ne.symm hw)]

/-- `allocate_vpn_range(vs, n)`: the first `d` VPNs of the range have no
entry and the next one, if `d < n`, has one; the call returns whether
`d = n`, and adds a fresh valid entry at each of the `d`. -/
theorem allocateVpnRange_spec (pt : PageTable) (vs : VirtualPageNumber) {n : Nat} (hn : n ≤ 2 ^ 64) :
    ∃ d ≤ n, (∀ j < d, pt.lookupEntry (u64 (vs + j)) = none) ∧
      (d < n → pt.lookupEntry (u64 (vs + d)) ≠ none) ∧ (pt.allocateVpnRange vs n).1 = decide (d = n) ∧
      ∀ w, (pt.allocateVpnRange vs n).2.lookupEntry w =
        if ∃ j < d, u64 (vs + j) = w then some { isValid := true } else pt.lookupEntry w := by
  obtain ⟨d, hd, hfree, hcol, h1, h2⟩ := allocateVpnRangeFrom_spec vs n 0 pt.entries (by omega)
  simp only [Nat.zero_add] at hfree hcol h2
  exact ⟨d, hd, fun j hj => Finmap.lookup_eq_none.mpr (hfree j hj),
    fun hdn => by simpa [lookupEntry, Finmap.lookup_eq_none] using hcol hdn, h1, fun w => h2 w⟩

end PageTable

/-- In a table of 16 pages of 4 KiB with an entry at VPN 1,
`allocate_vpn_range(0, 2)` fails at VPN 1 and keeps the entry it inserted at
VPN 0; and `allocate_vpn_range(5, 1)` after `get_entry(5)` fails, though the
only entry of VPN 5 is not valid. -/
theorem failed_range_keeps_entries :
    (PageTable.init 4096 65536).map (fun pt =>
      let pt₁ := (pt.allocateVpnRange 1 1).2
      let r := pt₁.allocateVpnRange 0 2
      (pt₁.lookupEntry 0, r.1, r.2.lookupEntry 0, ((pt.getEntry 5).2.lookupEntry 5).map (·.isValid),
        ((pt.getEntry 5).2.allocateVpnRange 5 1).1)) =
      some (none, false, some { isValid := true }, some false, false) := by
  decide

end UvmSim
