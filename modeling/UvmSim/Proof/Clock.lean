import UvmSim.Proof.Policies

/-!
# The sweep and the hand of `CLOCKPolicy`

A turn of the sweep of `select_victim` on an entry with its reference bit
set clears the bit and moves the hand on, inside the vector
(`sweep_succ_of_set`, `countP_set_clear`); a turn on a clear bit returns.
So from a hand inside the vector, one turn more than there are set bits
returns a victim (`sweep_victim`), whatever the bits.

`on_page_allocated`, `on_page_access` and `on_page_freed` keep the hand on
an entry, or at `0` on an empty vector (`HandWithin`, `run_handWithin`);
from such a state `select_victim` reads only inside the vector
(`selectVictim_isSome`). `select_victim` itself erases the entry after its victim and moves the hand
onto the erased position, which is past the end when the victim was the
last but one entry.

* `sweep_returns_within_size_succ`: from a hand inside the vector, the sweep
  returns a victim within `size + 1` turns, and `select_victim` returns it:
  its fallback after the loop is not reached.
* `clock_hand_leaves_vector`: two allocations and a selection leave the hand
  past the end of a nonempty vector, and the next selection reads out of
  range.
* `clock_selection_in_range_before_first_selection`: before the first
  selection, the next `select_victim` always reads inside the vector.
-/

namespace UvmSim

namespace CLOCKPolicy

/-! ## The sweep -/

section Sweep

variable {fuel : Nat} {vec : List ClockEntry} {hand : Nat} {e : ClockEntry}

theorem sweep_succ_of_clear (he : vec[hand]? = some e) (hb : e.referenceBit = false) :
    sweep (fuel + 1) vec hand =
      some (.victim e.vpn (vec.eraseIdx ((hand + 1) % vec.length)) ((hand + 1) % vec.length)) := by
  simp [sweep, he, hb]

theorem sweep_succ_of_set (he : vec[hand]? = some e) (hb : e.referenceBit = true) :
    sweep (fuel + 1) vec hand =
      sweep fuel (vec.set hand { e with referenceBit := false }) ((hand + 1) % vec.length) := by
  simp [sweep, he, hb]

/-- A turn on a set bit clears it: one set bit fewer. -/
theorem countP_set_clear (he : vec[hand]? = some e) (hb : e.referenceBit = true) :
    (vec.set hand { e with referenceBit := false }).countP (·.referenceBit) + 1 =
      vec.countP (·.referenceBit) := by
  obtain ⟨hh, rfl⟩ := List.getElem?_eq_some_iff.mp he
  have := List.boole_getElem_le_countP (·.referenceBit) vec hand hh
  simp only [hb, if_true] at this
  rw [List.countP_set _ _ _ _ hh]
  simp [hb]
  omega

end Sweep

/-- With more turns than set bits, the sweep from a hand inside the vector
returns a victim. -/
theorem sweep_victim : ∀ (fuel : Nat) (vec : List ClockEntry) (hand : Nat), hand < vec.length →
    vec.countP (·.referenceBit) < fuel → ∃ v vec' hand', sweep fuel vec hand = some (.victim v vec' hand')
  | 0, _, _, _, hf => absurd hf (Nat.not_lt_zero _)
  | fuel + 1, vec, hand, hh, hf => by
    obtain ⟨e, he⟩ : ∃ e, vec[hand]? = some e := ⟨_, List.getElem?_eq_getElem hh⟩
    cases hb : e.referenceBit
    · exact ⟨_, _, _, sweep_succ_of_clear he hb⟩
    · rw [sweep_succ_of_set he hb]
      have := countP_set_clear he hb
      exact sweep_victim fuel _ _ (by rw [List.length_set]; exact Nat.mod_lt _ (by omega)) (by omega)

/-- A sweep that ends within `fuel` turns ends the same way with more. -/
theorem sweep_mono : ∀ {fuel fuel' : Nat} {vec : List ClockEntry} {hand : Nat} {r : SweepResult},
    fuel ≤ fuel' → sweep fuel vec hand = some r → sweep fuel' vec hand = some r
  | 0, _, _, _, _, _, h => by simp [sweep] at h
  | fuel + 1, fuel' + 1, vec, hand, r, hf, h => by
    unfold sweep at h ⊢
    split at h
    · exact h
    · split_ifs at h ⊢
      · exact h
      · exact sweep_mono (by omega) h

/-! ## The hand -/

/-- The hand is on an entry, or the vector is empty and the hand at its
start. -/
def HandWithin (vec : List ClockEntry) (hand : Nat) : Prop := hand < vec.length ∨ (vec = [] ∧ hand = 0)

theorem handWithin_wrapHand {vec : List ClockEntry} {hand : Nat} (h : hand ≤ vec.length) :
    HandWithin vec (wrapHand vec hand) := by
  unfold HandWithin wrapHand
  split_ifs with hw
  · exact .inl (List.length_pos.mpr hw.2)
  · rcases vec with _ | ⟨x, vec⟩
    · exact .inr ⟨rfl, by simpa using h⟩
    · simp only [List.length_cons] at h ⊢
      exact .inl (by simp at hw; omega)

theorem handWithin_evictOverflow (maxPages : Nat) :
    ∀ (fuel : Nat) (vec : List ClockEntry) (hand : Nat), HandWithin vec hand →
      HandWithin (evictOverflow maxPages fuel vec hand).1 (evictOverflow maxPages fuel vec hand).2
  | 0, _, _, h => h
  | fuel + 1, vec, hand, h => by
    unfold evictOverflow
    by_cases hm : maxPages < vec.length
    · rw [if_pos hm]
      refine handWithin_evictOverflow maxPages fuel _ _ (handWithin_wrapHand ?_)
      rw [List.length_eraseIdx]
      split_ifs <;> omega
    · rw [if_neg hm]; exact h

section Calls

variable {p : CLOCKPolicy}

theorem handWithin_onPageAccess (h : HandWithin p.clockHandVec p.handPos) (v : VirtualPageNumber) :
    HandWithin (p.onPageAccess v).clockHandVec (p.onPageAccess v).handPos := by
  unfold onPageAccess
  split
  · simpa [HandWithin] using h
  · exact h

theorem handWithin_onPageFreed (h : HandWithin p.clockHandVec p.handPos) (v : VirtualPageNumber) :
    HandWithin (p.onPageFreed v).clockHandVec (p.onPageFreed v).handPos := by
  unfold onPageFreed
  split
  · rename_i i hi
    refine handWithin_wrapHand ?_
    have := (List.findIdx?_eq_some_iff_getElem.mp hi).1
    rw [List.length_eraseIdx, if_pos this]
    rcases h with h | ⟨h, -⟩
    · omega
    · simp [h] at this
  · exact h

theorem handWithin_onPageAllocated (h : HandWithin p.clockHandVec p.handPos) (v : VirtualPageNumber) :
    HandWithin (p.onPageAllocated v).clockHandVec (p.onPageAllocated v).handPos := by
  refine handWithin_evictOverflow _ _ _ _ (.inl ?_)
  rw [List.length_append, List.length_singleton]
  rcases h with h | ⟨-, h⟩ <;> omega

/-- From a hand within the vector, `select_victim` reads and erases only
inside it. -/
theorem selectVictim_isSome (h : HandWithin p.clockHandVec p.handPos) : p.selectVictim.isSome := by
  by_cases hne : p.clockHandVec = []
  · simp [selectVictim, hne]
  have hh : p.handPos < p.clockHandVec.length := h.resolve_right fun h => hne h.1
  obtain ⟨v, vec, hand, hs⟩ := sweep_victim _ _ _ hh (Nat.lt_succ_self _)
  simp [selectVictim, hne, hs]

end Calls

/-- One call of the interface; `none` when `select_victim` reads out of
range. -/
def perform (p : CLOCKPolicy) : PolicyCall → Option CLOCKPolicy
  | .allocated v => some (p.onPageAllocated v)
  | .accessed v => some (p.onPageAccess v)
  | .freed v => some (p.onPageFreed v)
  | .selected => p.selectVictim.map (·.2)

def run (p : CLOCKPolicy) : List PolicyCall → Option CLOCKPolicy
  | [] => some p
  | c :: cs => (p.perform c).bind (·.run cs)

/-- Every call but `select_victim` keeps the hand within the vector. -/
theorem handWithin_perform {p : CLOCKPolicy} (h : HandWithin p.clockHandVec p.handPos) {c : PolicyCall}
    (hc : c ≠ .selected) : ∃ q, p.perform c = some q ∧ HandWithin q.clockHandVec q.handPos := by
  cases c with
  | allocated v => exact ⟨_, rfl, handWithin_onPageAllocated h v⟩
  | accessed v => exact ⟨_, rfl, handWithin_onPageAccess h v⟩
  | freed v => exact ⟨_, rfl, handWithin_onPageFreed h v⟩
  | selected => exact absurd rfl hc

/-- So does every run of such calls. -/
theorem run_handWithin : ∀ (cs : List PolicyCall) {p : CLOCKPolicy}, HandWithin p.clockHandVec p.handPos →
    (∀ c ∈ cs, c ≠ .selected) → ∃ q, p.run cs = some q ∧ HandWithin q.clockHandVec q.handPos
  | [], p, h, _ => ⟨p, rfl, h⟩
  | c :: cs, _, h, hc => by
    obtain ⟨p', hp', h'⟩ := handWithin_perform h (hc c (List.mem_cons_self _ _))
    obtain ⟨q, hq, hq'⟩ := run_handWithin cs h' fun c hm => hc c (List.mem_cons_of_mem _ hm)
    exact ⟨q, by simp [run, hp', hq], hq'⟩

end CLOCKPolicy

open CLOCKPolicy in
/-- From a nonempty vector with the hand inside it, the sweep of
`select_victim` returns a victim within `size + 1` turns (each turn that
does not return clears a set bit), and `select_victim` returns that victim:
the fallback after the loop is reached only from a hand at or past the end. -/
theorem sweep_returns_within_size_succ (p : CLOCKPolicy) (hh : p.handPos < p.clockHandVec.length) :
    ∃ v vec hand, sweep (p.clockHandVec.length + 1) p.clockHandVec p.handPos = some (.victim v vec hand) ∧
      p.selectVictim = some (v, { p with clockHandVec := vec, handPos := hand }) := by
  have hc := List.countP_le_length (p := (·.referenceBit)) (l := p.clockHandVec)
  obtain ⟨v, vec, hand, hs⟩ := sweep_victim _ _ _ hh (Nat.lt_succ_self _)
  refine ⟨v, vec, hand, sweep_mono (by omega) hs, ?_⟩
  have hne : p.clockHandVec ≠ [] := List.ne_nil_of_length_pos (by omega)
  simp [selectVictim, hne, hs]

/-- Two entries with their bits set, the hand on the first: the sweep clears
both and returns VPN 5 on its third turn. -/
theorem sweep_two_set_bits :
    ∃ v vec hand, CLOCKPolicy.sweep 3 [⟨5, true⟩, ⟨6, true⟩] 0 = some (.victim v vec hand) ∧
      (⟨[⟨5, true⟩, ⟨6, true⟩], 0, 100⟩ : CLOCKPolicy).selectVictim = some (v, ⟨vec, hand, 100⟩) :=
  sweep_returns_within_size_succ ⟨[⟨5, true⟩, ⟨6, true⟩], 0, 100⟩ (by decide)

/-- Allocating VPNs 5 and 6 and selecting a victim leaves one entry with the
hand at `1`, past the end; the next `select_victim` leaves its loop at once
and reads `clock_hand_vec_[1]`, out of range. -/
theorem clock_hand_leaves_vector :
    (CLOCKPolicy.new 100).run [.allocated 5, .allocated 6, .selected] = some ⟨[⟨5, false⟩], 1, 100⟩ ∧
      (CLOCKPolicy.new 100).run [.allocated 5, .allocated 6, .selected, .selected] = none := by
  decide

open CLOCKPolicy in
/-- From a new CLOCK policy, along any calls of `on_page_allocated`,
`on_page_access` and `on_page_freed`, the hand stays on an entry, so the
next `select_victim` never reads out of range: the read past the end in
`clock_hand_leaves_vector` needs a `select_victim` before it. -/
theorem clock_selection_in_range_before_first_selection (maxPages : Nat) (cs : List PolicyCall)
    (hc : ∀ c ∈ cs, c ≠ .selected) :
    ∃ q, (CLOCKPolicy.new maxPages).run cs = some q ∧ q.selectVictim.isSome = true := by
  obtain ⟨q, hq, hw⟩ := run_handWithin cs
    (show HandWithin (CLOCKPolicy.new maxPages).clockHandVec (CLOCKPolicy.new maxPages).handPos from .inr ⟨rfl, rfl⟩) hc
  exact ⟨q, hq, selectVictim_isSome hw⟩

/-- VPNs 5, 6 and 7 allocated into a CLOCK policy of two pages, so that the
overflow loop erases VPN 5, then VPN 6 accessed and VPN 7 freed:
`select_victim` reads inside the vector. -/
theorem clock_selects_after_overflow_and_free :
    ∃ q, (CLOCKPolicy.new 2).run [.allocated 5, .allocated 6, .allocated 7, .accessed 6, .freed 7] = some q ∧
      q.selectVictim.isSome = true :=
  clock_selection_in_range_before_first_selection 2 _ (by simp)

end UvmSim
