import UvmSim.Proof.Clock

/-!
# How many pages a replacement policy holds

Each policy holds at most `max_pages_` VPNs: `on_page_allocated` pops the
oldest VPN (LRU) or erases the entry at the hand (CLOCK) until the queue or
the vector fits, and no other call adds one. `ReplacementPolicy.run` is a
sequence of calls of the interface on the policy the manager holds.

* `LRUPolicy.Bounded.perform`, `CLOCKPolicy.Bounded.perform`: every call
  keeps the policy within `max_pages_`, and keeps `max_pages_`;
* `ReplacementPolicy.Bounded.run`: so does every sequence of calls.
-/

namespace UvmSim

namespace LRUPolicy

/-- The queue within `max_pages_`. -/
def Bounded (p : LRUPolicy) : Prop := p.lruQueue.length ≤ p.maxPages

theorem length_evictOverflow (maxPages : Nat) :
    ∀ (l : List VirtualPageNumber) (act : Finset VirtualPageNumber), (evictOverflow maxPages l act).1.length ≤ maxPages
  | [], _ => Nat.zero_le _
  | v :: q, act => by
    unfold evictOverflow
    split_ifs with h
    · exact length_evictOverflow maxPages q _
    · exact Nat.not_lt.mp h

@[simp] theorem maxPages_perform (p : LRUPolicy) (c : PolicyCall) : (p.perform c).maxPages = p.maxPages := by
  cases c with
  | selected => cases hq : p.lruQueue <;> simp [perform, selectVictim, hq]
  | _ => rfl

theorem Bounded.perform {p : LRUPolicy} (h : p.Bounded) (c : PolicyCall) : (p.perform c).Bounded := by
  cases c with
  | allocated v => exact length_evictOverflow _ _ _
  | accessed v | freed v => exact h
  | selected =>
    unfold Bounded at *
    rw [maxPages_perform]
    cases hq : p.lruQueue with
    | nil => simp [LRUPolicy.perform, selectVictim, hq]
    | cons v q =>
      simp only [LRUPolicy.perform, selectVictim, hq] at h ⊢
      simp only [List.length_cons] at h
      omega

end LRUPolicy

namespace CLOCKPolicy

/-- The vector within `max_pages_`. -/
def Bounded (p : CLOCKPolicy) : Prop := p.clockHandVec.length ≤ p.maxPages

/-- Each turn of the loop erases one entry, so `fuel` turns bring the vector
within `max_pages_` or `fuel` entries shorter. -/
theorem length_evictOverflow (maxPages : Nat) :
    ∀ (fuel : Nat) (vec : List ClockEntry) (hand : Nat),
      (evictOverflow maxPages fuel vec hand).1.length ≤ max maxPages (vec.length - fuel)
  | 0, vec, hand => by simp [evictOverflow]
  | fuel + 1, vec, hand => by
    unfold evictOverflow
    by_cases h : maxPages < vec.length
    · rw [if_pos h]
      dsimp only
      generalize hk : (if vec.length ≤ hand then 0 else hand) = k
      have hi : k < vec.length := by rw [← hk]; split_ifs <;> omega
      have ih := length_evictOverflow maxPages fuel (vec.eraseIdx k) (wrapHand (vec.eraseIdx k) k)
      rw [List.length_eraseIdx, if_pos hi] at ih
      omega
    · rw [if_neg h]; simp only [le_max_iff]; omega

/-- The vector a sweep leaves. -/
def SweepResult.vec : SweepResult → List ClockEntry
  | .victim _ vec _ => vec
  | .exit vec _ => vec

theorem length_sweep : ∀ (fuel : Nat) (vec : List ClockEntry) (hand : Nat) {r : SweepResult},
    sweep fuel vec hand = some r → (SweepResult.vec r).length ≤ vec.length
  | 0, _, _, _, h => by cases h
  | fuel + 1, vec, hand, r, h => by
    unfold sweep at h
    split at h
    · cases h; exact le_rfl
    · split_ifs at h
      · cases h; exact List.length_eraseIdx_le _ _
      · simpa using length_sweep fuel _ _ h

@[simp] theorem maxPages_onPageAllocated (p : CLOCKPolicy) (v : VirtualPageNumber) :
    (p.onPageAllocated v).maxPages = p.maxPages := rfl

theorem maxPages_perform {p q : CLOCKPolicy} {c : PolicyCall} (h : p.perform c = some q) :
    q.maxPages = p.maxPages := by
  cases c <;> simp only [perform, Option.some.injEq, Option.map_eq_some'] at h
  · subst h; rfl
  · rw [← h]; unfold onPageAccess; split <;> rfl
  · rw [← h]; unfold onPageFreed; split <;> rfl
  · obtain ⟨⟨v, q'⟩, hs, rfl⟩ := h
    unfold selectVictim at hs
    split_ifs at hs
    · cases hs; rfl
    split at hs <;> try cases hs
    · rfl
    · split at hs <;> cases hs; rfl

theorem Bounded.perform {p q : CLOCKPolicy} (h : p.Bounded) {c : PolicyCall} (hq : p.perform c = some q) :
    q.Bounded := by
  unfold Bounded
  rw [maxPages_perform hq]
  cases c with
  | allocated v =>
    cases hq
    have := length_evictOverflow p.maxPages (p.clockHandVec ++ [(⟨v, true⟩ : ClockEntry)]).length
      (p.clockHandVec ++ [⟨v, true⟩]) p.handPos
    rwa [Nat.sub_self, Nat.max_zero] at this
  | accessed v =>
    cases hq; unfold onPageAccess; split
    · simpa using h
    · exact h
  | freed v =>
    cases hq; unfold onPageFreed; split
    · exact (List.length_eraseIdx_le _ _).trans h
    · exact h
  | selected =>
    obtain ⟨⟨v, q'⟩, hs, rfl⟩ := Option.map_eq_some'.mp hq
    unfold selectVictim at hs
    split_ifs at hs
    · cases hs; exact h
    split at hs <;> try cases hs
    · rename_i hsw; exact (length_sweep _ _ _ hsw).trans h
    · rename_i hsw
      split at hs <;> cases hs
      exact ((List.length_eraseIdx_le _ _).trans (length_sweep _ _ _ hsw)).trans h

end CLOCKPolicy

namespace ReplacementPolicy

/-- A call of the interface on the policy behind `replacement_policy_`;
`none` where `CLOCKPolicy::select_victim` reads out of range. -/
def perform : ReplacementPolicy → PolicyCall → Option ReplacementPolicy
  | lru p, c => some (lru (p.perform c))
  | clock p, c => (p.perform c).map clock

def run (p : ReplacementPolicy) : List PolicyCall → Option ReplacementPolicy
  | [] => some p
  | c :: cs => (p.perform c).bind (·.run cs)

/-- The VPNs the policy holds: the queue, or the vector. -/
def size : ReplacementPolicy → Nat
  | lru p => p.lruQueue.length
  | clock p => p.clockHandVec.length

def maxPages : ReplacementPolicy → Nat
  | lru p => p.maxPages
  | clock p => p.maxPages

def Bounded (p : ReplacementPolicy) : Prop := p.size ≤ p.maxPages

theorem run_append (p : ReplacementPolicy) (cs cs' : List PolicyCall) :
    p.run (cs ++ cs') = (p.run cs).bind (·.run cs') := by
  induction cs generalizing p with
  | nil => rfl
  | cons c cs ih => simp only [List.cons_append, run, List.append_eq, ih, Option.bind_assoc]

theorem perform_allocated (p : ReplacementPolicy) (v : VirtualPageNumber) :
    p.perform (.allocated v) = some (p.onPageAllocated v) := by
  cases p <;> rfl

theorem perform_accessed (p : ReplacementPolicy) (v : VirtualPageNumber) :
    p.perform (.accessed v) = some (p.onPageAccess v) := by
  cases p <;> rfl

theorem perform_freed (p : ReplacementPolicy) (v : VirtualPageNumber) :
    p.perform (.freed v) = some (p.onPageFreed v) := by
  cases p <;> rfl

theorem perform_selected {p q : ReplacementPolicy} {v : VirtualPageNumber} (h : p.selectVictim = some (v, q)) :
    p.perform .selected = some q := by
  cases p with
  | lru p => cases h; rfl
  | clock p =>
    obtain ⟨⟨v', q'⟩, hs, h⟩ := Option.map_eq_some'.mp h
    cases h
    simp [perform, CLOCKPolicy.perform, hs]

theorem Bounded.perform {p q : ReplacementPolicy} (h : p.Bounded) {c : PolicyCall} (hq : p.perform c = some q) :
    q.Bounded ∧ q.maxPages = p.maxPages := by
  cases p with
  | lru p =>
    cases hq
    exact ⟨LRUPolicy.Bounded.perform h c, LRUPolicy.maxPages_perform p c⟩
  | clock p =>
    obtain ⟨q', hq', rfl⟩ := Option.map_eq_some'.mp hq
    exact ⟨CLOCKPolicy.Bounded.perform h hq', CLOCKPolicy.maxPages_perform hq'⟩

theorem Bounded.run : ∀ (cs : List PolicyCall) {p q : ReplacementPolicy}, p.Bounded → p.run cs = some q →
    q.Bounded ∧ q.maxPages = p.maxPages
  | [], _, _, h, hq => by cases hq; exact ⟨h, rfl⟩
  | c :: cs, _, _, h, hq => by
    obtain ⟨p', hp', hq⟩ := Option.bind_eq_some.mp hq
    obtain ⟨h', hm⟩ := h.perform hp'
    obtain ⟨hq', hm'⟩ := Bounded.run cs h' hq
    exact ⟨hq', hm'.trans hm⟩

end ReplacementPolicy

end UvmSim
