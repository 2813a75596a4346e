import UvmSim.Impl.Policies

/-!
# What the replacement policies do

* `lru_queue_is_bounded_fifo`: `LRUPolicy` is a FIFO of at most
  `max_pages_` allocations. Along any calls its queue is the VPNs allocated
  and not yet selected or pushed out, in allocation order, whatever was
  accessed or freed; so `select_victim` returns the oldest allocation, not
  the least recently used page (`lru_access_keeps_victim`).
* `clock_victim_stays`: when the entry at the hand has a clear reference
  bit, `select_victim` returns it but erases the entry after it.
-/

namespace UvmSim

/-- A call of the replacement-policy interface. -/
inductive PolicyCall where
  | allocated (vpn : VirtualPageNumber)
  | accessed (vpn : VirtualPageNumber)
  | freed (vpn : VirtualPageNumber)
  | selected

/-- The queue of a FIFO of at most `cap` allocations: an allocation joins the
back and pushes the oldest out past `cap`, a selection leaves the front, and
accesses and frees change nothing. -/
def fifo (cap : Nat) (q : List VirtualPageNumber) : PolicyCall → List VirtualPageNumber
  | .allocated v => (q ++ [v]).drop ((q ++ [v]).length - cap)
  | .selected => q.tail
  | _ => q

namespace LRUPolicy

def perform (p : LRUPolicy) : PolicyCall → LRUPolicy
  | .allocated v => p.onPageAllocated v
  | .accessed v => p.onPageAccess v
  | .freed v => p.onPageFreed v
  | .selected => p.selectVictim.2

/-- The loop of `on_page_allocated` keeps the last `max_pages_` VPNs. -/
theorem evictOverflow_fst (maxPages : Nat) :
    ∀ (l : List VirtualPageNumber) (act : Finset VirtualPageNumber),
      (evictOverflow maxPages l act).1 = l.drop (l.length - maxPages)
  | [], _ => List.drop_nil.symm
  | v :: q, act => by
    unfold evictOverflow
    split_ifs with h
    · rw [evictOverflow_fst maxPages q, List.length_cons,
        show q.length + 1 - maxPages = q.length - maxPages + 1 by omega, List.drop_succ_cons]
    · rw [List.length_cons, show q.length + 1 - maxPages = 0 by omega, List.drop_zero]

theorem selectVictim_fst (p : LRUPolicy) : p.selectVictim.1 = p.lruQueue.headD 0 := by
  unfold selectVictim; split <;> simp_all

/-- One call moves the queue as the FIFO of `max_pages_` allocations moves. -/
theorem lruQueue_perform (p : LRUPolicy) (c : PolicyCall) :
    (p.perform c).lruQueue = fifo p.maxPages p.lruQueue c ∧ (p.perform c).maxPages = p.maxPages := by
  cases c with
  | allocated v => exact ⟨evictOverflow_fst _ _ _, rfl⟩
  | accessed v => exact ⟨rfl, rfl⟩
  | freed v => exact ⟨rfl, rfl⟩
  | selected => cases hq : p.lruQueue <;> simp [perform, selectVictim, fifo, hq]

/-- So does every sequence of calls. -/
theorem lruQueue_performAll (p : LRUPolicy) (cs : List PolicyCall) :
    (cs.foldl perform p).lruQueue = cs.foldl (fifo p.maxPages) p.lruQueue := by
  induction cs generalizing p with
  | nil => rfl
  | cons c cs ih =>
    obtain ⟨hq, hm⟩ := p.lruQueue_perform c
    rw [List.foldl_cons, List.foldl_cons, ih, hq, hm]

end LRUPolicy

/-- For every LRU policy and every sequence of calls, the queue is the FIFO
of at most `max_pages_` allocations, moved by allocations and selections
only; so `select_victim` returns the oldest allocation still queued, whatever
was accessed or freed since. -/
theorem lru_queue_is_bounded_fifo (p : LRUPolicy) (cs : List PolicyCall) :
    (cs.foldl LRUPolicy.perform p).lruQueue = cs.foldl (fifo p.maxPages) p.lruQueue ∧
      (cs.foldl LRUPolicy.perform p).selectVictim.1 = (cs.foldl (fifo p.maxPages) p.lruQueue).headD 0 := by
  have h := p.lruQueue_performAll cs
  exact ⟨h, by rw [LRUPolicy.selectVictim_fst, h]⟩

/- A page allocated and then freed is still `select_victim`'s answer. -/
example : (((LRUPolicy.new 100).onPageAllocated 7).onPageFreed 7).selectVictim.1 = 7 := by
  decide

/-- Allocating VPN 0 then VPN 1 and accessing VPN 0: `select_victim` returns
`0`, the page just accessed. -/
theorem lru_access_keeps_victim :
    ((((LRUPolicy.new 100).onPageAllocated 0).onPageAllocated 1).onPageAccess 0).selectVictim.1 = 0 := by
  decide

/-- Two allocations, VPNs 5 and 6: the sweep clears both bits, stops at 5
and returns it, but the entry erased is 6's; 5 stays, the hand past the end. -/
theorem clock_victim_stays :
    (((CLOCKPolicy.new 100).onPageAllocated 5).onPageAllocated 6).selectVictim =
      some (5, ⟨[⟨5, false⟩], 1, 100⟩) := by
  decide

end UvmSim
