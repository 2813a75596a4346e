import UvmSim.Impl.Common

/-!
# Replacement policies (`Policies.h`, `Policies.cpp`)

`LRUPolicy` keeps a FIFO queue of the VPNs it was told were allocated and a
set of active pages; `CLOCKPolicy` keeps a vector of entries with a
reference bit and a hand. `ReplacementPolicy` is the tagged sum the manager
holds.

The sweep of `CLOCKPolicy::select_victim` runs while the hand is inside the
vector; every turn that does not return clears one set reference bit, so one
more turn than there are set bits always suffices (`CLOCKPolicy.sweep` takes
that many, and `none` past them stands for a loop that never ends).
-/

namespace UvmSim

structure LRUPolicy where
  lruQueue : List VirtualPageNumber
  activePages : Finset VirtualPageNumber
  maxPages : Nat
  deriving DecidableEq

namespace LRUPolicy

def new (maxPages : Nat) : LRUPolicy := ⟨[], ∅, maxPages⟩

/-- The loop of `on_page_allocated`: while the queue is longer than
`max_pages_`, pop its front and drop it from the active set. -/
def evictOverflow (maxPages : Nat) :
    List VirtualPageNumber → Finset VirtualPageNumber → List VirtualPageNumber × Finset VirtualPageNumber
  | [], act => ([], act)
  | v :: q, act => if maxPages < q.length + 1 then evictOverflow maxPages q (act.erase v) else (v :: q, act)

/-- `on_page_access` finds the VPN in the queue and does nothing with it. -/
def onPageAccess (p : LRUPolicy) (_ : VirtualPageNumber) : LRUPolicy := p

def onPageAllocated (p : LRUPolicy) (vpn : VirtualPageNumber) : LRUPolicy :=
  let r := evictOverflow p.maxPages (p.lruQueue ++ [vpn]) (insert vpn p.activePages)
  { p with lruQueue := r.1, activePages := r.2 }

def onPageFreed (p : LRUPolicy) (vpn : VirtualPageNumber) : LRUPolicy :=
  { p with activePages := p.activePages.erase vpn }

def selectVictim (p : LRUPolicy) : VirtualPageNumber × LRUPolicy :=
  match p.lruQueue with
  | [] => (0, p)
  | v :: q => (v, { p with lruQueue := q, activePages := p.activePages.erase v })

/-- `reset`: the queue popped empty and the active set cleared. -/
def reset (p : LRUPolicy) : LRUPolicy := { p with lruQueue := [], activePages := ∅ }

end LRUPolicy

/-- `CLOCKPolicy::ClockEntry`; the constructor sets the reference bit. -/
structure ClockEntry where
  vpn : VirtualPageNumber
  referenceBit : Bool
  deriving DecidableEq, Repr

structure CLOCKPolicy where
  clockHandVec : List ClockEntry
  handPos : Nat
  maxPages : Nat
  deriving DecidableEq, Repr

/-- How the sweep of `select_victim` ends: it returns `vpn`, or it leaves the
loop because the hand is outside the vector. -/
inductive SweepResult where
  | victim (vpn : VirtualPageNumber) (vec : List ClockEntry) (hand : Nat)
  | exit (vec : List ClockEntry) (hand : Nat)
  deriving DecidableEq, Repr

namespace CLOCKPolicy

def new (maxPages : Nat) : CLOCKPolicy := ⟨[], 0, maxPages⟩

/-- `if (hand_pos_ >= clock_hand_vec_.size() && !clock_hand_vec_.empty()) hand_pos_ = 0;` -/
def wrapHand (vec : List ClockEntry) (hand : Nat) : Nat :=
  if vec.length ≤ hand ∧ vec ≠ [] then 0 else hand

def onPageAccess (p : CLOCKPolicy) (vpn : VirtualPageNumber) : CLOCKPolicy :=
  match p.clockHandVec.findIdx? (·.vpn = vpn) with
  | some i => { p with clockHandVec := p.clockHandVec.modify (fun e => { e with referenceBit := true }) i }
  | none => p

/-- The loop of `on_page_allocated`, with `fuel` turns left: while the
vector is longer than `max_pages_`, erase the entry at the hand. -/
def evictOverflow (maxPages : Nat) : Nat → List ClockEntry → Nat → List ClockEntry × Nat
  | 0, vec, hand => (vec, hand)
  | fuel + 1, vec, hand =>
    if maxPages < vec.length then
      let hand := if vec.length ≤ hand then 0 else hand
      let vec := vec.eraseIdx hand
      evictOverflow maxPages fuel vec (wrapHand vec hand)
    else (vec, hand)

/-- `on_page_allocated`; each turn of its loop erases one entry, so the
vector's length bounds the turns. -/
def onPageAllocated (p : CLOCKPolicy) (vpn : VirtualPageNumber) : CLOCKPolicy :=
  let vec := p.clockHandVec ++ [⟨vpn, true⟩]
  let r := evictOverflow p.maxPages vec.length vec p.handPos
  { p with clockHandVec := r.1, handPos := r.2 }

def onPageFreed (p : CLOCKPolicy) (vpn : VirtualPageNumber) : CLOCKPolicy :=
  match p.clockHandVec.findIdx? (·.vpn = vpn) with
  | some i =>
    let vec := p.clockHandVec.eraseIdx i
    { p with clockHandVec := vec, handPos := wrapHand vec p.handPos }
  | none => p

/-- The `while (hand_pos_ < clock_hand_vec_.size())` loop of
`select_victim`, with `fuel` turns left. -/
def sweep : Nat → List ClockEntry → Nat → Option SweepResult
  | 0, _, _ => none
  | fuel + 1, vec, hand =>
    match vec[hand]? with
    | none => some (.exit vec hand)
    | some e =>
      if !e.referenceBit then
        let hand' := (hand + 1) % vec.length
        some (.victim e.vpn (vec.eraseIdx hand') hand')
      else sweep fuel (vec.set hand { e with referenceBit := false }) ((hand + 1) % vec.length)

/-- `select_victim`; `none` when it reads `clock_hand_vec_[hand_pos_]` out of
range after the loop. -/
def selectVictim (p : CLOCKPolicy) : Option (VirtualPageNumber × CLOCKPolicy) :=
  if p.clockHandVec = [] then some (0, p)
  else
    match sweep (p.clockHandVec.countP (·.referenceBit) + 1) p.clockHandVec p.handPos with
    | some (.victim v vec hand) => some (v, { p with clockHandVec := vec, handPos := hand })
    | some (.exit vec hand) =>
      match vec[hand]? with
      | some e =>
        let hand' := (hand + 1) % vec.length
        some (e.vpn, { p with clockHandVec := vec.eraseIdx hand', handPos := hand' })
      | none => none
    | none => none

def reset (p : CLOCKPolicy) : CLOCKPolicy := { p with clockHandVec := [], handPos := 0 }

end CLOCKPolicy

/-- The policy behind `replacement_policy_`, chosen by `initialize`. -/
inductive ReplacementPolicy where
  | lru (p : LRUPolicy)
  | clock (p : CLOCKPolicy)
  deriving DecidableEq

namespace ReplacementPolicy

def onPageAccess : ReplacementPolicy → VirtualPageNumber → ReplacementPolicy
  | lru p, v => lru (p.onPageAccess v)
  | clock p, v => clock (p.onPageAccess v)

def onPageAllocated : ReplacementPolicy → VirtualPageNumber → ReplacementPolicy
  | lru p, v => lru (p.onPageAllocated v)
  | clock p, v => clock (p.onPageAllocated v)

def onPageFreed : ReplacementPolicy → VirtualPageNumber → ReplacementPolicy
  | lru p, v => lru (p.onPageFreed v)
  | clock p, v => clock (p.onPageFreed v)

def selectVictim : ReplacementPolicy → Option (VirtualPageNumber × ReplacementPolicy)
  | lru p => some ((p.selectVictim).1, lru (p.selectVictim).2)
  | clock p => (p.selectVictim).map fun r => (r.1, clock r.2)

def reset : ReplacementPolicy → ReplacementPolicy
  | lru p => lru p.reset
  | clock p => clock p.reset

end ReplacementPolicy

end UvmSim
