import UvmSim.Impl.Common

/-!
# The translation cache (`TLB.h`, `TLB.cpp`)

`tlb_size / associativity` sets of at most `associativity` entries, the set
of a VPN chosen by `hash_vpn`. `lookup` and `insert` read the clock; its
reading is their argument `now`. A zero divisor traps: `init` and
`getSetIndex` answer `none` there.
-/

namespace UvmSim

structure TLBEntry where
  vpn : VirtualPageNumber := 0
  cpuAddress : Address := 0
  gpuAddress : Nat := 0
  timestamp : Nat := 0
  valid : Bool := false
  deriving DecidableEq, Repr

structure TLB.Config where
  tlbSize : Nat
  associativity : Nat
  deriving DecidableEq, Repr

structure TLB where
  config : TLB.Config
  sets : List (List TLBEntry)
  hits : Nat
  misses : Nat
  deriving DecidableEq, Repr

namespace TLB

/-- The constructor then `TLB::initialize`. -/
def init (config : TLB.Config) : Option TLB :=
  if config.associativity = 0 then none
  else some ⟨config, List.replicate (config.tlbSize / config.associativity) [], 0, 0⟩

def getSetIndex (t : TLB) (vpn : VirtualPageNumber) : Option Nat :=
  let numSets := t.config.tlbSize / t.config.associativity
  if numSets = 0 then none else some (hashVpn vpn % numSets)

/-- `lookup(vpn, out)`: the entry copied to `out` on a hit. -/
def lookup (t : TLB) (vpn : VirtualPageNumber) (now : Nat) : Option (Option TLBEntry × TLB) :=
  (t.getSetIndex vpn).map fun idx =>
    let set := t.sets.getD idx []
    match set.findIdx? (fun e => e.valid ∧ e.vpn = vpn) with
    | some i =>
      let e := { set.getD i {} with timestamp := now }
      (some e, { t with sets := t.sets.set idx (set.set i e), hits := u64 (t.hits + 1) })
    | none => (none, { t with misses := u64 (t.misses + 1) })

/-- The index of the first entry of least timestamp. -/
def minTimestampIdx (set : List TLBEntry) : Nat :=
  (List.range set.length).foldl
    (fun m i => if (set.getD i {}).timestamp < (set.getD m {}).timestamp then i else m) 0

/-- `evict_lru`: erase the first entry of least timestamp. -/
def evictLru (set : List TLBEntry) : List TLBEntry :=
  if set = [] then set else set.eraseIdx (minTimestampIdx set)

def insert (t : TLB) (vpn : VirtualPageNumber) (entry : TLBEntry) (now : Nat) : Option TLB :=
  (t.getSetIndex vpn).map fun idx =>
    let set := t.sets.getD idx []
    let set' :=
      match set.findIdx? (·.vpn = vpn) with
      | some i => set.set i { entry with timestamp := now }
      | none =>
        let newEntry := { entry with timestamp := now, valid := true }
        if set.length < t.config.associativity then set ++ [newEntry]
        else evictLru set ++ [newEntry]
    { t with sets := t.sets.set idx set' }

def invalidate (t : TLB) (vpn : VirtualPageNumber) : Option TLB :=
  (t.getSetIndex vpn).map fun idx =>
    let set := t.sets.getD idx []
    match set.findIdx? (·.vpn = vpn) with
    | some i => { t with sets := t.sets.set idx (set.eraseIdx i) }
    | none => t

def flush (t : TLB) : TLB := { t with sets := t.sets.map fun _ => [] }

def resetStats (t : TLB) : TLB := { t with hits := 0, misses := 0 }

theorem invalidate_config {t t' : TLB} {vpn : VirtualPageNumber} (h : t.invalidate vpn = some t') :
    t'.config = t.config := by
  simp only [invalidate, Option.map_eq_some'] at h
  obtain ⟨_, -, rfl⟩ := h
  split <;> rfl

end TLB

end UvmSim
