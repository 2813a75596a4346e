import UvmSim.Impl.Common

/-!
# The page table (`PageTable.h`, `PageTable.cpp`)

`PageTable::entries_`, an `unordered_map` from VPN to `PageTableEntry`, is a
`Finmap`: its equality is that of maps, whatever the order of the buckets.
Every write the source makes to one existing entry, through a setter or
through the pointer `lookup_entry` returns, is `PageTable.modifyEntry` with
the update it makes; `lookupEntry_modifyEntry` says what it does.
-/

namespace UvmSim

/-- `PageTableEntry`, without `access_timestamp_us` (wall-clock time), and
without `is_pinned` and `clock_hand`, which only the constructor writes. -/
structure PageTableEntry where
  residentOnCpu : Bool := false
  residentOnGpu : Bool := false
  isDirty : Bool := false
  isValid : Bool := false
  cpuAddress : Address := 0
  gpuAddress : Nat := 0
  accessCount : Nat := 0
  deriving DecidableEq, Repr

/-- `entries_`. -/
abbrev EntryMap := Finmap fun _ : VirtualPageNumber => PageTableEntry

structure PageTable where
  pageSize : Nat
  numPages : Nat
  entries : EntryMap

namespace PageTable

/-- `PageTable::initialize` (`initialize` is a keyword of Lean); the division
traps on a zero page size. -/
def init (pageSize virtualSpaceSize : Nat) : Option PageTable :=
  if pageSize = 0 then none else some ⟨pageSize, virtualSpaceSize / pageSize, ∅⟩

def lookupEntry (pt : PageTable) (vpn : VirtualPageNumber) : Option PageTableEntry :=
  pt.entries.lookup vpn

/-- The non-const `get_entry`: the entry of `vpn`, inserted default-constructed
(not valid) when there is none. The manager never calls it. -/
def getEntry (pt : PageTable) (vpn : VirtualPageNumber) : PageTableEntry × PageTable :=
  match pt.lookupEntry vpn with
  | some e => (e, pt)
  | none => ({}, { pt with entries := pt.entries.insert vpn {} })

/-- A write to the entry of `vpn`, if there is one. -/
def modifyEntry (pt : PageTable) (vpn : VirtualPageNumber)
    (f : PageTableEntry → PageTableEntry) : PageTable :=
  match pt.lookupEntry vpn with
  | some e => { pt with entries := Finmap.insert vpn (f e) pt.entries }
  | none => pt

/-- The loop of `allocate_vpn_range` from its `i`-th VPN, with `k` VPNs left:
it stops at the first VPN that has an entry, keeping the entries it added. -/
def allocateVpnRangeFrom (vpnStart : VirtualPageNumber) : Nat → Nat → EntryMap → Bool × EntryMap
  | _, 0, m => (true, m)
  | i, k + 1, m =>
    if u64 (vpnStart + i) ∈ m then (false, m)
    else allocateVpnRangeFrom vpnStart (i + 1) k (Finmap.insert (u64 (vpnStart + i)) { isValid := true } m)

def allocateVpnRange (pt : PageTable) (vpnStart : VirtualPageNumber) (numPages : Nat) :
    Bool × PageTable :=
  let r := allocateVpnRangeFrom vpnStart 0 numPages pt.entries
  (r.1, { pt with entries := r.2 })

def deallocateVpnRange (pt : PageTable) (vpnStart : VirtualPageNumber) (numPages : Nat) : PageTable :=
  { pt with entries := (List.range numPages).foldl (fun m i => m.erase (u64 (vpnStart + i))) pt.entries }

def setCpuResident (pt : PageTable) (vpn : VirtualPageNumber) (cpuAddr : Address) : PageTable :=
  pt.modifyEntry vpn fun e => { e with residentOnCpu := true, cpuAddress := cpuAddr }

def setGpuResident (pt : PageTable) (vpn : VirtualPageNumber) (gpuAddr : Nat) : PageTable :=
  pt.modifyEntry vpn fun e => { e with residentOnGpu := true, gpuAddress := gpuAddr }

def markDirty (pt : PageTable) (vpn : VirtualPageNumber) : PageTable :=
  pt.modifyEntry vpn fun e => { e with isDirty := true }

def clearDirty (pt : PageTable) (vpn : VirtualPageNumber) : PageTable :=
  pt.modifyEntry vpn fun e => { e with isDirty := false }

def updateAccessTime (pt : PageTable) (vpn : VirtualPageNumber) : PageTable :=
  pt.modifyEntry vpn fun e => { e with accessCount := u32 (e.accessCount + 1) }

/-- `get_all_entries`: the VPNs of the valid entries (the source pairs each
with a pointer to its entry, which is `lookupEntry`). -/
def getAllEntries (pt : PageTable) : Finset VirtualPageNumber :=
  pt.entries.keys.filter fun v => (pt.lookupEntry v).any (·.isValid)

def getNumAllocatedPages (pt : PageTable) : Nat := pt.numPages

/-- `clear`: every entry erased; `num_pages_` stays. -/
def clear (pt : PageTable) : PageTable := { pt with entries := ∅ }

/-! ## Lookups after each operation -/

/-- A page table is its page size, its page count and the entries it looks up. -/
theorem ext_lookupEntry {pt pt' : PageTable} (hs : pt.pageSize = pt'.pageSize) (hn : pt.numPages = pt'.numPages)
    (h : ∀ v, pt.lookupEntry v = pt'.lookupEntry v) : pt = pt' := by
  obtain ⟨P, N, E⟩ := pt
  obtain ⟨P', N', E'⟩ := pt'
  cases hs; cases hn
  exact congrArg _ (Finmap.ext_lookup h)

@[simp] theorem lookupEntry_modifyEntry (pt : PageTable) (v w : VirtualPageNumber)
    (f : PageTableEntry → PageTableEntry) :
    (pt.modifyEntry v f).lookupEntry w =
      if w = v then (pt.lookupEntry v).map f else pt.lookupEntry w := by
  unfold modifyEntry
  cases h : pt.lookupEntry v with
  | none =>
    by_cases hw : w = v
    · subst hw; simp [h]
    · simp [hw]
  | some e =>
    simp only [lookupEntry] at h ⊢
    by_cases hw : w = v
    · subst hw; simp [h]
    · simp [hw, Finmap.lookup_insert_of_ne _ hw]

@[simp] theorem modifyEntry_pageSize (pt : PageTable) (v : VirtualPageNumber) (f) :
    (pt.modifyEntry v f).pageSize = pt.pageSize := by
  unfold modifyEntry; split <;> rfl

@[simp] theorem modifyEntry_numPages (pt : PageTable) (v : VirtualPageNumber) (f) :
    (pt.modifyEntry v f).numPages = pt.numPages := by
  unfold modifyEntry; split <;> rfl

@[simp] theorem deallocateVpnRange_pageSize (pt : PageTable) (v : VirtualPageNumber) (n : Nat) :
    (pt.deallocateVpnRange v n).pageSize = pt.pageSize := rfl

@[simp] theorem deallocateVpnRange_numPages (pt : PageTable) (v : VirtualPageNumber) (n : Nat) :
    (pt.deallocateVpnRange v n).numPages = pt.numPages := rfl

@[simp] theorem allocateVpnRange_pageSize (pt : PageTable) (v : VirtualPageNumber) (n : Nat) :
    (pt.allocateVpnRange v n).2.pageSize = pt.pageSize := rfl

@[simp] theorem allocateVpnRange_numPages (pt : PageTable) (v : VirtualPageNumber) (n : Nat) :
    (pt.allocateVpnRange v n).2.numPages = pt.numPages := rfl

theorem lookupEntry_deallocateVpnRange (pt : PageTable) (vpnStart : VirtualPageNumber) (n : Nat)
    (w : VirtualPageNumber) :
    (pt.deallocateVpnRange vpnStart n).lookupEntry w =
      if ∃ i < n, u64 (vpnStart + i) = w then none else pt.lookupEntry w := by
  simp only [deallocateVpnRange, lookupEntry]
  induction n with
  | zero => simp
  | succ n ih =>
    rw [List.range_succ, List.foldl_append, List.foldl_cons, List.foldl_nil]
    by_cases hw : u64 (vpnStart + n) = w
    · subst hw; simp only [Finmap.lookup_erase]
      exact (if_pos ⟨n, Nat.lt_succ_self n, rfl⟩).symm
    · rw [Finmap.lookup_erase_ne (Ne.symm hw), ih]
      congr 1
      apply propext
      constructor
      · rintro ⟨i, hi, h⟩; exact ⟨i, by omega, h⟩
      · rintro ⟨i, hi, h⟩
        exact ⟨i, by rcases Nat.lt_succ_iff_lt_or_eq.mp hi with hi | rfl <;> [exact hi; exact absurd h hw], h⟩

end PageTable

end UvmSim
