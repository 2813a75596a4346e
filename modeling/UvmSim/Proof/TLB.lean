import UvmSim.Impl.TLB

/-!
# The TLB and the most recent inserts

`recent ks v` is what the TLB should answer for `v` after the calls `ks`:
the addresses of the most recent `insert(v, e)` with no `invalidate(v)` or
`flush()` since (`recentAfter`). `TLB.Tracks c r t` says that each set of `t`
holds at most `associativity` entries with distinct VPNs that all hash to it
(`SetTracks`), each carrying the addresses `r` gives its VPN. Every call keeps
it, for `r` moved as `recentAfter` moves it, provided each `insert(v, e)`
files an entry of VPN `v` (`TLB.Tracks.perform`, `TLB.Tracks.run`).

`insert` files `e` as it is: under `e.vpn`, in the set of `v`. An entry whose
VPN is not its key lands in a set its VPN does not hash to, can repeat a VPN
the set already holds, and is not found by `lookup(v)`. A new entry is made
valid, but the overwrite of an entry of `v` copies `e.valid`.

* `tlb_tracks_recent_inserts`: from `initialize` with
  `1 ≤ associativity ≤ tlb_size`, along any calls whose inserts file each
  entry under its own VPN, the sets keep their shape, a hit answers the
  addresses of the most recent insert, an insert is found at once exactly
  when its entry is valid or its VPN is new (`Tracks.lookup_insert`), and an
  invalidate or a flush is missed at once.
* `tlb_reinsert_hides_entry`: re-inserting a default-constructed entry hides
  the VPN.
-/

namespace UvmSim

/-- One call of the TLB's interface, with the clock's reading for the two
that read it. -/
inductive TLBCall where
  | insert (vpn : VirtualPageNumber) (entry : TLBEntry) (now : Nat)
  | lookup (vpn : VirtualPageNumber) (now : Nat)
  | invalidate (vpn : VirtualPageNumber)
  | flush
  deriving DecidableEq, Repr

/-- `tlb_size / associativity`, the number of sets. -/
def TLB.Config.numSets (c : TLB.Config) : Nat := c.tlbSize / c.associativity

namespace TLB

/-- One call; `none` where `get_set_index` divides by zero. -/
def perform (t : TLB) : TLBCall → Option TLB
  | .insert v e now => t.insert v e now
  | .lookup v now => (t.lookup v now).map (·.2)
  | .invalidate v => t.invalidate v
  | .flush => some t.flush

def run (t : TLB) : List TLBCall → Option TLB
  | [] => some t
  | k :: ks => (t.perform k).bind (·.run ks)

/-- The set `insert(vpn, entry)` leaves in place of `set`. -/
def insertInto (associativity : Nat) (set : List TLBEntry) (vpn : VirtualPageNumber) (entry : TLBEntry)
    (now : Nat) : List TLBEntry :=
  match set.findIdx? (·.vpn = vpn) with
  | some i => set.set i { entry with timestamp := now }
  | none =>
    let newEntry := { entry with timestamp := now, valid := true }
    if set.length < associativity then set ++ [newEntry] else evictLru set ++ [newEntry]

theorem insert_eq (t : TLB) (vpn : VirtualPageNumber) (entry : TLBEntry) (now : Nat) :
    t.insert vpn entry now = (t.getSetIndex vpn).map fun idx =>
      { t with sets := t.sets.set idx (insertInto t.config.associativity (t.sets.getD idx []) vpn entry now) } :=
  rfl

end TLB

/-! ## The most recent inserts -/

/-- The addresses of the most recent `insert(v, e)` with no `invalidate(v)`
or `flush()` since, after one more call. -/
def recentAfter (r : VirtualPageNumber → Option (Address × Nat)) :
    TLBCall → VirtualPageNumber → Option (Address × Nat)
  | .insert v e _, w => if w = v then some (e.cpuAddress, e.gpuAddress) else r w
  | .lookup _ _, w => r w
  | .invalidate v, w => if w = v then none else r w
  | .flush, _ => none

/-- The same after a sequence of calls on an empty TLB. -/
def recent (ks : List TLBCall) : VirtualPageNumber → Option (Address × Nat) :=
  ks.foldl recentAfter fun _ => none

/-! ## One set -/

/-- Set `idx` of `numSets`: at most `assoc` entries, with distinct VPNs that
all hash to it, each carrying the addresses `r` gives its VPN. -/
structure SetTracks (assoc numSets idx : Nat) (r : VirtualPageNumber → Option (Address × Nat))
    (set : List TLBEntry) : Prop where
  length_le : set.length ≤ assoc
  nodup : (set.map (·.vpn)).Nodup
  hash : ∀ e ∈ set, hashVpn e.vpn % numSets = idx
  recent : ∀ e ∈ set, r e.vpn = some (e.cpuAddress, e.gpuAddress)

/-- Two positions of a set with distinct VPNs hold distinct VPNs. -/
theorem vpn_ne_of_ne {set : List TLBEntry} (hn : (set.map (·.vpn)).Nodup) {i j : Nat} (hi : i < set.length)
    (hj : j < set.length) (hij : i ≠ j) : set[j].vpn ≠ set[i].vpn := fun h => by
  have : i < (set.map (·.vpn)).length := by simpa using hi
  have : j < (set.map (·.vpn)).length := by simpa using hj
  exact hij (hn.getElem_inj_iff.mp (by simpa using h.symm : (set.map (·.vpn))[i] = (set.map (·.vpn))[j]))

/-- The index of the first entry of least timestamp is an index of the set. -/
theorem minTimestampIdx_lt {set : List TLBEntry} (h : set ≠ []) : TLB.minTimestampIdx set < set.length := by
  suffices ∀ (l : List Nat) (m : Nat), m < set.length → (∀ i ∈ l, i < set.length) →
      l.foldl (fun m i => if (set.getD i {}).timestamp < (set.getD m {}).timestamp then i else m) m <
        set.length from
    this _ 0 (List.length_pos.mpr h) fun i hi => List.mem_range.mp hi
  intro l
  induction l with
  | nil => exact fun m hm _ => hm
  | cons i l ih =>
    intro m hm hl
    refine ih _ ?_ fun j hj => hl j (.tail _ hj)
    dsimp only
    split_ifs
    · exact hl i (.head _)
    · exact hm

theorem evictLru_sublist (set : List TLBEntry) : List.Sublist (TLB.evictLru set) set := by
  unfold TLB.evictLru
  split_ifs
  · exact .refl _
  · exact List.eraseIdx_sublist _ _

theorem length_evictLru {set : List TLBEntry} (h : set ≠ []) : (TLB.evictLru set).length + 1 = set.length := by
  have := minTimestampIdx_lt h
  rw [TLB.evictLru, if_neg h, List.length_eraseIdx, if_pos this]
  have := List.length_pos.mpr h
  omega

namespace SetTracks

variable {assoc numSets idx : Nat} {r r' : VirtualPageNumber → Option (Address × Nat)} {set : List TLBEntry}

theorem nil : SetTracks assoc numSets idx r [] :=
  ⟨Nat.zero_le _, List.nodup_nil, fun _ h => absurd h (List.not_mem_nil _),
    fun _ h => absurd h (List.not_mem_nil _)⟩

/-- Entries removed, and `r` moved only at VPNs that are gone. -/
theorem sublist (h : SetTracks assoc numSets idx r set) {set' : List TLBEntry} (hs : List.Sublist set' set)
    (hr : ∀ e ∈ set', r' e.vpn = r e.vpn) : SetTracks assoc numSets idx r' set' :=
  ⟨hs.length_le.trans h.length_le, h.nodup.sublist (hs.map _), fun e he => h.hash e (hs.subset he),
    fun e he => (hr e he).trans (h.recent e (hs.subset he))⟩

/-- An entry written over the entry of the same VPN. -/
theorem overwrite (h : SetTracks assoc numSets idx r set) {i : Nat} {x : TLBEntry} (hi : i < set.length)
    (hx : x.vpn = set[i].vpn) (hr : ∀ e ∈ set, e.vpn ≠ x.vpn → r' e.vpn = r e.vpn)
    (hxr : r' x.vpn = some (x.cpuAddress, x.gpuAddress)) : SetTracks assoc numSets idx r' (set.set i x) := by
  -- every other entry keeps its place, and has another VPN
  have hmem : ∀ e ∈ set.set i x, e = x ∨ (e ∈ set ∧ e.vpn ≠ x.vpn) := fun e he => by
    obtain ⟨j, hj, rfl⟩ := List.mem_iff_getElem.mp he
    rw [List.getElem_set]
    split_ifs with hij
    · exact .inl rfl
    · exact .inr ⟨List.getElem_mem _, hx ▸ vpn_ne_of_ne h.nodup hi (by simpa using hj) hij⟩
  have hvpns : (set.set i x).map (·.vpn) = set.map (·.vpn) :=
    List.ext_getElem (by simp) fun j _ _ => by
      simp only [List.getElem_map, List.getElem_set]
      split_ifs with hij
      · subst hij; exact hx
      · rfl
  refine ⟨by simpa using h.length_le, hvpns ▸ h.nodup, fun e he => ?_, fun e he => ?_⟩
  · rcases hmem e he with rfl | ⟨he, -⟩
    · rw [hx]; exact h.hash _ (List.getElem_mem _)
    · exact h.hash e he
  · rcases hmem e he with rfl | ⟨he, hne⟩
    · exact hxr
    · rw [hr e he hne]; exact h.recent e he

/-- An entry of a new VPN appended to a set with room. -/
theorem push (h : SetTracks assoc numSets idx r set) {x : TLBEntry} (hlen : set.length < assoc)
    (hv : ∀ e ∈ set, e.vpn ≠ x.vpn) (hx : hashVpn x.vpn % numSets = idx) (hr : ∀ e ∈ set, r' e.vpn = r e.vpn)
    (hxr : r' x.vpn = some (x.cpuAddress, x.gpuAddress)) : SetTracks assoc numSets idx r' (set ++ [x]) := by
  refine ⟨by simpa using hlen, ?_, fun e he => ?_, fun e he => ?_⟩
  · rw [List.map_append, List.nodup_append]
    exact ⟨h.nodup, List.nodup_singleton _, by simpa [List.disjoint_singleton] using fun e he => hv e he⟩
  · rcases List.mem_append.mp he with he | he
    · exact h.hash e he
    · rw [List.mem_singleton.mp he]; exact hx
  · rcases List.mem_append.mp he with he | he
    · rw [hr e he]; exact h.recent e he
    · rw [List.mem_singleton.mp he]; exact hxr

/-- `insert(v, e)` with `e.vpn = v`, on the set of `v`. -/
theorem insertInto (h : SetTracks assoc numSets idx r set) (hassoc : 0 < assoc) {v : VirtualPageNumber}
    {e : TLBEntry} (now : Nat) (hv : e.vpn = v) (hidx : hashVpn v % numSets = idx) :
    SetTracks assoc numSets idx (recentAfter r (.insert v e now)) (TLB.insertInto assoc set v e now) := by
  have hr : ∀ f ∈ set, f.vpn ≠ v → recentAfter r (.insert v e now) f.vpn = r f.vpn := fun f _ hf => if_neg hf
  unfold TLB.insertInto
  split
  · rename_i i hi
    obtain ⟨hil, hiv, -⟩ := List.findIdx?_eq_some_iff_getElem.mp hi
    exact h.overwrite hil (hv.trans (by simpa using hiv : set[i].vpn = v).symm) (fun f hf hne => hr f hf (hv ▸ hne)) (by simp [recentAfter, hv])
  · rename_i hnone
    have hfree : ∀ f ∈ set, f.vpn ≠ v := fun f hf => by simpa using List.findIdx?_eq_none_iff.mp hnone f hf
    have hxr : recentAfter r (.insert v e now) ({ e with timestamp := now, valid := true } : TLBEntry).vpn =
        some (e.cpuAddress, e.gpuAddress) := by simp [recentAfter, hv]
    split_ifs with hlen
    · exact h.push hlen (fun f hf => hv ▸ hfree f hf) (hv ▸ hidx) (fun f hf => hr f hf (hfree f hf)) hxr
    · have hne : set ≠ [] := fun h0 => hlen (by simp [h0, hassoc])
      have hs := evictLru_sublist set
      refine (h.sublist hs fun _ _ => rfl).push (by have := length_evictLru hne; have := h.length_le; omega)
        (fun f hf => hv ▸ hfree f (hs.subset hf)) (hv ▸ hidx) (fun f hf => hr f (hs.subset hf) (hfree f (hs.subset hf)))
        hxr

end SetTracks

/-- After `insert(v, e)` of an entry of VPN `v`, the set holds a valid entry
of `v` exactly when `e` is valid or the set held no entry of `v`: a new entry
is made valid, an overwrite copies `e.valid`. -/
theorem valid_mem_insertInto_iff {set : List TLBEntry} (hn : (set.map (·.vpn)).Nodup) (assoc : Nat)
    {v : VirtualPageNumber} {e : TLBEntry} (now : Nat) (hv : e.vpn = v) :
    (∃ y ∈ TLB.insertInto assoc set v e now, y.valid = true ∧ y.vpn = v) ↔
      e.valid = true ∨ ∀ y ∈ set, y.vpn ≠ v := by
  unfold TLB.insertInto
  split
  · rename_i i hi
    obtain ⟨hil, hiv, -⟩ := List.findIdx?_eq_some_iff_getElem.mp hi
    have hvi : set[i].vpn = v := by simpa using hiv
    constructor
    · rintro ⟨y, hy, hyv, hyvpn⟩
      obtain ⟨j, hj, rfl⟩ := List.mem_iff_getElem.mp hy
      rw [List.getElem_set] at hyv hyvpn
      split_ifs at hyv hyvpn with hij
      · exact .inl hyv
      · exact absurd hyvpn (hvi ▸ vpn_ne_of_ne hn hil (by simpa using hj) hij)
    · rintro (hval | hno)
      · exact ⟨_, List.mem_iff_getElem.mpr ⟨i, by simpa using hil, List.getElem_set_self _⟩, hval, hv⟩
      · exact absurd hvi (hno _ (List.getElem_mem hil))
  · rename_i hnone
    have hfree : ∀ f ∈ set, f.vpn ≠ v := fun f hf => by simpa using List.findIdx?_eq_none_iff.mp hnone f hf
    refine iff_of_true ⟨{ e with timestamp := now, valid := true }, ?_, rfl, hv⟩ (.inr hfree)
    split_ifs <;> exact List.mem_append_right _ (List.mem_singleton_self _)

/-! ## The whole TLB -/

namespace TLB

/-- What `initialize` with `1 ≤ associativity ≤ tlb_size` leaves and every
call keeps, for `r` the most recent inserts: the configuration `c`, one set
per `tlb_size / associativity`, and each set as `SetTracks` says. -/
structure Tracks (c : TLB.Config) (r : VirtualPageNumber → Option (Address × Nat)) (t : TLB) : Prop where
  config : t.config = c
  associativity_pos : 0 < c.associativity
  numSets_pos : 0 < c.numSets
  length_sets : t.sets.length = c.numSets
  sets : ∀ idx set, t.sets[idx]? = some set → SetTracks c.associativity c.numSets idx r set

theorem init_tracks {c : TLB.Config} {t : TLB} (ht : init c = some t) (hc : 0 < c.associativity)
    (hs : c.associativity ≤ c.tlbSize) : t.Tracks c fun _ => none := by
  rw [init, if_neg (by omega), Option.some.injEq] at ht
  subst ht
  refine ⟨rfl, hc, Nat.div_pos hs hc, List.length_replicate _ _, fun idx set hset => ?_⟩
  rw [(List.getElem?_eq_some_iff.mp hset).2.symm, List.getElem_replicate]
  exact .nil

/-- A lookup hits exactly when the set of `v` holds a valid entry of `v`. -/
theorem lookup_isSome_iff {t t' : TLB} {v : VirtualPageNumber} {idx now : Nat} {res : Option TLBEntry}
    (hs : t.getSetIndex v = some idx) (hl : t.lookup v now = some (res, t')) :
    res.isSome = true ↔ ∃ y ∈ t.sets.getD idx [], y.valid = true ∧ y.vpn = v := by
  have key : ((t.sets.getD idx []).findIdx? fun e => e.valid ∧ e.vpn = v).isSome = true ↔
      ∃ y ∈ t.sets.getD idx [], y.valid = true ∧ y.vpn = v := by
    rw [List.findIdx?_isSome, List.any_eq_true]
    simp
  simp only [lookup, hs, Option.map_some', Option.some.injEq] at hl
  rw [← key]
  split at hl <;> rename_i hf <;> rw [hf, ← (Prod.mk.inj hl).1] <;> rfl

/-- A lookup on a set without an entry of `v` misses. -/
theorem lookup_miss_of_not_mem {t : TLB} {v : VirtualPageNumber} {idx : Nat} (hs : t.getSetIndex v = some idx)
    (hno : ∀ y ∈ t.sets.getD idx [], y.vpn ≠ v) (now : Nat) : ∃ t', t.lookup v now = some (none, t') := by
  have hi : (t.sets.getD idx []).findIdx? (fun e => e.valid ∧ e.vpn = v) = none :=
    List.findIdx?_eq_none_iff.mpr fun y hy => by simp [hno y hy]
  simp only [lookup, hs, Option.map_some', hi]
  exact ⟨_, rfl⟩

section Tracks

variable {c : TLB.Config} {r r' : VirtualPageNumber → Option (Address × Nat)} {t : TLB} (h : t.Tracks c r)
include h

theorem Tracks.getSetIndex (v : VirtualPageNumber) : t.getSetIndex v = some (hashVpn v % c.numSets) := by
  have := h.numSets_pos
  simp only [TLB.getSetIndex, h.config, Config.numSets] at this ⊢
  rw [if_neg (by omega)]

theorem Tracks.setIndex_lt (v : VirtualPageNumber) : hashVpn v % c.numSets < t.sets.length := by
  rw [h.length_sets]; exact Nat.mod_lt _ h.numSets_pos

/-- The set of `v`. -/
theorem Tracks.setTracks (v : VirtualPageNumber) :
    SetTracks c.associativity c.numSets (hashVpn v % c.numSets) r (t.sets.getD (hashVpn v % c.numSets) []) := by
  rw [List.getD_eq_getElem?_getD, List.getElem?_eq_getElem (h.setIndex_lt v), Option.getD_some]
  exact h.sets _ _ (List.getElem?_eq_getElem (h.setIndex_lt v))

/-- The set of `v`, once replaced. -/
theorem Tracks.getD_set (v : VirtualPageNumber) (S : List TLBEntry) :
    (t.sets.set (hashVpn v % c.numSets) S).getD (hashVpn v % c.numSets) [] = S := by
  rw [List.getD_eq_getElem?_getD, List.getElem?_set_self (h.setIndex_lt v), Option.getD_some]

/-- `r` moved only at VPNs no set holds. -/
theorem Tracks.congr_recent
    (hr : ∀ (idx : Nat) (set : List TLBEntry), t.sets[idx]? = some set → ∀ e ∈ set, r' e.vpn = r e.vpn) :
    t.Tracks c r' :=
  { h with sets := fun idx set hs => (h.sets idx set hs).sublist (.refl _) (hr idx set hs) }

/-- One set replaced, and `r` moved only at VPNs of that set. -/
theorem Tracks.update {t' : TLB} {idx : Nat} {set' : List TLBEntry} (hc : t'.config = t.config)
    (hs : t'.sets = t.sets.set idx set') (hset : SetTracks c.associativity c.numSets idx r' set')
    (hr : ∀ w, hashVpn w % c.numSets ≠ idx → r' w = r w) : t'.Tracks c r' := by
  refine ⟨hc.trans h.config, h.associativity_pos, h.numSets_pos, by rw [hs, List.length_set, h.length_sets],
    fun j set hj => ?_⟩
  rw [hs] at hj
  by_cases hij : idx = j
  · subst hij
    obtain ⟨-, rfl⟩ := List.getElem?_eq_some_iff.mp hj
    simpa using hset
  · rw [List.getElem?_set_ne hij] at hj
    have hsj := h.sets j set hj
    exact hsj.sublist (.refl _) fun e he => hr _ (by rw [hsj.hash e he]; exact Ne.symm hij)

/-- `insert(v, e)` with `e.vpn = v`. -/
theorem Tracks.insert (v : VirtualPageNumber) (e : TLBEntry) (now : Nat) (hv : e.vpn = v) :
    ∃ t', t.insert v e now = some t' ∧ t'.Tracks c (recentAfter r (.insert v e now)) := by
  rw [insert_eq, h.getSetIndex v]
  refine ⟨_, rfl, h.update rfl rfl ?_ fun w hw => if_neg (by rintro rfl; exact hw rfl)⟩
  rw [h.config]
  exact (h.setTracks v).insertInto h.associativity_pos now hv rfl

/-- The invariant reads only the configuration and the sets. -/
theorem Tracks.of_sets {t' : TLB} (hc : t'.config = t.config) (hs : t'.sets = t.sets) : t'.Tracks c r :=
  ⟨hc.trans h.config, h.associativity_pos, h.numSets_pos, hs ▸ h.length_sets, hs ▸ h.sets⟩

/-- A lookup keeps the invariant, and a hit answers an entry of `v` with the
addresses `r` gives `v`. -/
theorem Tracks.lookup (v : VirtualPageNumber) (now : Nat) :
    ∃ res t', t.lookup v now = some (res, t') ∧ t'.Tracks c r ∧
      ∀ x, res = some x → x.vpn = v ∧ r v = some (x.cpuAddress, x.gpuAddress) := by
  have hs := h.setTracks v
  simp only [TLB.lookup, h.getSetIndex v, Option.map_some', Option.some.injEq]
  generalize t.sets.getD (hashVpn v % c.numSets) [] = S at hs ⊢
  split
  · rename_i i hi
    obtain ⟨hil, hiv, -⟩ := List.findIdx?_eq_some_iff_getElem.mp hi
    have hv : S[i].vpn = v := (by simpa using hiv : S[i].valid = true ∧ S[i].vpn = v).2
    have hrec := hs.recent _ (List.getElem_mem hil)
    rw [List.getD_eq_getElem?_getD, List.getElem?_eq_getElem hil, Option.getD_some]
    refine ⟨_, _, rfl, h.update rfl rfl (hs.overwrite hil rfl (fun _ _ _ => rfl) hrec) (fun _ _ => rfl), ?_⟩
    rintro x ⟨⟩
    exact ⟨hv, hv ▸ hrec⟩
  · exact ⟨_, _, rfl, h.of_sets rfl rfl, fun x hx => nomatch hx⟩

/-- An invalidate keeps the invariant with `r` forgetting `v`, and leaves no
entry of `v` in its set. -/
theorem Tracks.invalidate (v : VirtualPageNumber) :
    ∃ t', t.invalidate v = some t' ∧ t'.Tracks c (recentAfter r (.invalidate v)) ∧
      ∀ y ∈ t'.sets.getD (hashVpn v % c.numSets) [], y.vpn ≠ v := by
  have hs := h.setTracks v
  have hr : ∀ w, hashVpn w % c.numSets ≠ hashVpn v % c.numSets → recentAfter r (.invalidate v) w = r w :=
    fun w hw => if_neg (by rintro rfl; exact hw rfl)
  simp only [TLB.invalidate, h.getSetIndex v, Option.map_some', Option.some.injEq, exists_eq_left']
  generalize hS : t.sets.getD (hashVpn v % c.numSets) [] = S at hs ⊢
  split
  · rename_i i hi
    obtain ⟨hil, hiv, -⟩ := List.findIdx?_eq_some_iff_getElem.mp hi
    have hv : S[i].vpn = v := by simpa using hiv
    -- the VPNs are distinct, so `v` was at `i` only
    have hne : ∀ y ∈ S.eraseIdx i, y.vpn ≠ v := fun y hy => by
      obtain ⟨j, hj, hji, rfl⟩ := List.mem_eraseIdx_iff_getElem.mp hy
      exact hv ▸ vpn_ne_of_ne hs.nodup hil hj (Ne.symm hji)
    refine ⟨h.update rfl rfl (hs.sublist (List.eraseIdx_sublist _ _) fun y hy => if_neg (hne y hy)) hr, ?_⟩
    rwa [h.getD_set]
  · rename_i hnone
    have hne : ∀ y ∈ S, y.vpn ≠ v := fun y hy => by simpa using List.findIdx?_eq_none_iff.mp hnone y hy
    refine ⟨h.congr_recent fun j set hj y hy => if_neg fun hyv => ?_, hS ▸ hne⟩
    by_cases hji : j = hashVpn v % c.numSets
    · subst hji
      rw [List.getD_eq_getElem?_getD, hj, Option.getD_some] at hS
      exact hne y (hS ▸ hy) hyv
    · exact hji (hyv ▸ (h.sets j set hj).hash y hy).symm

/-- A flush empties every set, and `r` with them. -/
theorem Tracks.flush : t.flush.Tracks c (recentAfter r .flush) := by
  refine ⟨h.config, h.associativity_pos, h.numSets_pos, by simp [TLB.flush, h.length_sets], fun idx set hs => ?_⟩
  simp only [TLB.flush, List.getElem?_map] at hs
  obtain ⟨_, -, rfl⟩ := Option.map_eq_some'.mp hs
  exact .nil

/-- The TLB holds entries of `v` only in the set of `v`. -/
theorem Tracks.forall_ne_iff (v : VirtualPageNumber) :
    (∀ y ∈ t.sets.getD (hashVpn v % c.numSets) [], y.vpn ≠ v) ↔ ∀ set ∈ t.sets, ∀ y ∈ set, y.vpn ≠ v := by
  have hlt := h.setIndex_lt v
  have hget : t.sets.getD (hashVpn v % c.numSets) [] = t.sets[hashVpn v % c.numSets] := by
    rw [List.getD_eq_getElem?_getD, List.getElem?_eq_getElem hlt, Option.getD_some]
  refine ⟨fun hS set hset y hy hyv => ?_, fun hall => hget ▸ hall _ (List.getElem_mem hlt)⟩
  obtain ⟨j, hj, rfl⟩ := List.mem_iff_getElem.mp hset
  have hyj := (h.sets j _ (List.getElem?_eq_getElem hj)).hash y hy
  rw [hyv] at hyj
  subst hyj
  exact hS y (hget ▸ hy) hyv

/-- Right after `insert(v, e)` of an entry of VPN `v`, `lookup(v)` hits
exactly when `e` is valid or the TLB held no entry of `v`. -/
theorem Tracks.lookup_insert (v : VirtualPageNumber) (e : TLBEntry) (now now' : Nat) (hv : e.vpn = v) :
    ∃ t₁ res t₂, t.insert v e now = some t₁ ∧ t₁.lookup v now' = some (res, t₂) ∧
      (res.isSome = true ↔ e.valid = true ∨ ∀ set ∈ t.sets, ∀ y ∈ set, y.vpn ≠ v) := by
  obtain ⟨t₁, h1, h2⟩ := h.insert v e now hv
  have hset : t₁.sets.getD (hashVpn v % c.numSets) [] =
      insertInto t.config.associativity (t.sets.getD (hashVpn v % c.numSets) []) v e now := by
    rw [insert_eq, h.getSetIndex v, Option.map_some', Option.some.injEq] at h1
    rw [← h1, h.getD_set]
  obtain ⟨res, t₂, hl, -, -⟩ := h2.lookup v now'
  refine ⟨t₁, res, t₂, h1, hl, ?_⟩
  rw [lookup_isSome_iff (h2.getSetIndex v) hl, hset, valid_mem_insertInto_iff (h.setTracks v).nodup _ now hv,
    h.forall_ne_iff]

/-- Right after `flush()`, `lookup(v)` misses. -/
theorem Tracks.lookup_flush (v : VirtualPageNumber) (now : Nat) : ∃ t', t.flush.lookup v now = some (none, t') :=
  lookup_miss_of_not_mem (h.flush.getSetIndex v) (fun y hy => by
    simp only [TLB.flush, List.getD_eq_getElem?_getD, List.getElem?_map] at hy
    cases hx : t.sets[hashVpn v % c.numSets]? <;> simp [hx] at hy) now

/-- Every call keeps the invariant when an insert files an entry under its
own VPN. -/
theorem Tracks.perform (k : TLBCall) (hk : ∀ v e now, k = .insert v e now → e.vpn = v) :
    ∃ t', t.perform k = some t' ∧ t'.Tracks c (recentAfter r k) := by
  cases k with
  | insert v e now => exact h.insert v e now (hk v e now rfl)
  | lookup v now =>
    obtain ⟨res, t', hl, ht', -⟩ := h.lookup v now
    exact ⟨t', by simp [TLB.perform, hl], ht'⟩
  | invalidate v =>
    obtain ⟨t', h1, h2, -⟩ := h.invalidate v
    exact ⟨t', h1, h2⟩
  | flush => exact ⟨_, rfl, h.flush⟩

end Tracks

/-- So does every run. -/
theorem Tracks.run {c : TLB.Config} : ∀ (ks : List TLBCall) {t : TLB} {r : VirtualPageNumber → Option (Address × Nat)},
    t.Tracks c r → (∀ v e now, TLBCall.insert v e now ∈ ks → e.vpn = v) →
      ∃ t', t.run ks = some t' ∧ t'.Tracks c (ks.foldl recentAfter r)
  | [], t, _, h, _ => ⟨t, rfl, h⟩
  | k :: ks, _, _, h, hk => by
    obtain ⟨t₁, h1, h2⟩ := h.perform k fun v e now hke => hk v e now (hke ▸ List.mem_cons_self _ _)
    obtain ⟨t', h3, h4⟩ := Tracks.run ks h2 fun v e now hm => hk v e now (List.mem_cons_of_mem _ hm)
    exact ⟨t', by simp [TLB.run, h1, h3], h4⟩

end TLB

/-- From `initialize` with `1 ≤ associativity ≤ tlb_size`, along any calls
whose inserts file each entry under its own VPN: each set holds at most
`associativity` entries with distinct VPNs that all hash to it; a hit answers
an entry of the VPN looked up, with the addresses of the most recent insert
of that VPN not invalidated or flushed since; a lookup right after an insert
of VPN `v` hits exactly when the entry inserted is valid or the TLB held no
entry of `v`; and a lookup right after an invalidate of its VPN or a flush
misses. -/
theorem tlb_tracks_recent_inserts {c : TLB.Config} {t : TLB} (ht : TLB.init c = some t)
    (hc : 1 ≤ c.associativity) (hs : c.associativity ≤ c.tlbSize) (ks : List TLBCall)
    (hk : ∀ v e now, TLBCall.insert v e now ∈ ks → e.vpn = v) :
    ∃ t', t.run ks = some t' ∧
      (∀ idx set, t'.sets[idx]? = some set → set.length ≤ c.associativity ∧ (set.map (·.vpn)).Nodup ∧
        ∀ e ∈ set, t'.getSetIndex e.vpn = some idx) ∧
      (∀ v now x t'', t'.lookup v now = some (some x, t'') →
        x.vpn = v ∧ recent ks v = some (x.cpuAddress, x.gpuAddress)) ∧
      (∀ v e now now', e.vpn = v → ∃ t₁ res t₂, t'.insert v e now = some t₁ ∧ t₁.lookup v now' = some (res, t₂) ∧
        (res.isSome = true ↔ e.valid = true ∨ ∀ set ∈ t'.sets, ∀ y ∈ set, y.vpn ≠ v)) ∧
      (∀ v now, ∃ t₁ t₂, t'.invalidate v = some t₁ ∧ t₁.lookup v now = some (none, t₂)) ∧
      ∀ v now, ∃ t₂, t'.flush.lookup v now = some (none, t₂) := by
  obtain ⟨t', hrun, h⟩ := TLB.Tracks.run ks (TLB.init_tracks ht hc hs) hk
  refine ⟨t', hrun, fun idx set hset => ?_, fun v now x t'' hl => ?_, fun v e now now' hv =>
    h.lookup_insert v e now now' hv, fun v now => ?_, h.lookup_flush⟩
  · have hst := h.sets idx set hset
    exact ⟨hst.length_le, hst.nodup, fun e he => by rw [h.getSetIndex, hst.hash e he]⟩
  · obtain ⟨res, t₁, hl', -, hx⟩ := h.lookup v now
    rw [hl, Option.some.injEq, Prod.mk.injEq] at hl'
    exact hx x hl'.1.symm
  · obtain ⟨t₁, h1, h2, h3⟩ := h.invalidate v
    obtain ⟨t₂, h4⟩ := TLB.lookup_miss_of_not_mem (h2.getSetIndex v) h3 now
    exact ⟨t₁, t₂, h1, h4⟩

/-- A TLB of two sets of two ways, after inserting VPN 5 at `0x1000`: a hit
on VPN 5 answers `0x1000`; a default-constructed entry of VPN 5 inserted over
it is not valid, and `lookup(5)` then misses; the insert of a new VPN 7 is
found at once. -/
theorem tlb_overwrite_misses_new_vpn_hits :
    ∃ t t', TLB.init ⟨4, 2⟩ = some t ∧ t.run [.insert 5 { vpn := 5, cpuAddress := 0x1000 } 0] = some t' ∧
      (∀ x t'', t'.lookup 5 1 = some (some x, t'') → x.vpn = 5 ∧ x.cpuAddress = 0x1000) ∧
      (∃ t₁ t₂, t'.insert 5 { vpn := 5 } 2 = some t₁ ∧ t₁.lookup 5 3 = some (none, t₂)) ∧
      ∃ t₁ x t₂, t'.insert 7 { vpn := 7 } 2 = some t₁ ∧ t₁.lookup 7 3 = some (some x, t₂) := by
  have hq : ((TLB.init ⟨4, 2⟩).bind (·.run [.insert 5 { vpn := 5, cpuAddress := 0x1000 } 0])).map
      (fun t' => (decide (∃ set ∈ t'.sets, ∃ y ∈ set, y.vpn = 5), decide (∀ set ∈ t'.sets, ∀ y ∈ set, y.vpn ≠ 7))) =
      some (true, true) := by
    decide
  obtain ⟨t, ht⟩ := Option.isSome_iff_exists.mp (rfl : (TLB.init ⟨4, 2⟩).isSome = true)
  obtain ⟨t', hrun, -, hhit, hins, -, -⟩ := tlb_tracks_recent_inserts ht (by decide) (by decide)
    [.insert 5 { vpn := 5, cpuAddress := 0x1000 } 0]
    (by simp only [List.mem_singleton, TLBCall.insert.injEq]; rintro _ _ _ ⟨rfl, rfl, rfl⟩; rfl)
  rw [ht, Option.some_bind, hrun] at hq
  simp only [Option.map_some', Option.some.injEq, Prod.mk.injEq, decide_eq_true_eq] at hq
  obtain ⟨⟨set, hset, y, hy, hy5⟩, h7⟩ := hq
  refine ⟨t, t', ht, hrun, fun x t'' hl => ?_, ?_, ?_⟩
  · obtain ⟨hx, hr⟩ := hhit 5 1 x t'' hl
    exact ⟨hx, (Prod.mk.inj (Option.some.inj hr)).1.symm⟩
  · obtain ⟨t₁, res, t₂, h1, h2, hiff⟩ := hins 5 { vpn := 5 } 2 3 rfl
    have hres : res = none := Option.not_isSome_iff_eq_none.mp fun hs =>
      (hiff.mp hs).elim Bool.false_ne_true fun hall => hall set hset y hy hy5
    exact ⟨t₁, t₂, h1, hres ▸ h2⟩
  · obtain ⟨t₁, res, t₂, h1, h2, hiff⟩ := hins 7 { vpn := 7 } 2 3 rfl
    obtain ⟨x, rfl⟩ := Option.isSome_iff_exists.mp (hiff.mpr (.inr h7))
    exact ⟨t₁, x, t₂, h1, h2⟩

/-- In a TLB of one set of two ways: `insert(0, e)` of a default-constructed
entry files a new entry, made valid, and `lookup(0)` hits; the same
`insert(0, e)` again writes `e` as it is over that entry, `valid = false`, and
`lookup(0)` right after it misses. -/
theorem tlb_reinsert_hides_entry :
    (((TLB.init ⟨2, 2⟩).bind (·.run [.insert 0 {} 0])).bind (·.lookup 0 1)).map (·.1.isSome) = some true ∧
      (((TLB.init ⟨2, 2⟩).bind (·.run [.insert 0 {} 0, .insert 0 {} 1])).bind (·.lookup 0 2)).map (·.1) =
        some none := by
  decide

/- `insert(0, e)` of an entry of VPN 1 files it under VPN 1, and `lookup(0)`
misses; a second such insert files VPN 1 twice, and after `invalidate(1)` a
lookup of VPN 1 still hits. -/
example :
    (((TLB.init ⟨2, 2⟩).bind (·.run [.insert 0 { vpn := 1, valid := true } 0])).bind (·.lookup 0 1)).map
        (·.1) = some none ∧
      ((TLB.init ⟨2, 2⟩).bind (·.run [.insert 0 { vpn := 1, valid := true } 0,
        .insert 0 { vpn := 1, valid := true } 1])).map (·.sets.map (·.map (·.vpn))) = some [[1, 1]] ∧
      (((TLB.init ⟨2, 2⟩).bind (·.run [.insert 0 { vpn := 1, valid := true } 0,
        .insert 0 { vpn := 1, valid := true } 1, .invalidate 1])).bind (·.lookup 1 2)).map (·.1.isSome) =
        some true := by
  decide

end UvmSim
