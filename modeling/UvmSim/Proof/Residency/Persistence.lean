import UvmSim.Proof.ReadWrite
import UvmSim.Proof.Residency.RoundTrip
import UvmSim.Proof.Residency.Isolation

/-!
# A page keeps its bytes until it is written

The manager changes host memory only in the `memcpy` of `write_to_vaddr`,
at the host slot of the written VPN's entry. Every other operation leaves
the bytes alone. Under the residency invariant it also leaves each entry's
host slot: `map_to_gpu` and the prefetch loop of `allocate` fill the device
side only, `touch_page` the access fields only, and `allocate` writes no
entry below `next_vpn_`. `free` may remove an entry; its VPN lies below
`next_vpn_`, which never goes down, so no later `allocate` gives it an entry
again.

* `Op.spares`: the operations that leave the page of VPN `v` alone: all but
  `shutdown`, a write through `v` and a write of more than a page;
* `step_retains`: one such operation keeps the page's host slot and the
  bytes of its first `m ≤ page_size`, or removes its entry;
* `page_survives_run`: in every state reached without a VPN wrap, over a
  run of such operations, a read of at most a page through an address of a
  VPN that has an entry at both ends returns at the end what it returned at
  the start;
* `written_bytes_read_back`: there, bytes written to a page are read back
  through any address of the page after any such run that leaves the page
  its entry.

Nor does anything clear a host slot when it changes owner:
`allocate_cpu_page` only sets the slot's bit, and `allocate` copies nothing
into the pages it maps.

* `allocation_reads_slot_bytes`: the first page of a new allocation lies in
  the first free host slot and reads what that slot held; so a freed page's
  bytes reappear in the next allocation that takes its slot
  (`freed_bytes_reappear`).
-/

namespace UvmSim

namespace VirtualMemoryManager

variable {s t u : VirtualMemoryManager} {v m : Nat} {op : Op}

/-- Whether `op` leaves the page of VPN `v` to itself: it is no `shutdown`,
and no write through `v` or of more than a page. -/
def Op.spares (v pageSize : Nat) : Op → Bool
  | .shutdown => false
  | .writeToVaddr a _ n => vaddrToVpn a pageSize != v && decide (n ≤ pageSize)
  | _ => true

/-- `ops` from `s`, or `none` when one of them fails or would wrap
`next_vpn_`. -/
def runNoWrap (s : VirtualMemoryManager) : List Op → Option VirtualMemoryManager
  | [] => some s
  | op :: ops => if s.noWrap op then (s.step op).bind (runNoWrap · ops) else none

theorem ReachableNoWrap.runNoWrap :
    ∀ {ops : List Op} {s t : VirtualMemoryManager}, ReachableNoWrap s → s.runNoWrap ops = some t → ReachableNoWrap t
  | [], _, _, h, hr => by cases hr; exact h
  | op :: ops, _, _, h, hr => by
    simp only [VirtualMemoryManager.runNoWrap] at hr
    split_ifs at hr with hn
    obtain ⟨u, hu, hr⟩ := Option.bind_eq_some.mp hr
    exact (h.step hn hu).runNoWrap hr

/-- From `s` to `t` the page of VPN `v` kept its host slot and the first `m`
bytes in it, or lost its entry. -/
def Retains (v m : Nat) (s t : VirtualMemoryManager) : Prop :=
  t.pageTable.cpuAddresses v = none ∨
    t.pageTable.cpuAddresses v = s.pageTable.cpuAddresses v ∧
      ∀ c, s.pageTable.cpuAddresses v = some c → ∀ k < m, t.memory (c + k) = s.memory (c + k)

theorem Retains.of_cpuAddresses (ha : t.pageTable.cpuAddresses v = s.pageTable.cpuAddresses v)
    (hm : t.memory = s.memory) : Retains v m s t :=
  .inr ⟨ha, fun _ _ _ _ => by rw [hm]⟩

theorem Retains.refl (s : VirtualMemoryManager) : Retains v m s s := .of_cpuAddresses rfl rfl

theorem Retains.trans (h : Retains v m s t) (h' : Retains v m t u) : Retains v m s u := by
  rcases h' with h' | ⟨ha', hm'⟩
  · exact .inl h'
  rcases h with h | ⟨ha, hm⟩
  · exact .inl (ha'.trans h)
  · exact .inr ⟨ha'.trans ha, fun c hc k hk => (hm' c (ha.trans hc) k hk).trans (hm c hc k hk)⟩

/-! ## What each operation does to the bytes and the host slots -/

/-- The host loop of `allocate` writes no byte and keeps `next_vpn_` and the
address map. -/
theorem allocateCpuPages_frame (vs : VirtualPageNumber) :
    ∀ (i k : Nat) (pages : List Address) (u : VirtualMemoryManager),
      (match allocateCpuPages vs i k pages u with | .ok r => r.2 | .error r => r.2).memory = u.memory ∧
        (match allocateCpuPages vs i k pages u with | .ok r => r.2 | .error r => r.2).nextVpn = u.nextVpn ∧
        (match allocateCpuPages vs i k pages u with | .ok r => r.2 | .error r => r.2).vaddrToVpnMap =
          u.vaddrToVpnMap
  | _, 0, _, _ => ⟨rfl, rfl, rfl⟩
  | i, k + 1, pages, u => by
    dsimp only [allocateCpuPages]
    split_ifs
    · exact ⟨rfl, rfl, rfl⟩
    · exact allocateCpuPages_frame vs _ k _ _

/-- So does its prefetch loop. -/
theorem prefetchGpuPages_frame (vs : VirtualPageNumber) (cp : List Address) :
    ∀ (i k : Nat) (u : VirtualMemoryManager),
      (prefetchGpuPages vs cp i k u).memory = u.memory ∧ (prefetchGpuPages vs cp i k u).nextVpn = u.nextVpn
  | _, 0, _ => ⟨rfl, rfl⟩
  | i, k + 1, u => by
    dsimp only [prefetchGpuPages]
    split_ifs
    · exact prefetchGpuPages_frame vs cp _ k _
    · exact prefetchGpuPages_frame vs cp _ k _

/-- `allocate` writes no byte and no entry below `next_vpn_`, and does not
lower `next_vpn_` when its VPNs stay below `2 ^ 64`. -/
theorem allocate_retains (hw : s.Wf) (bytes : Nat) (pf : Bool)
    (hn : s.nextVpn + u32 (alignToPage bytes s.config.pageSize / s.config.pageSize) < 2 ^ 64) :
    (s.allocate bytes pf).2.memory = s.memory ∧ s.nextVpn ≤ (s.allocate bytes pf).2.nextVpn ∧
      ∀ w : Nat, w < s.nextVpn → (s.allocate bytes pf).2.pageTable.lookupEntry w = s.pageTable.lookupEntry w := by
  unfold allocate
  by_cases hi : (!s.initialized) = true
  · rw [if_pos hi]; exact ⟨rfl, le_rfl, fun _ _ => rfl⟩
  rw [if_neg hi]
  dsimp only
  generalize u32 (alignToPage bytes s.config.pageSize / s.config.pageSize) = n at hn ⊢
  obtain ⟨hr, hlook⟩ := allocateVpnRange_of_below hw.below hn.le
  rw [if_neg (by simp [hr])]
  have hlow : ∀ w : Nat, w < s.nextVpn →
      (s.pageTable.allocateVpnRange s.nextVpn n).2.lookupEntry w = s.pageTable.lookupEntry w := fun w hw' => by
    rw [hlook, if_neg (by omega)]
  have h₁ := allocateCpuPages_editedWithin hn n 0 [] { s with pageTable := (s.pageTable.allocateVpnRange s.nextVpn n).2 }
    (Nat.zero_add n)
  have hf := allocateCpuPages_frame s.nextVpn 0 n [] { s with pageTable := (s.pageTable.allocateVpnRange s.nextVpn n).2 }
  split
  · rename_i pages u heq
    rw [heq] at h₁ hf
    refine ⟨hf.1, hf.2.1.ge, fun w hw' => ?_⟩
    rw [PageTable.lookupEntry_deallocateVpnRange, if_neg ?_, h₁.outside w (.inl hw'), hlow w hw']
    rintro ⟨j, hj, hjw⟩
    rw [u64_add_of_lt hn hj.le] at hjw
    omega
  · rename_i pages u heq
    rw [heq] at h₁ hf
    have h₂ : u.pageTable.EditedWithin s.nextVpn (s.nextVpn + n)
        (if pf then prefetchGpuPages s.nextVpn pages 0 n u else u).pageTable := by
      split_ifs
      · exact prefetchGpuPages_editedWithin pages hn n 0 u (Nat.zero_add n)
      · exact .refl _
    have hf₂ : (if pf then prefetchGpuPages s.nextVpn pages 0 n u else u).memory = u.memory ∧
        (if pf then prefetchGpuPages s.nextVpn pages 0 n u else u).nextVpn = u.nextVpn := by
      split_ifs
      · exact prefetchGpuPages_frame s.nextVpn pages 0 n u
      · exact ⟨rfl, rfl⟩
    refine ⟨hf₂.1.trans hf.1, ?_, fun w hw' => ((h₁.trans h₂).outside w (.inl hw')).trans (hlow w hw')⟩
    show s.nextVpn ≤ u64 (_ + n)
    rw [hf₂.2, hf.2.1, u64_add_of_lt hn le_rfl]
    exact Nat.le_add_right _ _

/-- `free` writes no byte and keeps `next_vpn_`. -/
theorem free_frame {a : Address} (h : s.free a = some t) : t.memory = s.memory ∧ t.nextVpn = s.nextVpn := by
  unfold free at h
  split_ifs at h
  · cases h; exact ⟨rfl, rfl⟩
  split at h
  · cases h; exact ⟨rfl, rfl⟩
  obtain ⟨u, hu, rfl⟩ := Option.map_eq_some'.mp h
  have := foldlM_keep (fun s => (s.memory, s.nextVpn)) (fun s v s' h => ?_) _ hu
  · exact Prod.mk.inj this
  simp only [freePage, Option.map_eq_some'] at h
  obtain ⟨_, -, rfl⟩ := h
  rfl

/-- `free` keeps every page or removes its entry. -/
theorem free_retains {a : Address} (h : s.free a = some t) : Retains v m s t := by
  have hm := (free_frame h).1
  by_cases hi : s.initialized = true
  · cases hl : s.vaddrToVpnMap.lookup a with
    | none =>
      simp only [free, hi, hl, Bool.not_true, Bool.false_eq_true, if_false, Option.some.injEq] at h
      rw [← h]
      exact .refl s
    | some vs =>
      have := free_lookupEntry hi hl h v
      split_ifs at this
      · exact .inl (by simp [PageTable.cpuAddresses, this])
      · exact .of_cpuAddresses (by simp [PageTable.cpuAddresses, this]) hm
  · simp only [free, hi, Bool.not_false, if_true, Option.some.injEq, Bool.not_eq_true'] at h
    rw [← h]
    exact .refl s

/-- `touch_page` writes no byte. -/
theorem touchPage_memory {a : Address} {w : Bool} (h : s.touchPage a w = some t) : t.memory = s.memory := by
  unfold touchPage at h
  dsimp only at h
  split_ifs at h
  · cases h; rfl
  split at h
  · rename_i he
    simp only [resolvePageFault, he, Option.map_some', Option.some.injEq] at h
    rw [← h]
    unfold recordAccess
    split <;> rfl
  · rw [Option.map_some', Option.some.injEq] at h
    rw [← h]
    unfold recordAccess
    split <;> rfl

/-- Under the invariant `map_to_gpu` keeps the host side of every entry, the
bytes and `next_vpn_`. -/
theorem mapToGpu_frame (h : s.Consistent) (hw : s.Wf) {a : Address} (hm : s.mapToGpu a = some t) :
    t.pageTable.hostView = s.pageTable.hostView ∧ t.memory = s.memory ∧ t.nextVpn = s.nextVpn := by
  unfold mapToGpu at hm
  dsimp only at hm
  split_ifs at hm
  · cases hm; exact ⟨rfl, rfl, rfl⟩
  split at hm
  · cases hm; exact ⟨rfl, rfl, rfl⟩
  rename_i e he
  cases hg : e.residentOnGpu
  · obtain ⟨k, p, ht⟩ := h.gpu_take_eq_some hw he (h.device.gpuAddress_eq_zero he hg)
    rw [faultToGpu_eq h hw he hg ht] at hm
    cases hm
    refine ⟨?_, rfl, rfl⟩
    simp only [PageTable.modifyEntry_modifyEntry]
    exact PageTable.hostView_modifyEntry fun _ _ => ⟨rfl, rfl⟩
  · rw [faultToGpu, entryAt_of_lookupEntry he, if_pos hg] at hm
    cases hm
    exact ⟨rfl, rfl, rfl⟩

/-! ## Steps and runs -/

/-- An operation that spares a page leaves an initialized manager
initialized, with its configuration and its pool bounds. -/
theorem keeps_of_spares {p : Nat} (hi : s.initialized = true) (hop : op.spares v p = true)
    (ht : s.step op = some t) : Keeps s t := by
  cases hl : op.keepsLifecycle
  · cases op with
    | init c q =>
      rcases init_eq_some ht with ⟨-, rfl⟩ | ⟨hi', -⟩
      · exact Keeps.refl _
      · rw [hi] at hi'; cases hi'
    | shutdown => cases hop
    | _ => cases hl
  · exact step_keeps hl ht

/-- One operation that spares the page of VPN `v`, below `next_vpn_`, keeps
its host slot and the first `m ≤ page_size` bytes in it, or removes its
entry; `v` stays below `next_vpn_`. -/
theorem step_retains (hc : s.Consistent) (hw : s.Wf) (hi : s.initialized = true)
    (hps : s.allocator.config.pageSize = s.config.pageSize) (hv : v < s.nextVpn) (hm : m ≤ s.config.pageSize)
    (hop : op.spares v s.config.pageSize = true) (hn : s.noWrap op) (ht : s.step op = some t) :
    Retains v m s t ∧ v < t.nextVpn := by
  cases op with
  | init c p =>
    rcases init_eq_some ht with ⟨-, rfl⟩ | ⟨hi', -⟩
    · exact ⟨.refl _, hv⟩
    · rw [hi] at hi'; cases hi'
  | shutdown => cases hop
  | allocate bytes pf =>
    cases ht
    obtain ⟨hmem, hle, hlow⟩ := allocate_retains hw bytes pf (by simpa [noWrap, hi] using hn)
    exact ⟨.of_cpuAddresses (by simp only [PageTable.cpuAddresses, hlow v hv]) hmem, Nat.lt_of_lt_of_le hv hle⟩
  | free a => exact ⟨free_retains ht, (free_frame ht).2 ▸ hv⟩
  | mapToCpu a b =>
    rw [mapToCpu_of_consistent hc hw (show s.mapToCpu a b = some t from ht)]
    exact ⟨.refl s, hv⟩
  | mapToGpu a | prefetchToGpu a =>
    obtain ⟨hh, hmem, hnv⟩ := mapToGpu_frame hc hw ht
    exact ⟨.of_cpuAddresses (congrFun (PageTable.cpuAddresses_of_hostView hh) v) hmem, hnv ▸ hv⟩
  | touchPage a w =>
    have hr := touchPage_sameResidency ht
    exact ⟨.of_cpuAddresses (congrFun (PageTable.cpuAddresses_of_hostView hr.hostView) v) (touchPage_memory ht),
      hr.nextVpn ▸ hv⟩
  | readFromVaddr a b n =>
    obtain ⟨⟨b', u⟩, hu, rfl⟩ := Option.map_eq_some'.mp ht
    rw [readFromVaddr_of_consistent hc hw hu]
    exact ⟨.refl _, hv⟩
  | writeToVaddr a buf n =>
    simp only [Op.spares, bne_iff_ne, ne_eq, Bool.and_eq_true, decide_eq_true_eq] at hop
    have hr := writeToVaddr_sameResidency hc hw ht
    refine ⟨?_, hr.nextVpn ▸ hv⟩
    rcases writeToVaddr_eq hc hw ht with rfl | ⟨l, e, rfl, he, rfl⟩
    · exact .refl _
    refine .inr ⟨congrFun (PageTable.cpuAddresses_of_hostView hr.hostView) v, fun c hc' k hk => ?_⟩
    obtain ⟨e', he', rfl⟩ := Option.map_eq_some'.mp hc'
    have := hc.cpuAddress_apart hw he he' hop.1
    refine if_neg fun hx => ?_
    dsimp only [Address] at this hx
    omega
  | syncAllMigrations => cases ht; exact ⟨.refl s, hv⟩
  | resetCounters => cases ht; exact ⟨.of_cpuAddresses rfl rfl, hv⟩

/-- A run of operations that spare the page of VPN `v`, below `next_vpn_`,
keeps its host slot and the first `m ≤ page_size` bytes in it, or removes
its entry, and keeps the manager initialized with its configuration. -/
theorem runNoWrap_retains :
    ∀ {ops : List Op} {s t : VirtualMemoryManager}, ReachableNoWrap s → s.initialized = true → v < s.nextVpn →
      m ≤ s.config.pageSize → (∀ op ∈ ops, op.spares v s.config.pageSize = true) → s.runNoWrap ops = some t →
        Retains v m s t ∧ Keeps s t
  | [], _, _, _, _, _, _, _, hr => by cases hr; exact ⟨.refl _, Keeps.refl _⟩
  | op :: ops, s, t, h, hi, hv, hm, hops, hr => by
    simp only [VirtualMemoryManager.runNoWrap] at hr
    split_ifs at hr with hn
    obtain ⟨u, hu, hr⟩ := Option.bind_eq_some.mp hr
    obtain ⟨hc, hw⟩ := h.runInv.1 hi
    have hop := hops op (List.mem_cons_self _ _)
    have hk := keeps_of_spares hi hop hu
    obtain ⟨hret, hv'⟩ := step_retains hc hw hi (h.reachable.allocator_of_initialized hi).2 hv hm hop hn hu
    obtain ⟨hret', hk'⟩ := runNoWrap_retains (h.step hn hu) (hk.initialized.trans hi) hv' (hk.config ▸ hm)
      (fun op' hop' => hk.config ▸ hops op' (List.mem_cons_of_mem _ hop')) hr
    exact ⟨hret.trans hret', hk.trans hk'⟩

/-! ## A new page's bytes -/

/-- The first page of a successful host loop holds the first free host
slot. -/
theorem allocateCpuPages_first_slot (hw : s.Wf) {k : Nat} (hn : s.nextVpn + (k + 1) < 2 ^ 64) {j : Nat}
    {q : SlotPool} (ht : s.allocator.cpu.take = some (j, q)) {pages : List Address}
    (hok : allocateCpuPages s.nextVpn 0 (k + 1) []
      { s with pageTable := (s.pageTable.allocateVpnRange s.nextVpn (k + 1)).2 } = .ok (pages, u)) :
    u.pageTable.cpuAddresses s.nextVpn = some (s.allocator.cpuSlot j) := by
  obtain ⟨-, hlook⟩ := allocateVpnRange_of_below hw.below hn.le
  have hrest : ∀ (u' : VirtualMemoryManager) (pages' : List Address),
      allocateCpuPages s.nextVpn 1 k pages' u' = .ok (pages, u) →
        u.pageTable.lookupEntry s.nextVpn = u'.pageTable.lookupEntry s.nextVpn := fun u' pages' h => by
    have he := allocateCpuPages_editedWithin hn k 1 pages' u' (Nat.add_comm 1 k)
    rw [h] at he
    exact he.outside s.nextVpn (.inl (Nat.lt_succ_self _))
  simp only [allocateCpuPages, PageAllocator.allocateCpuPage_of_take ht, if_neg (hw.shaped.cpuSlot_ne_zero j),
    u64_add_of_lt hn (Nat.zero_le _), Nat.zero_add] at hok
  simp [PageTable.cpuAddresses, hrest _ _ hok, PageTable.updateAccessTime, PageTable.setCpuResident, hlook]

/-- Under the invariant, a read through a nonzero address whose VPN's entry
has its host slot at `c`, within the host pool, into a buffer of at least `m`
bytes, copies the `m` bytes from `c`. -/
theorem readFromVaddr_of_cpuAddress (h : s.Consistent) (hw : s.Wf) (hi : s.initialized = true) {b : Address}
    (hb : b ≠ 0) {c : Address} (hc : s.pageTable.cpuAddresses (vaddrToVpn b s.config.pageSize) = some c)
    {l : List UInt8} {m : Nat} (hpool : s.inHostPool c m) (hl : m ≤ l.length) :
    (s.readFromVaddr b (some l) m).map (·.1) =
      some (some ((List.range m).map (fun k => s.memory (c + k)) ++ l.drop m)) := by
  obtain ⟨e, he, rfl⟩ := Option.map_eq_some'.mp hc
  simp [readFromVaddr, hi, hb, hostEntry_of_consistent h hw, he, hw.hostBacked _ e he, hpool, hl]

/-- Under the invariant, a write through a nonzero address of a mapped VPN
that returns had its bytes inside the host pool and the buffer, copied them
to the entry's host slot and marked the entry dirty. -/
theorem writeToVaddr_of_entry (h : s.Consistent) (hw : s.Wf) (hi : s.initialized = true) {a : Address} (ha : a ≠ 0)
    {e : PageTableEntry} (he : s.pageTable.lookupEntry (vaddrToVpn a s.config.pageSize) = some e) {l : List UInt8}
    {n : Nat} (hwr : s.writeToVaddr a (some l) n = some t) :
    s.inHostPool e.cpuAddress n ∧ n ≤ l.length ∧ t = { s with
      memory := fun x => if e.cpuAddress ≤ x ∧ x < e.cpuAddress + n then l.getD (x - e.cpuAddress) 0 else s.memory x
      pageTable := s.pageTable.modifyEntry (vaddrToVpn a s.config.pageSize) fun e => { e with isDirty := true } } := by
  simp only [writeToVaddr] at hwr
  rw [if_neg (by simp [hi, ha])] at hwr
  simp only [hostEntry_of_consistent h hw, he, hw.hostBacked _ e he, Option.bind_eq_bind, Option.some_bind,
    if_false] at hwr
  split_ifs at hwr with hp
  exact ⟨hp.1, hp.2, (Option.some.inj hwr).symm⟩

end VirtualMemoryManager

open VirtualMemoryManager in
/-- In every state reached without a VPN wrap, while the manager is
initialized: over any run without a wrap of operations none of which is a
`shutdown`, a write through `b`'s VPN or a write of more than a page, a read
of at most a page through `b` returns at the end what it returned at the
start, when `b`'s VPN has an entry at both ends. -/
theorem page_survives_run {s t : VirtualMemoryManager} (h : ReachableNoWrap s) (hi : s.initialized = true)
    {b : Address} {ops : List Op}
    (hops : ∀ op ∈ ops, op.spares (vaddrToVpn b s.config.pageSize) s.config.pageSize = true)
    (hrun : s.runNoWrap ops = some t) (hs : (s.pageTable.lookupEntry (vaddrToVpn b s.config.pageSize)).isSome)
    (ht : (t.pageTable.lookupEntry (vaddrToVpn b s.config.pageSize)).isSome) (out : Buffer) {m : Nat}
    (hm : m ≤ s.config.pageSize) :
    (t.readFromVaddr b out m).map (·.1) = (s.readFromVaddr b out m).map (·.1) := by
  obtain ⟨hc, hw⟩ := h.runInv.1 hi
  obtain ⟨e, he⟩ := Option.isSome_iff_exists.mp hs
  obtain ⟨hret, hk⟩ := runNoWrap_retains h hi (hw.below _ e he) hm hops hrun
  obtain ⟨hct, hwt⟩ := (h.runNoWrap hrun).runInv.1 (hk.initialized.trans hi)
  rcases hret with hnone | ⟨ha, hmem⟩
  · simp [PageTable.cpuAddresses, Option.map_eq_none'] at hnone
    simp [hnone] at ht
  · exact readFromVaddr_congr hc hw hct hwt hk.initialized hk.config hk.cpuPool hk.allocatorConfig ha hmem out

open VirtualMemoryManager in
/-- In every state reached without a VPN wrap, while the manager is
initialized: after a write of `n` bytes of `l` through a nonzero address `a`
of a mapped VPN, and any run without a wrap of operations none of which is a
`shutdown`, a write through that VPN or a write of more than a page, a read
of `m ≤ n` bytes, at most a page, through any nonzero address of the VPN
returns the first `m` bytes of `l`, when the VPN still has an entry. -/
theorem written_bytes_read_back {s u t : VirtualMemoryManager} (h : ReachableNoWrap s) (hi : s.initialized = true)
    {a : Address} (ha : a ≠ 0) (he : (s.pageTable.lookupEntry (vaddrToVpn a s.config.pageSize)).isSome)
    {l : List UInt8} {n : Nat} (hwr : s.writeToVaddr a (some l) n = some u) {ops : List Op}
    (hops : ∀ op ∈ ops, op.spares (vaddrToVpn a s.config.pageSize) s.config.pageSize = true)
    (hrun : u.runNoWrap ops = some t) (ht : (t.pageTable.lookupEntry (vaddrToVpn a s.config.pageSize)).isSome)
    {b : Address} (hb : b ≠ 0) (hab : vaddrToVpn b s.config.pageSize = vaddrToVpn a s.config.pageSize)
    {out : List UInt8} {m : Nat} (hmn : m ≤ n) (hmp : m ≤ s.config.pageSize) (hout : m ≤ out.length) :
    (t.readFromVaddr b (some out) m).map (·.1) = some (some (l.take m ++ out.drop m)) := by
  obtain ⟨hc, hw⟩ := h.runInv.1 hi
  obtain ⟨e, hee⟩ := Option.isSome_iff_exists.mp he
  have hsr := writeToVaddr_sameResidency hc hw hwr
  have hku := writeToVaddr_keeps hwr
  have hu : ReachableNoWrap u := h.step (show s.noWrap (.writeToVaddr a (some l) n) = true from rfl) hwr
  obtain ⟨hcu, hwu⟩ : u.Consistent ∧ u.Wf := ⟨hc.of_same hsr, hw.of_same hsr⟩
  have hca : u.pageTable.cpuAddresses (vaddrToVpn a s.config.pageSize) = some e.cpuAddress := by
    rw [PageTable.cpuAddresses_of_hostView hsr.hostView]
    simp [PageTable.cpuAddresses, hee]
  obtain ⟨hpool, hl, hueq⟩ := writeToVaddr_of_entry hc hw hi ha hee hwr
  have hread : (u.readFromVaddr b (some out) m).map (·.1) = some (some (l.take m ++ out.drop m)) := by
    have hpool' : u.inHostPool e.cpuAddress m := by
      simp only [inHostPool, hku.cpuPool, hku.allocatorConfig] at hpool ⊢
      dsimp only [Address] at hpool ⊢
      omega
    rw [readFromVaddr_of_cpuAddress hcu hwu (hku.initialized.trans hi) hb (by rw [hku.config, hab]; exact hca)
      hpool' hout, ← map_range_getD (hmn.trans hl)]
    congr 3
    refine List.map_congr_left fun k hk => ?_
    have hk := List.mem_range.mp hk
    rw [hueq]
    dsimp only
    rw [if_pos ⟨Nat.le_add_right _ _, Nat.add_lt_add_left (Nat.lt_of_lt_of_le hk hmn) _⟩, Nat.add_sub_cancel_left]
  obtain ⟨hret, hk⟩ := runNoWrap_retains hu (hku.initialized.trans hi)
    ((hw.below _ e hee).trans_eq hsr.nextVpn.symm)
    (hku.config ▸ hmp) (fun op hop => hku.config ▸ hops op hop) hrun
  obtain ⟨hct, hwt⟩ := (hu.runNoWrap hrun).runInv.1 (hk.initialized.trans (hku.initialized.trans hi))
  rcases hret with hnone | ⟨hat, hmem⟩
  · simp [PageTable.cpuAddresses, Option.map_eq_none'] at hnone
    simp [hnone] at ht
  have hv : vaddrToVpn b u.config.pageSize = vaddrToVpn a s.config.pageSize := by rw [hku.config, hab]
  rw [← hread]
  exact readFromVaddr_congr hcu hwu hct hwt hk.initialized hk.config hk.cpuPool hk.allocatorConfig (hv ▸ hat)
    (hv ▸ hmem) _

open VirtualMemoryManager in
/-- Two pages allocated at `0` and `4096`: three bytes `7` written through
`4096` are read back, two of them, after a `map_to_gpu` of that page, a write
to the other, a prefetching allocation and a `touch_page`. -/
theorem write_read_back_after_traffic :
    ∃ s u t, (fresh fun _ => 0).run [.init smallConfig 0x10000, .allocate 8192 false] = some s ∧
      s.writeToVaddr 4096 (some [7, 7, 7]) 3 = some u ∧
      u.runNoWrap [.mapToGpu 4096, .writeToVaddr 100 (some [1]) 1, .allocate 4096 true, .touchPage 4096 true] =
        some t ∧
      (t.readFromVaddr 4096 (some [0, 0, 0]) 2).map (·.1) = some (some [7, 7, 0]) := by
  have h : ((fresh fun _ => 0).step (.init smallConfig 0x10000)).map (fun s =>
      (s.noWrap (.allocate 8192 false), (s.step (.allocate 8192 false)).map fun s =>
        (decide (s.initialized = true ∧ (s.pageTable.lookupEntry (vaddrToVpn 4096 s.config.pageSize)).isSome ∧
          (∀ op ∈ [Op.mapToGpu 4096, .writeToVaddr 100 (some [1]) 1, .allocate 4096 true, .touchPage 4096 true],
            op.spares (vaddrToVpn 4096 s.config.pageSize) s.config.pageSize = true) ∧ 2 ≤ s.config.pageSize),
          (s.writeToVaddr 4096 (some [7, 7, 7]) 3).map fun u =>
            (u.runNoWrap [.mapToGpu 4096, .writeToVaddr 100 (some [1]) 1, .allocate 4096 true,
              .touchPage 4096 true]).map fun t => (t.pageTable.lookupEntry (vaddrToVpn 4096 s.config.pageSize)).isSome))) =
      some (true, some (true, some (some true))) := by
    decide
  obtain ⟨s₁, hs₁, h⟩ := Option.map_eq_some'.mp h
  simp only [Prod.mk.injEq, Option.map_eq_some', decide_eq_true_eq] at h
  obtain ⟨hn, s₂, hs₂, ⟨hi, he, hops, hp⟩, u, hu, t, ht, hte⟩ := h
  exact ⟨s₂, u, t, by simp [run, hs₁, hs₂], hu, ht,
    written_bytes_read_back (.step (.step (.fresh _) (by rfl) hs₁) hn hs₂) hi (by decide) he hu hops ht hte
      (by decide) rfl (by decide) hp (by decide)⟩

open VirtualMemoryManager in
/-- Two pages allocated at `0` and `4096`: a `map_to_gpu` through `100`, a
write of two bytes through `4096` and a prefetching allocation leave what two
bytes read through `100` return. -/
theorem first_page_survives_traffic :
    ∃ s t, (fresh fun _ => 0).run [.init smallConfig 0x10000, .allocate 8192 false] = some s ∧
      s.runNoWrap [.mapToGpu 100, .writeToVaddr 4096 (some [7, 7]) 2, .allocate 4096 true] = some t ∧
      (t.readFromVaddr 100 (some [0, 0]) 2).map (·.1) = (s.readFromVaddr 100 (some [0, 0]) 2).map (·.1) := by
  have h : ((fresh fun _ => 0).step (.init smallConfig 0x10000)).map (fun s =>
      (s.noWrap (.allocate 8192 false), (s.step (.allocate 8192 false)).map fun t =>
        decide (t.initialized = true ∧
          (∀ op ∈ [Op.mapToGpu 100, .writeToVaddr 4096 (some [7, 7]) 2, .allocate 4096 true],
            op.spares (vaddrToVpn 100 t.config.pageSize) t.config.pageSize = true) ∧
          (t.pageTable.lookupEntry (vaddrToVpn 100 t.config.pageSize)).isSome ∧ 2 ≤ t.config.pageSize ∧
          ((t.runNoWrap [.mapToGpu 100, .writeToVaddr 4096 (some [7, 7]) 2, .allocate 4096 true]).map fun u =>
            (u.pageTable.lookupEntry (vaddrToVpn 100 t.config.pageSize)).isSome) = some true))) =
      some (true, some true) := by
    decide
  obtain ⟨s₁, hs₁, h⟩ := Option.map_eq_some'.mp h
  simp only [Prod.mk.injEq, Option.map_eq_some', decide_eq_true_eq] at h
  obtain ⟨hn, s₂, hs₂, hi, hops, hs, h2, t, ht, hte⟩ := h
  exact ⟨s₂, t, by simp [run, hs₁, hs₂], ht,
    page_survives_run (.step (.step (.fresh _) (by rfl) hs₁) hn hs₂) hi hops ht hs hte (some [0, 0]) h2⟩

open VirtualMemoryManager in
/-- In every state reached without a VPN wrap, while the manager is
initialized: an `allocate` of at least one page, with room in the host pool,
VPNs below `2 ^ 64` and a base address that is neither null nor wrapped,
places its first page in the first free host slot and leaves the bytes there:
a read of at most a page through the address it returns copies what the slot
held before. -/
theorem allocation_reads_slot_bytes {s : VirtualMemoryManager} (h : ReachableNoWrap s) (hi : s.initialized = true)
    (bytes : Nat) (pf : Bool) (hpos : 0 < u32 (alignToPage bytes s.config.pageSize / s.config.pageSize))
    (hroom : u32 (alignToPage bytes s.config.pageSize / s.config.pageSize) ≤ s.allocator.getAvailableCpuPages)
    (hn : s.nextVpn + u32 (alignToPage bytes s.config.pageSize / s.config.pageSize) < 2 ^ 64)
    (hv0 : 0 < s.nextVpn) (hva : s.nextVpn * s.config.pageSize < 2 ^ 64) {l : List UInt8} {m : Nat}
    (hm : m ≤ s.config.pageSize) (hl : m ≤ l.length) :
    ∃ j, firstFree s.allocator.cpu.bitmap = some j ∧
      ((s.allocate bytes pf).2.readFromVaddr (s.allocate bytes pf).1 (some l) m).map (·.1) =
        some (some ((List.range m).map (fun k => s.memory (s.allocator.cpuPool + j * s.config.pageSize + k)) ++
          l.drop m)) := by
  obtain ⟨hc, hw⟩ := h.runInv.1 hi
  obtain ⟨ha, hP⟩ := h.reachable.allocator_of_initialized hi
  have hk := allocate_keeps s bytes pf
  obtain ⟨hcu, hwu⟩ := allocate_consistent hc hw bytes pf hn
  have hmem := (allocate_retains hw bytes pf hn).1
  obtain ⟨j, q, ht⟩ := SlotPool.take_of_available ha.cpu_counted (Nat.lt_of_lt_of_le hpos hroom)
  obtain ⟨j', hj', hjq⟩ := Option.map_eq_some'.mp ht
  cases (Prod.mk.inj hjq).1
  refine ⟨j, hj', ?_⟩
  generalize hnum : u32 (alignToPage bytes s.config.pageSize / s.config.pageSize) = n at hpos hroom hn
  obtain ⟨pages, u, hok, heq⟩ := allocate_eq_of_room hw ha hi pf hnum hroom hn
  have haddr : (s.allocate bytes pf).1 = vpnToVaddr s.nextVpn (s.allocate bytes pf).2.config.pageSize := by
    rw [heq]
  rw [hk.config] at haddr
  obtain ⟨k, rfl⟩ : ∃ k, n = k + 1 := ⟨n - 1, by omega⟩
  have hloop := allocateCpuPages_spec hn (k + 1) 0 [] _ (Nat.zero_add _) (HostLoop.start hc hw hn)
  rw [hok] at hloop
  have hslot : (s.allocate bytes pf).2.pageTable.cpuAddresses s.nextVpn = some (s.allocator.cpuSlot j) := by
    rw [heq]
    dsimp only
    split_ifs
    · rw [PageTable.cpuAddresses_of_hostView
        (prefetchGpuPages_spec pages hn (k + 1) 0 u (Nat.zero_add _) (hloop.prefetchStart 0)).hostView]
      exact allocateCpuPages_first_slot hw hn ht hok
    · exact allocateCpuPages_first_slot hw hn ht hok
  have hps := hw.shaped.pageSize_pos
  have hvpn : vaddrToVpn (vpnToVaddr s.nextVpn s.config.pageSize) s.config.pageSize = s.nextVpn := by
    rw [vaddrToVpn, vpnToVaddr, u64_of_lt hva, Nat.mul_div_cancel _ (hP ▸ hps)]
  have hb : vpnToVaddr s.nextVpn s.config.pageSize ≠ 0 := by
    rw [vpnToVaddr, u64_of_lt hva]
    exact (Nat.mul_pos hv0 (hP ▸ hps)).ne'
  have hpool : (s.allocate bytes pf).2.inHostPool (s.allocator.cpuSlot j) m := by
    have hj := (Nat.le_div_iff_mul_le hps).mp (ha.cpu_length ▸ SlotPool.take_lt_length ht)
    simp only [inHostPool, hk.cpuPool, hk.allocatorConfig, PageAllocator.cpuSlot, Nat.succ_mul] at hj ⊢
    dsimp only [Address]
    omega
  rw [haddr, readFromVaddr_of_cpuAddress hcu hwu (hk.initialized.trans hi) hb (by rw [hk.config, hvpn]; exact hslot)
    hpool hl, hmem]
  simp only [PageAllocator.cpuSlot, hP]

open VirtualMemoryManager in
/-- Pages allocated at `0` and `4096`, two bytes `7` written through
`4096`, the second page freed: a new allocation takes its host slot and reads
back the two bytes. -/
theorem freed_bytes_reappear :
    ∃ s, (fresh fun _ => 0).runNoWrap [.init smallConfig 0x10000, .allocate 4096 false, .allocate 4096 false,
        .writeToVaddr 4096 (some [7, 7]) 2, .free 4096] = some s ∧
      ((s.allocate 4096 false).2.readFromVaddr (s.allocate 4096 false).1 (some [0, 0]) 2).map (·.1) =
        some (some [7, 7]) := by
  have h : ((fresh fun _ => 0).runNoWrap [.init smallConfig 0x10000, .allocate 4096 false, .allocate 4096 false,
      .writeToVaddr 4096 (some [7, 7]) 2, .free 4096]).map (fun s =>
        decide (s.initialized = true ∧ 0 < u32 (alignToPage 4096 s.config.pageSize / s.config.pageSize) ∧
          u32 (alignToPage 4096 s.config.pageSize / s.config.pageSize) ≤ s.allocator.getAvailableCpuPages ∧
          s.nextVpn + u32 (alignToPage 4096 s.config.pageSize / s.config.pageSize) < 2 ^ 64 ∧ 0 < s.nextVpn ∧
          s.nextVpn * s.config.pageSize < 2 ^ 64 ∧ 2 ≤ s.config.pageSize ∧
          firstFree s.allocator.cpu.bitmap = some 1 ∧
          (List.range 2).map (fun k => s.memory (s.allocator.cpuPool + 1 * s.config.pageSize + k)) = [7, 7])) =
      some true := by
    decide
  obtain ⟨s, hs, h⟩ := Option.map_eq_some'.mp h
  simp only [decide_eq_true_eq] at h
  obtain ⟨hi, hpos, hroom, hn, hv0, hva, hm, hff, hmem⟩ := h
  obtain ⟨j, hj, hr⟩ := allocation_reads_slot_bytes ((ReachableNoWrap.fresh _).runNoWrap hs) hi 4096 false hpos
    hroom hn hv0 hva hm (l := [0, 0]) le_rfl
  rw [hff, Option.some.injEq] at hj
  subst hj
  exact ⟨s, hs, by rw [hr, hmem]; rfl⟩

end UvmSim
