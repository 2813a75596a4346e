import UvmSim.Proof.Residency.Slots
import UvmSim.Impl.Access

/-!
# The residency invariant

`Consistent` says of a state what `map_to_gpu` and `resolve_page_fault`
rely on: an entry is resident on a side exactly when it holds an address
there; the ledger `gpu_resident_pages_` holds exactly the device-resident
VPNs; the occupied slots of each pool are exactly the addresses the entries
hold in it, no two entries sharing one. It has a host half and a device
half; each reads only its side of the entries (`hostView`, `deviceView`),
its pool and, on the device, the ledger.

`Wf` is what the runs without a VPN wrap keep besides: the allocator's
shape, two pools of one size, every entry backed by a host slot and below
`next_vpn_`.

The lemmas say once what each kind of write does to the invariant: writes
that keep both views (`Consistent.of_same`), a slot taken for an entry that
had none (`HostConsistent.assign`, `DeviceConsistent.assign`), entries added
with no address (`Consistent.extend`), entries removed and their slots
released (`Consistent.remove`). `Consistent.gpu_take_eq_some` is the counting
argument: an entry without a device slot finds a free one, since the entries
hold distinct host slots and the host pool is no larger than the device pool.
-/

namespace UvmSim

namespace PageTable

/-- The host side of each VPN's entry: its residency bit and host address. -/
def hostView (pt : PageTable) (v : VirtualPageNumber) : Option (Bool × Address) :=
  (pt.lookupEntry v).map fun e => (e.residentOnCpu, e.cpuAddress)

/-- The device side of each VPN's entry: its residency bit and device address. -/
def deviceView (pt : PageTable) (v : VirtualPageNumber) : Option (Bool × Nat) :=
  (pt.lookupEntry v).map fun e => (e.residentOnGpu, e.gpuAddress)

/-- The host address of each VPN's entry. -/
def cpuAddresses (pt : PageTable) (v : VirtualPageNumber) : Option Address :=
  (pt.lookupEntry v).map (·.cpuAddress)

/-- The device address of each VPN's entry. -/
def gpuAddresses (pt : PageTable) (v : VirtualPageNumber) : Option Nat :=
  (pt.lookupEntry v).map (·.gpuAddress)

theorem modifyEntry_modifyEntry (pt : PageTable) (v : VirtualPageNumber) (f g : PageTableEntry → PageTableEntry) :
    (pt.modifyEntry v f).modifyEntry v g = pt.modifyEntry v (g ∘ f) := by
  cases h : pt.lookupEntry v with
  | none => simp only [modifyEntry, h]
  | some e =>
    have h' : (pt.modifyEntry v f).lookupEntry v = some (f e) := by simp [h]
    simp only [modifyEntry, h] at h' ⊢
    simp only [h', Function.comp_apply, Finmap.insert_insert]

variable {pt pt' : PageTable} {v : VirtualPageNumber} {f : PageTableEntry → PageTableEntry}

/-- Two writes to one entry that agree on what `φ` reads of it leave the
same view `φ` of the table. -/
theorem map_lookupEntry_modifyEntry {β : Type} (φ : PageTableEntry → β) {g : PageTableEntry → PageTableEntry}
    (h : ∀ e, pt.lookupEntry v = some e → φ (f e) = φ (g e)) (w : VirtualPageNumber) :
    ((pt.modifyEntry v f).lookupEntry w).map φ = ((pt.modifyEntry v g).lookupEntry w).map φ := by
  simp only [lookupEntry_modifyEntry]
  split_ifs
  · cases he : pt.lookupEntry v with
    | none => rfl
    | some e => simp [h e he]
  · rfl

theorem lookupEntry_modifyEntry_id (w : VirtualPageNumber) : (pt.modifyEntry v id).lookupEntry w = pt.lookupEntry w := by
  rw [lookupEntry_modifyEntry]
  split_ifs with hw
  · simp [hw]
  · rfl

theorem hostView_modifyEntry
    (h : ∀ e, pt.lookupEntry v = some e → (f e).residentOnCpu = e.residentOnCpu ∧ (f e).cpuAddress = e.cpuAddress) :
    (pt.modifyEntry v f).hostView = pt.hostView := by
  funext w
  simp only [hostView]
  rw [map_lookupEntry_modifyEntry _ (g := id) (fun e he => by simp [h e he]) w, lookupEntry_modifyEntry_id]

theorem deviceView_modifyEntry
    (h : ∀ e, pt.lookupEntry v = some e → (f e).residentOnGpu = e.residentOnGpu ∧ (f e).gpuAddress = e.gpuAddress) :
    (pt.modifyEntry v f).deviceView = pt.deviceView := by
  funext w
  simp only [deviceView]
  rw [map_lookupEntry_modifyEntry _ (g := id) (fun e he => by simp [h e he]) w, lookupEntry_modifyEntry_id]

theorem deviceView_modifyEntry_congr {g : PageTableEntry → PageTableEntry}
    (h : ∀ e, pt.lookupEntry v = some e → (f e).residentOnGpu = (g e).residentOnGpu ∧ (f e).gpuAddress = (g e).gpuAddress) :
    (pt.modifyEntry v f).deviceView = (pt.modifyEntry v g).deviceView :=
  funext <| map_lookupEntry_modifyEntry _ fun e he => by simp [h e he]

@[simp] theorem hostView_setGpuResident (pt : PageTable) (v : VirtualPageNumber) (g : Nat) :
    (pt.setGpuResident v g).hostView = pt.hostView :=
  hostView_modifyEntry fun _ _ => ⟨rfl, rfl⟩

@[simp] theorem deviceView_setCpuResident (pt : PageTable) (v : VirtualPageNumber) (c : Address) :
    (pt.setCpuResident v c).deviceView = pt.deviceView :=
  deviceView_modifyEntry fun _ _ => ⟨rfl, rfl⟩

theorem exists_of_hostView (h : pt'.hostView = pt.hostView) {e : PageTableEntry} (he : pt'.lookupEntry v = some e) :
    ∃ e', pt.lookupEntry v = some e' ∧ e'.residentOnCpu = e.residentOnCpu ∧ e'.cpuAddress = e.cpuAddress := by
  have := congrFun h v
  simp only [hostView, he, Option.map_some'] at this
  obtain ⟨e', he', hr⟩ := Option.map_eq_some'.mp this.symm
  simp only [Prod.mk.injEq] at hr
  exact ⟨e', he', hr⟩

theorem exists_of_deviceView (h : pt'.deviceView = pt.deviceView) {e : PageTableEntry} (he : pt'.lookupEntry v = some e) :
    ∃ e', pt.lookupEntry v = some e' ∧ e'.residentOnGpu = e.residentOnGpu ∧ e'.gpuAddress = e.gpuAddress := by
  have := congrFun h v
  simp only [deviceView, he, Option.map_some'] at this
  obtain ⟨e', he', hr⟩ := Option.map_eq_some'.mp this.symm
  simp only [Prod.mk.injEq] at hr
  exact ⟨e', he', hr⟩

theorem cpuAddresses_of_hostView (h : pt'.hostView = pt.hostView) : pt'.cpuAddresses = pt.cpuAddresses := by
  funext w
  have := congrArg (Option.map Prod.snd) (congrFun h w)
  simpa [hostView, cpuAddresses, Option.map_map, Function.comp_def] using this

theorem gpuAddresses_of_deviceView (h : pt'.deviceView = pt.deviceView) : pt'.gpuAddresses = pt.gpuAddresses := by
  funext w
  have := congrArg (Option.map Prod.snd) (congrFun h w)
  simpa [deviceView, gpuAddresses, Option.map_map, Function.comp_def] using this

end PageTable

/-- The host half of the invariant: an entry is host-resident exactly when
it holds a host address, and the occupied host slots are the host addresses
of the entries, one entry per slot. -/
structure HostConsistent (pt : PageTable) (a : PageAllocator) : Prop where
  resident : ∀ v e, pt.lookupEntry v = some e → (e.residentOnCpu = true ↔ e.cpuAddress ≠ 0)
  slots : SlotsMatch pt.cpuAddresses a.cpu.bitmap a.cpuSlot

/-- The device half of the invariant: an entry is device-resident exactly
when it holds a device address, the ledger is the set of device-resident
VPNs, and the occupied device slots are the nonzero device addresses of the
entries, one entry per slot. -/
structure DeviceConsistent (pt : PageTable) (a : PageAllocator) (ledger : Finset VirtualPageNumber) : Prop where
  resident : ∀ v e, pt.lookupEntry v = some e → (e.residentOnGpu = true ↔ e.gpuAddress ≠ 0)
  ledger : ∀ v, v ∈ ledger ↔ ∃ e, pt.lookupEntry v = some e ∧ e.residentOnGpu = true
  slots : SlotsMatch pt.gpuAddresses a.gpu.bitmap a.gpuSlot

namespace VirtualMemoryManager

/-- The residency invariant of the page table, the ledger and the two pools. -/
structure Consistent (s : VirtualMemoryManager) : Prop where
  host : HostConsistent s.pageTable s.allocator
  device : DeviceConsistent s.pageTable s.allocator s.gpuResidentPages

/-- What the runs without a VPN wrap keep besides `Consistent`. -/
structure Wf (s : VirtualMemoryManager) : Prop where
  shaped : s.allocator.Shaped
  sameSize : s.allocator.config.cpuPagePoolSize = s.allocator.config.gpuPagePoolSize
  hostBacked : ∀ v e, s.pageTable.lookupEntry v = some e → e.cpuAddress ≠ 0
  below : ∀ (v : Nat) e, s.pageTable.lookupEntry v = some e → v < s.nextVpn

/-- `t` holds what `s` holds of the residency: both views of every entry,
the allocator, the ledger and `next_vpn_`. -/
structure SameResidency (s t : VirtualMemoryManager) : Prop where
  hostView : t.pageTable.hostView = s.pageTable.hostView
  deviceView : t.pageTable.deviceView = s.pageTable.deviceView
  allocator : t.allocator = s.allocator
  ledger : t.gpuResidentPages = s.gpuResidentPages
  nextVpn : t.nextVpn = s.nextVpn

theorem SameResidency.refl (s : VirtualMemoryManager) : SameResidency s s := ⟨rfl, rfl, rfl, rfl, rfl⟩

theorem SameResidency.trans {s t u : VirtualMemoryManager} (h : SameResidency s t) (h' : SameResidency t u) :
    SameResidency s u :=
  ⟨h'.hostView.trans h.hostView, h'.deviceView.trans h.deviceView, h'.allocator.trans h.allocator,
    h'.ledger.trans h.ledger, h'.nextVpn.trans h.nextVpn⟩

end VirtualMemoryManager

/-! ## Writes that keep the views -/

theorem HostConsistent.congr {pt pt' : PageTable} {a a' : PageAllocator} (h : HostConsistent pt a)
    (hv : pt'.hostView = pt.hostView) (hb : a'.cpu.bitmap = a.cpu.bitmap) (hs : a'.cpuSlot = a.cpuSlot) :
    HostConsistent pt' a' := by
  refine ⟨fun v e he => ?_, ?_⟩
  · obtain ⟨e', he', h1, h2⟩ := PageTable.exists_of_hostView hv he
    rw [← h1, ← h2]; exact h.resident v e' he'
  · rw [PageTable.cpuAddresses_of_hostView hv, hb, hs]; exact h.slots

theorem DeviceConsistent.congr {pt pt' : PageTable} {a a' : PageAllocator} {l l' : Finset VirtualPageNumber}
    (h : DeviceConsistent pt a l) (hv : pt'.deviceView = pt.deviceView) (hb : a'.gpu.bitmap = a.gpu.bitmap)
    (hs : a'.gpuSlot = a.gpuSlot) (hl : l' = l) : DeviceConsistent pt' a' l' := by
  refine ⟨fun v e he => ?_, fun v => ?_, ?_⟩
  · obtain ⟨e', he', h1, h2⟩ := PageTable.exists_of_deviceView hv he
    rw [← h1, ← h2]; exact h.resident v e' he'
  · rw [hl, h.ledger]
    constructor <;> rintro ⟨e, he, hg⟩
    · obtain ⟨e', he', h1, -⟩ := PageTable.exists_of_deviceView hv.symm he
      exact ⟨e', he', h1 ▸ hg⟩
    · obtain ⟨e', he', h1, -⟩ := PageTable.exists_of_deviceView hv he
      exact ⟨e', he', h1 ▸ hg⟩
  · rw [PageTable.gpuAddresses_of_deviceView hv, hb, hs]; exact h.slots

/-- An entry off the device holds no device address. -/
theorem DeviceConsistent.gpuAddress_eq_zero {pt : PageTable} {a : PageAllocator} {l : Finset VirtualPageNumber}
    (h : DeviceConsistent pt a l) {v : VirtualPageNumber} {e : PageTableEntry} (he : pt.lookupEntry v = some e)
    (hg : e.residentOnGpu = false) : e.gpuAddress = 0 := by
  simpa [hg] using h.resident v e he

namespace VirtualMemoryManager

variable {s t : VirtualMemoryManager}

theorem Consistent.of_same (h : s.Consistent) (hs : SameResidency s t) : t.Consistent :=
  ⟨h.host.congr hs.hostView (by rw [hs.allocator]) (by rw [hs.allocator]),
    h.device.congr hs.deviceView (by rw [hs.allocator]) (by rw [hs.allocator]) hs.ledger⟩

/-- `Wf` reads the host side of the entries, the allocator's shape and
configuration, and `next_vpn_`. -/
theorem Wf.of_host (h : s.Wf) (hv : t.pageTable.hostView = s.pageTable.hostView) (ha : t.allocator.Shaped)
    (hc : t.allocator.config = s.allocator.config) (hn : t.nextVpn = s.nextVpn) : t.Wf := by
  refine ⟨ha, hc ▸ h.sameSize, fun v e he => ?_, fun v e he => ?_⟩
  · obtain ⟨e', he', -, h2⟩ := PageTable.exists_of_hostView hv he
    exact h2 ▸ h.hostBacked v e' he'
  · obtain ⟨e', he', -⟩ := PageTable.exists_of_hostView hv he
    exact hn ▸ h.below v e' he'

theorem Wf.of_same (h : s.Wf) (hs : SameResidency s t) : t.Wf :=
  h.of_host hs.hostView (hs.allocator ▸ h.shaped) (by rw [hs.allocator]) hs.nextVpn

end VirtualMemoryManager

/-! ## A slot taken for an entry -/

section Assign

variable {pt : PageTable} {a : PageAllocator} {v : VirtualPageNumber} {e : PageTableEntry} {i : Nat} {p : SlotPool}

/-- `set_cpu_resident` at the slot `allocate_cpu_page` took, for an entry
with no host address. -/
theorem HostConsistent.assign (h : HostConsistent pt a) (ha : a.Shaped) (he : pt.lookupEntry v = some e)
    (hc : e.cpuAddress = 0) (ht : a.cpu.take = some (i, p)) :
    HostConsistent (pt.setCpuResident v (a.cpuSlot i)) { a with cpu := p } := by
  obtain ⟨hi, hp⟩ := SlotPool.take_spec ht
  refine ⟨fun w e' he' => ?_, ?_⟩
  · simp only [PageTable.setCpuResident, PageTable.lookupEntry_modifyEntry] at he'
    split_ifs at he' with hw
    · simp only [he, Option.map_some', Option.some.injEq] at he'
      subst he'
      simpa using ha.cpuSlot_ne_zero i
    · exact h.resident w e' he'
  · show SlotsMatch _ p.bitmap a.cpuSlot
    rw [hp]
    refine h.slots.assign (v := v) (by simp [PageTable.cpuAddresses, he, hc]) hi
      (fun j _ => ha.cpuSlot_ne_zero j) (fun j _ hj => ha.cpuSlot_inj hj) fun w => ?_
    by_cases hw : w = v
    · subst hw; simp [PageTable.cpuAddresses, PageTable.setCpuResident, he]
    · simp [PageTable.cpuAddresses, PageTable.setCpuResident, hw]

theorem DeviceConsistent.setCpuResident {l : Finset VirtualPageNumber} (h : DeviceConsistent pt a l) (c : Address)
    (p : SlotPool) : DeviceConsistent (pt.setCpuResident v c) { a with cpu := p } l :=
  h.congr (PageTable.deviceView_setCpuResident pt v c) rfl rfl rfl

/-- `set_gpu_resident` at the slot `allocate_gpu_page` took, for an entry
with no device address, and its VPN entered in the ledger. -/
theorem DeviceConsistent.assign {l : Finset VirtualPageNumber} (h : DeviceConsistent pt a l) (ha : a.Shaped)
    (he : pt.lookupEntry v = some e) (hg : e.gpuAddress = 0) (ht : a.gpu.take = some (i, p)) :
    DeviceConsistent (pt.setGpuResident v (a.gpuSlot i)) { a with gpu := p } (insert v l) := by
  obtain ⟨hi, hp⟩ := SlotPool.take_spec ht
  have hil := SlotPool.take_lt_length ht
  refine ⟨fun w e' he' => ?_, fun w => ?_, ?_⟩
  · simp only [PageTable.setGpuResident, PageTable.lookupEntry_modifyEntry] at he'
    split_ifs at he' with hw
    · simp only [he, Option.map_some', Option.some.injEq] at he'
      subst he'
      simpa using ha.gpuSlot_ne_zero hil
    · exact h.resident w e' he'
  · by_cases hw : w = v
    · subst hw; simp [PageTable.setGpuResident, he]
    · simp [PageTable.setGpuResident, hw, h.ledger]
  · show SlotsMatch _ p.bitmap a.gpuSlot
    rw [hp]
    refine h.slots.assign (v := v) (by simp [PageTable.gpuAddresses, he, hg]) hi
      (fun j hj => ha.gpuSlot_ne_zero hj) (fun j hj hji => ha.gpuSlot_inj hj hil hji) fun w => ?_
    by_cases hw : w = v
    · subst hw; simp [PageTable.gpuAddresses, PageTable.setGpuResident, he]
    · simp [PageTable.gpuAddresses, PageTable.setGpuResident, hw]

theorem HostConsistent.setGpuResident (h : HostConsistent pt a) (g : Nat) (p : SlotPool) :
    HostConsistent (pt.setGpuResident v g) { a with gpu := p } :=
  h.congr (PageTable.hostView_setGpuResident pt v g) rfl rfl

end Assign

namespace VirtualMemoryManager

variable {s t : VirtualMemoryManager}

/-! ## Entries added with no address -/

/-- The entry `allocate_vpn_range` inserts. -/
def freshEntry : PageTableEntry := { isValid := true }

/-- Entries with no address appear at VPNs that had none. -/
theorem Consistent.extend (h : s.Consistent) (ha : s.allocator.Shaped)
    (hpt : ∀ w, t.pageTable.lookupEntry w = s.pageTable.lookupEntry w ∨
      (s.pageTable.lookupEntry w = none ∧ t.pageTable.lookupEntry w = some freshEntry))
    (hal : t.allocator = s.allocator) (hl : t.gpuResidentPages = s.gpuResidentPages) : t.Consistent := by
  have hcases : ∀ w e, t.pageTable.lookupEntry w = some e →
      s.pageTable.lookupEntry w = some e ∨ (s.pageTable.lookupEntry w = none ∧ e = freshEntry) := by
    intro w e he
    rcases hpt w with hw | ⟨hw, hw'⟩
    · exact .inl (hw ▸ he)
    · exact .inr ⟨hw, Option.some.inj (he ▸ hw')⟩
  have hA : ∀ (g : PageTableEntry → Nat) w, (t.pageTable.lookupEntry w).map g = (s.pageTable.lookupEntry w).map g ∨
      ((s.pageTable.lookupEntry w).map g = none ∧ (t.pageTable.lookupEntry w).map g = some (g freshEntry)) := by
    intro g w
    rcases hpt w with hw | ⟨hw, hw'⟩
    · exact .inl (by rw [hw])
    · exact .inr ⟨by rw [hw]; rfl, by rw [hw']; rfl⟩
  rw [← hal] at ha
  refine ⟨⟨fun w e he => ?_, ?_⟩, ⟨fun w e he => ?_, fun w => ?_, ?_⟩⟩
  · rcases hcases w e he with he | ⟨-, rfl⟩
    · exact h.host.resident w e he
    · simp [freshEntry]
  · rw [hal] at ha ⊢
    exact h.host.slots.extend (fun j _ => ha.cpuSlot_ne_zero j) (hA (·.cpuAddress))
  · rcases hcases w e he with he | ⟨-, rfl⟩
    · exact h.device.resident w e he
    · simp [freshEntry]
  · rw [hl, h.device.ledger]
    constructor
    · rintro ⟨e, he, hg⟩
      rcases hpt w with hw | ⟨hw, -⟩
      · exact ⟨e, hw ▸ he, hg⟩
      · rw [hw] at he; cases he
    · rintro ⟨e, he, hg⟩
      rcases hcases w e he with he | ⟨-, rfl⟩
      · exact ⟨e, he, hg⟩
      · cases hg
  · rw [hal] at ha ⊢
    exact h.device.slots.extend (fun j hj => ha.gpuSlot_ne_zero hj) (hA (·.gpuAddress))

/-! ## Entries removed with their slots -/

/-- The entries of the VPNs of `R` are removed; each pool keeps its slots
but those of these entries, which are released; the ledger loses `R`. -/
theorem Consistent.remove (h : s.Consistent) (ha : s.allocator.Shaped) (R : VirtualPageNumber → Prop)
    (hR : ∀ w, R w → t.pageTable.lookupEntry w = none)
    (hK : ∀ w, ¬R w → t.pageTable.lookupEntry w = s.pageTable.lookupEntry w)
    (hpool : t.allocator.cpuPool = s.allocator.cpuPool) (hconf : t.allocator.config = s.allocator.config)
    (hcpu : ReleasedFor R s.pageTable.cpuAddresses s.allocator.cpuSlot s.allocator.cpu.bitmap
      t.allocator.cpu.bitmap)
    (hgpu : ReleasedFor R s.pageTable.gpuAddresses s.allocator.gpuSlot s.allocator.gpu.bitmap
      t.allocator.gpu.bitmap)
    (hl : ∀ w, w ∈ t.gpuResidentPages ↔ w ∈ s.gpuResidentPages ∧ ¬R w) : t.Consistent := by
  have hkept : ∀ w e, t.pageTable.lookupEntry w = some e → ¬R w ∧ s.pageTable.lookupEntry w = some e := by
    intro w e he
    by_cases hw : R w
    · rw [hR w hw] at he; cases he
    · exact ⟨hw, hK w hw ▸ he⟩
  have hA : ∀ (g : PageTableEntry → Nat),
      (∀ w, R w → (t.pageTable.lookupEntry w).map g = none) ∧
      (∀ w, ¬R w → (t.pageTable.lookupEntry w).map g = (s.pageTable.lookupEntry w).map g) :=
    fun g => ⟨fun w hw => by rw [hR w hw]; rfl, fun w hw => by rw [hK w hw]⟩
  have hcs : t.allocator.cpuSlot = s.allocator.cpuSlot := by
    funext i; simp [PageAllocator.cpuSlot, hpool, hconf]
  have hgs : t.allocator.gpuSlot = s.allocator.gpuSlot := by
    funext i; simp [PageAllocator.gpuSlot, hconf]
  refine ⟨⟨fun w e he => h.host.resident w e (hkept w e he).2, ?_⟩,
    ⟨fun w e he => h.device.resident w e (hkept w e he).2, fun w => ?_, ?_⟩⟩
  · rw [hcs]
    exact h.host.slots.remove R (fun j _ => ha.cpuSlot_ne_zero j) (hA _).1 (hA _).2 hcpu
  · rw [hl, h.device.ledger]
    constructor
    · rintro ⟨⟨e, he, hg⟩, hw⟩
      exact ⟨e, hK w hw ▸ he, hg⟩
    · rintro ⟨e, he, hg⟩
      obtain ⟨hw, he⟩ := hkept w e he
      exact ⟨⟨e, he, hg⟩, hw⟩
  · rw [hgs]
    exact h.device.slots.remove R (fun j hj => ha.gpuSlot_ne_zero hj) (hA _).1 (hA _).2 hgpu

/-! ## The counting argument -/

/-- An entry without a device slot finds a free one: the entries hold
distinct host slots, so there are at most as many of them as slots, and one
of them holds no device slot. -/
theorem Consistent.gpu_take_eq_some (h : s.Consistent) (hw : s.Wf) {v : VirtualPageNumber} {e : PageTableEntry}
    (he : s.pageTable.lookupEntry v = some e) (hg : e.gpuAddress = 0) :
    ∃ i p, s.allocator.gpu.take = some (i, p) := by
  cases ht : s.allocator.gpu.take with
  | some r => exact ⟨r.1, r.2, rfl⟩
  | none =>
    exfalso
    have ha := hw.shaped
    let K := s.pageTable.entries.keys
    have hmem : ∀ w e, s.pageTable.lookupEntry w = some e → w ∈ K := fun w e he =>
      Finmap.mem_keys.mpr (Finmap.mem_iff.mpr ⟨e, he⟩)
    have hK : K.card ≤ s.allocator.cpu.bitmap.length := by
      refine h.host.slots.card_le K fun w hwK => ?_
      obtain ⟨e', he'⟩ := Finmap.mem_iff.mp (Finmap.mem_keys.mp hwK)
      exact ⟨e'.cpuAddress, by simp [PageTable.cpuAddresses, PageTable.lookupEntry, he'],
        hw.hostBacked w e' he'⟩
    have hG : s.allocator.gpu.bitmap.length ≤ (K.erase v).card := by
      refine h.device.slots.length_le (SlotPool.take_eq_none.mp ht) (fun j hj => ha.gpuSlot_ne_zero hj)
        (fun i hi j hj hij => ha.gpuSlot_inj hi hj hij) _ fun w g hwg hg0 => ?_
      obtain ⟨e', he', rfl⟩ := Option.map_eq_some'.mp hwg
      refine Finset.mem_erase.mpr ⟨?_, hmem w e' he'⟩
      rintro rfl
      rw [he] at he'
      cases he'
      exact hg0 hg
    have hlen : s.allocator.cpu.bitmap.length = s.allocator.gpu.bitmap.length := by
      rw [ha.cpu_length, ha.gpu_length, hw.sameSize]
    have := Finset.card_erase_lt_of_mem (hmem v e he)
    omega

end VirtualMemoryManager

end UvmSim
