import UvmSim.Proof.Frame
import UvmSim.Proof.Free

/-!
# `map_to_gpu` twice is `map_to_gpu` once

A device fault on an entry off the device marks it device-resident, whatever
happens on the way: the slot allocation, an eviction (whose victim may be the
faulting page itself, when the policy picks a page that is not on the device)
and the retry keep every entry and every host-resident mark, and count no
migration to the device (`KeepsHost`). So after a first `map_to_gpu` the
entry is device-resident (`faultToGpu_residentOnGpu`), and a second call
returns at once (`mapToGpu_mapToGpu`). When the page was host-resident, the
copy counts one migration to the device (`faultToGpu_of_off_device`).

* `map_to_gpu_idempotent`: from every state, `map_to_gpu(vaddr)` twice ends
  where it ends once, and adds one to `cpu_to_gpu_migrations` when `vaddr`
  lies in a host-resident page off the device.
-/

namespace UvmSim

namespace PageTable

@[simp] theorem isSome_lookupEntry_modifyEntry (pt : PageTable) (v w : VirtualPageNumber) (f) :
    ((pt.modifyEntry v f).lookupEntry w).isSome = (pt.lookupEntry w).isSome := by
  rw [lookupEntry_modifyEntry]
  split_ifs with h
  · subst h; simp
  · rfl

@[simp] theorem isSome_lookupEntry_migrateCpuToGpu (pt : PageTable) (v w : VirtualPageNumber) (c : Address)
    (g : Nat) : ((migrateCpuToGpu pt v c g).lookupEntry w).isSome = (pt.lookupEntry w).isSome := by
  unfold migrateCpuToGpu
  split_ifs
  · rfl
  · exact isSome_lookupEntry_modifyEntry _ _ _ _

/-- A write that keeps the host-resident mark of an entry keeps it at every
VPN. -/
theorem residentOnCpu_modifyEntry {pt : PageTable} {v w : VirtualPageNumber} {f : PageTableEntry → PageTableEntry}
    (hf : ∀ e, e.residentOnCpu = true → (f e).residentOnCpu = true)
    (h : ((pt.lookupEntry w).getD {}).residentOnCpu = true) :
    (((pt.modifyEntry v f).lookupEntry w).getD {}).residentOnCpu = true := by
  rw [lookupEntry_modifyEntry]
  split_ifs with hw
  · subst hw
    cases he : pt.lookupEntry w <;> simp_all
  · exact h

end PageTable

namespace VirtualMemoryManager

/-- What the device-slot allocation of a fault, with its eviction, keeps:
every entry, every host-resident mark, and the count of migrations to the
device. -/
structure KeepsHost (s t : VirtualMemoryManager) : Prop where
  entries : ∀ v, (s.pageTable.lookupEntry v).isSome → (t.pageTable.lookupEntry v).isSome
  residentOnCpu : ∀ v, (s.entryAt v).residentOnCpu = true → (t.entryAt v).residentOnCpu = true
  cpuToGpu : t.perfCounters.cpuToGpuMigrations = s.perfCounters.cpuToGpuMigrations

variable {s t u : VirtualMemoryManager} {v : VirtualPageNumber}

theorem KeepsHost.refl (s : VirtualMemoryManager) : KeepsHost s s := ⟨fun _ => id, fun _ => id, rfl⟩

theorem KeepsHost.trans (h : KeepsHost s t) (h' : KeepsHost t u) : KeepsHost s u :=
  ⟨fun v hv => h'.entries v (h.entries v hv), fun v hv => h'.residentOnCpu v (h.residentOnCpu v hv),
    h'.cpuToGpu.trans h.cpuToGpu⟩

/-- A write to one entry that keeps its host-resident mark. -/
theorem KeepsHost.of_modifyEntry {f : PageTableEntry → PageTableEntry}
    (hpt : t.pageTable = s.pageTable.modifyEntry v f) (hf : ∀ e, e.residentOnCpu = true → (f e).residentOnCpu = true)
    (hc : t.perfCounters.cpuToGpuMigrations = s.perfCounters.cpuToGpuMigrations) : KeepsHost s t :=
  ⟨fun w hw => by rw [hpt, PageTable.isSome_lookupEntry_modifyEntry]; exact hw,
    fun w hw => by unfold entryAt at hw ⊢; rw [hpt]; exact PageTable.residentOnCpu_modifyEntry hf hw, hc⟩

theorem keepsHost_takeGpuPage (s : VirtualMemoryManager) (v : VirtualPageNumber) : KeepsHost s (s.takeGpuPage v) :=
  .of_modifyEntry rfl (fun _ => id) rfl

theorem keepsHost_writeBack (s : VirtualMemoryManager) (victim : VirtualPageNumber) (e : PageTableEntry) :
    KeepsHost s (s.writeBack victim e) := by
  unfold writeBack migrateGpuToCpu
  split_ifs
  · exact ⟨fun _ => id, fun _ => id, rfl⟩
  · exact .of_modifyEntry rfl (fun _ _ => rfl) rfl
  · exact .refl s

theorem keepsHost_releaseGpuPage (s : VirtualMemoryManager) (victim : VirtualPageNumber) (e : PageTableEntry) :
    KeepsHost s (s.releaseGpuPage victim e) :=
  .of_modifyEntry rfl (fun _ => id) rfl

theorem keepsHost_evictVictim {victim : VirtualPageNumber} (h : s.evictVictim victim = some t) : KeepsHost s t := by
  unfold evictVictim at h
  split at h
  · cases h; exact .refl s
  · rename_i e _
    obtain ⟨tlb, -, rfl⟩ := Option.map_eq_some'.mp h
    have hk := (keepsHost_writeBack s victim e).trans (keepsHost_releaseGpuPage _ victim e)
    exact ⟨hk.entries, hk.residentOnCpu, hk.cpuToGpu⟩

theorem keepsHost_evictPageFromGpu (h : s.evictPageFromGpu = some t) : KeepsHost s t := by
  unfold evictPageFromGpu at h
  split_ifs at h
  · cases h; exact .refl s
  obtain ⟨⟨victim, policy⟩, -, h⟩ := Option.bind_eq_some.mp h
  dsimp only at h
  have hp : KeepsHost s { s with replacementPolicy := policy } := ⟨fun _ => id, fun _ => id, rfl⟩
  split_ifs at h <;> first | (cases h; exact hp) | exact hp.trans (keepsHost_evictVictim h)

theorem keepsHost_allocateGpuPageFor (h : s.allocateGpuPageFor v = some t) : KeepsHost s t := by
  unfold allocateGpuPageFor at h
  dsimp only at h
  split_ifs at h
  · cases h; exact keepsHost_takeGpuPage s v
  obtain ⟨u, hu, rfl⟩ := Option.map_eq_some'.mp h
  exact (keepsHost_takeGpuPage s v).trans ((keepsHost_evictPageFromGpu hu).trans (keepsHost_takeGpuPage u v))

/-- A device fault on an entry off the device leaves it device-resident, and
counts one migration to the device when the page was host-resident. -/
theorem faultToGpu_of_off_device {e : PageTableEntry} (he : s.pageTable.lookupEntry v = some e)
    (hg : e.residentOnGpu = false) (h : s.faultToGpu v = some t) :
    (t.entryAt v).residentOnGpu = true ∧
      (e.residentOnCpu = true → t.perfCounters.cpuToGpuMigrations = u64 (s.perfCounters.cpuToGpuMigrations + 1)) := by
  have hs : s.entryAt v = e := by simp [entryAt, he]
  unfold faultToGpu at h
  rw [hs, if_neg (by simp [hg])] at h
  obtain ⟨u, hu, rfl⟩ := Option.map_eq_some'.mp h
  have hk : KeepsHost s u := by
    split at hu
    · exact keepsHost_allocateGpuPageFor hu
    · cases hu; exact .refl s
  obtain ⟨e', he'⟩ : ∃ e', (u.copyToGpu v).pageTable.lookupEntry v = some e' := by
    refine Option.isSome_iff_exists.mp ?_
    unfold copyToGpu
    dsimp only
    split_ifs
    · simpa using hk.entries v (by simp [he])
    · exact hk.entries v (by simp [he])
  refine ⟨by simp [markResidentOnGpu, entryAt, he'], fun hc => ?_⟩
  have hu' : (u.entryAt v).residentOnCpu = true := hk.residentOnCpu v (hs ▸ hc)
  simp [markResidentOnGpu, copyToGpu, hu', PerfCounters.migrated, hk.cpuToGpu]

/-- After a device fault the entry, if there is one, is device-resident. -/
theorem faultToGpu_residentOnGpu {e : PageTableEntry} (he : s.pageTable.lookupEntry v = some e)
    (h : s.faultToGpu v = some t) : (t.entryAt v).residentOnGpu = true := by
  cases hg : e.residentOnGpu
  · exact (faultToGpu_of_off_device he hg h).1
  · have hs : (s.entryAt v).residentOnGpu = true := by simp [entryAt, he, hg]
    rw [faultToGpu, if_pos hs] at h
    cases h; exact hs

/-- A second `map_to_gpu` of the same address changes nothing. -/
theorem mapToGpu_mapToGpu {a : Address} (h : s.mapToGpu a = some t) : t.mapToGpu a = some t := by
  have hk := mapToGpu_keeps h
  unfold mapToGpu at h ⊢
  rw [hk.initialized, hk.config]
  dsimp only at h ⊢
  split_ifs at h ⊢
  · rfl
  split at h
  · cases h
    rename_i hn
    rw [hn]
  · rename_i e he
    have hr := faultToGpu_residentOnGpu he h
    split
    · rfl
    · rw [faultToGpu, if_pos hr]

end VirtualMemoryManager

open VirtualMemoryManager in
/-- From every state, `map_to_gpu(vaddr)` followed by `map_to_gpu(vaddr)` ends
in the state `map_to_gpu(vaddr)` alone ends in; and when `vaddr` lies in a
page whose entry is host-resident and off the device, the pair adds one to
`cpu_to_gpu_migrations`. -/
theorem map_to_gpu_idempotent (s : VirtualMemoryManager) (a : Address) :
    (s.mapToGpu a).bind (·.mapToGpu a) = s.mapToGpu a ∧
      ∀ e t, s.initialized = true → s.pageTable.lookupEntry (vaddrToVpn a s.config.pageSize) = some e →
        e.residentOnCpu = true → e.residentOnGpu = false → (s.mapToGpu a).bind (·.mapToGpu a) = some t →
        t.perfCounters.cpuToGpuMigrations = u64 (s.perfCounters.cpuToGpuMigrations + 1) := by
  have hpair : (s.mapToGpu a).bind (·.mapToGpu a) = s.mapToGpu a := by
    cases h : s.mapToGpu a with
    | none => rfl
    | some t => exact mapToGpu_mapToGpu h
  refine ⟨hpair, fun e t hi he hc hg ht => ?_⟩
  rw [hpair] at ht
  simp only [mapToGpu, hi, Bool.not_true, Bool.false_eq_true, if_false, he] at ht
  exact (faultToGpu_of_off_device he hg ht).2 hc

open VirtualMemoryManager in
/-- The first allocation of the small configuration, VPN 0 at address 0,
mapped to the device twice: one migration. -/
theorem map_to_gpu_twice_migrates_once :
    ∃ s t, (fresh fun _ => 0).run [.init smallConfig 0x10000, .allocate 4096 false] = some s ∧
      (s.mapToGpu 0).bind (·.mapToGpu 0) = some t ∧
      t.perfCounters.cpuToGpuMigrations = u64 (s.perfCounters.cpuToGpuMigrations + 1) := by
  have h : ((fresh fun _ => 0).run [.init smallConfig 0x10000, .allocate 4096 false]).map (fun s =>
      (s.initialized, (s.pageTable.lookupEntry 0).map (fun e => (e.residentOnCpu, e.residentOnGpu)),
        ((s.mapToGpu 0).bind (·.mapToGpu 0)).isSome)) = some (true, some (true, false), true) := by
    decide
  obtain ⟨s, hs, h⟩ := Option.map_eq_some'.mp h
  simp only [Prod.mk.injEq, Option.map_eq_some'] at h
  obtain ⟨hi, ⟨e, he, hr⟩, ht⟩ := h
  obtain ⟨t, ht⟩ := Option.isSome_iff_exists.mp ht
  have he' : s.pageTable.lookupEntry (vaddrToVpn 0 s.config.pageSize) = some e := by
    rw [vaddrToVpn, Nat.zero_div]; exact he
  exact ⟨s, t, hs, ht, (map_to_gpu_idempotent s 0).2 e t hi he' hr.1 hr.2 ht⟩

end UvmSim
