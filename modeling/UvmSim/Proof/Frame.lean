import UvmSim.Impl.Access

/-!
# What only `initialize` and `shutdown` change

`Keeps s t`: `t` has the lifecycle flag, the configuration and the settings
the subsystems took from it (page size and page count of the table, pool
sizes and host pool address of the allocator, geometry of the TLB) of `s`,
and if the counters of `s` account for the bytes migrated
(`PerfCounters.Accounted`), so do those of `t`. Every operation but
`initialize` and `shutdown` keeps them (`step_keeps`).
-/

namespace UvmSim

/-- The bytes migrated are `pageSize` per migration, in `uint64_t`. -/
def PerfCounters.Accounted (c : PerfCounters) (pageSize : Nat) : Prop :=
  c.totalBytesMigrated = u64 (pageSize * (c.cpuToGpuMigrations + c.gpuToCpuMigrations))

theorem PerfCounters.Accounted.migrated {c : PerfCounters} {p : Nat} (h : c.Accounted p) (b : Bool) :
    (c.migrated b p).Accounted p := by
  unfold Accounted at *
  have hb : u64 (c.totalBytesMigrated + p) = u64 (p * (c.cpuToGpuMigrations + c.gpuToCpuMigrations) + p) := by
    rw [h]; exact Nat.mod_add_mod _ _ _
  cases b
  · simp only [PerfCounters.migrated, hb, Bool.false_eq_true, if_false, u64_mul_add_u64]
    rw [← Nat.add_assoc, Nat.mul_add_one]
  · simp only [PerfCounters.migrated, hb, if_true]
    rw [Nat.add_comm (u64 _), u64_mul_add_u64, ← Nat.add_assoc, Nat.mul_add_one,
      Nat.add_comm c.gpuToCpuMigrations]

theorem PerfCounters.accounted_reset (c : PerfCounters) (p : Nat) : c.reset.Accounted p := rfl

namespace VirtualMemoryManager

structure Keeps (s t : VirtualMemoryManager) : Prop where
  initialized : t.initialized = s.initialized
  config : t.config = s.config
  pageSize : t.pageTable.pageSize = s.pageTable.pageSize
  numPages : t.pageTable.numPages = s.pageTable.numPages
  allocatorConfig : t.allocator.config = s.allocator.config
  cpuPool : t.allocator.cpuPool = s.allocator.cpuPool
  tlbConfig : t.tlb.config = s.tlb.config
  accounted : s.perfCounters.Accounted s.config.pageSize → t.perfCounters.Accounted t.config.pageSize

theorem Keeps.refl (s : VirtualMemoryManager) : Keeps s s := ⟨rfl, rfl, rfl, rfl, rfl, rfl, rfl, id⟩

/-- A reflexive, transitive relation that every step of a fold satisfies
holds between its start and its end. -/
theorem foldlM_rel {α : Type} (R : VirtualMemoryManager → VirtualMemoryManager → Prop)
    (hrefl : ∀ s, R s s) (htrans : ∀ {s t u}, R s t → R t u → R s u)
    {f : VirtualMemoryManager → α → Option VirtualMemoryManager} (hf : ∀ s a t, f s a = some t → R s t) :
    ∀ (l : List α) {s t : VirtualMemoryManager}, l.foldlM f s = some t → R s t
  | [], s, _, h => by cases h; exact hrefl s
  | a :: l, s, t, h => by
    simp only [List.foldlM_cons, Option.bind_eq_bind, Option.bind_eq_some] at h
    obtain ⟨u, hu, hl⟩ := h
    exact htrans (hf s a u hu) (foldlM_rel R hrefl htrans hf l hl)

theorem Keeps.trans {s t u : VirtualMemoryManager} (h : Keeps s t) (h' : Keeps t u) : Keeps s u :=
  ⟨h'.1.trans h.1, h'.2.trans h.2, h'.3.trans h.3, h'.4.trans h.4, h'.5.trans h.5, h'.6.trans h.6,
    h'.7.trans h.7, h'.8 ∘ h.8⟩

@[simp] theorem migrateCpuToGpu_pageSize (pt : PageTable) (v : VirtualPageNumber) (c : Address) (g : Nat) :
    (migrateCpuToGpu pt v c g).pageSize = pt.pageSize := by
  unfold migrateCpuToGpu; split_ifs <;> simp

@[simp] theorem migrateCpuToGpu_numPages (pt : PageTable) (v : VirtualPageNumber) (c : Address) (g : Nat) :
    (migrateCpuToGpu pt v c g).numPages = pt.numPages := by
  unfold migrateCpuToGpu; split_ifs <;> simp

@[simp] theorem migrateGpuToCpu_pageSize (pt : PageTable) (v : VirtualPageNumber) (g : Nat) (c : Address) :
    (migrateGpuToCpu pt v g c).pageSize = pt.pageSize := by
  unfold migrateGpuToCpu; split_ifs <;> simp

@[simp] theorem migrateGpuToCpu_numPages (pt : PageTable) (v : VirtualPageNumber) (g : Nat) (c : Address) :
    (migrateGpuToCpu pt v g c).numPages = pt.numPages := by
  unfold migrateGpuToCpu; split_ifs <;> simp

theorem allocateCpuPages_keeps (vs : VirtualPageNumber) :
    ∀ (i k : Nat) (pages : List Address) (s : VirtualMemoryManager),
      Keeps s (match allocateCpuPages vs i k pages s with | .ok r => r.2 | .error r => r.2)
  | _, 0, _, s => Keeps.refl s
  | i, k + 1, pages, s => by
    dsimp only [allocateCpuPages]
    split_ifs
    · constructor <;> simp
    · refine Keeps.trans ?_ (allocateCpuPages_keeps vs _ k _ _)
      constructor <;> simp [PageTable.updateAccessTime, PageTable.setCpuResident]

theorem prefetchGpuPages_keeps (vs : VirtualPageNumber) (cp : List Address) :
    ∀ (i k : Nat) (s : VirtualMemoryManager), Keeps s (prefetchGpuPages vs cp i k s)
  | _, 0, s => Keeps.refl s
  | i, k + 1, s => by
    dsimp only [prefetchGpuPages]
    split_ifs
    · exact Keeps.trans (by constructor <;> simp) (prefetchGpuPages_keeps vs cp _ k _)
    · refine Keeps.trans ?_ (prefetchGpuPages_keeps vs cp _ k _)
      constructor <;> simp [PageTable.setGpuResident]
      exact fun h => h.migrated true

theorem foldl_deallocateCpuPage_config (a : PageAllocator) (l : List Address) :
    (l.foldl PageAllocator.deallocateCpuPage a).config = a.config ∧
      (l.foldl PageAllocator.deallocateCpuPage a).cpuPool = a.cpuPool := by
  induction l generalizing a with
  | nil => simp
  | cons p l ih => simp [ih]

theorem allocate_keeps (s : VirtualMemoryManager) (bytes : Nat) (p : Bool) :
    Keeps s (s.allocate bytes p).2 := by
  dsimp only [allocate]
  generalize u32 (alignToPage bytes s.config.pageSize / s.config.pageSize) = n
  split_ifs
  · exact Keeps.refl s
  · constructor <;> simp
  all_goals
    have h₀ : Keeps s { s with pageTable := (s.pageTable.allocateVpnRange s.nextVpn n).2 } := by
      constructor <;> simp
    have hk := h₀.trans (allocateCpuPages_keeps s.nextVpn 0 n [] _)
    split <;> rename_i pages t heq <;> rw [heq] at hk <;> refine hk.trans ?_
  · constructor <;> simp [foldl_deallocateCpuPage_config]
  · exact (prefetchGpuPages_keeps s.nextVpn pages 0 n t).trans (by constructor <;> simp)
  · constructor <;> simp [foldl_deallocateCpuPage_config]
  · constructor <;> simp

theorem freePage_keeps {s t : VirtualMemoryManager} {v : VirtualPageNumber} (h : s.freePage v = some t) :
    Keeps s t := by
  simp only [freePage, Option.map_eq_some'] at h
  obtain ⟨tlb, htlb, rfl⟩ := h
  refine ⟨rfl, rfl, rfl, rfl, ?_, ?_, TLB.invalidate_config htlb, id⟩ <;> split <;> (try split_ifs) <;> simp

theorem free_keeps {s t : VirtualMemoryManager} {vaddr : Address} (h : s.free vaddr = some t) :
    Keeps s t := by
  unfold free at h
  split_ifs at h
  · cases h; exact Keeps.refl s
  split at h
  · cases h; exact Keeps.refl s
  obtain ⟨u, hu, rfl⟩ := Option.map_eq_some'.mp h
  exact (foldlM_rel Keeps Keeps.refl Keeps.trans (fun _ _ _ => freePage_keeps) _ hu).trans
    (by constructor <;> simp)

/-! ## Faults and accesses -/

theorem writeBack_keeps (s : VirtualMemoryManager) (v : VirtualPageNumber) (e : PageTableEntry) :
    Keeps s (s.writeBack v e) := by
  unfold writeBack; split_ifs <;> constructor <;> simp
  exact fun h => h.migrated false

theorem releaseGpuPage_keeps (s : VirtualMemoryManager) (v : VirtualPageNumber) (e : PageTableEntry) :
    Keeps s (s.releaseGpuPage v e) := by
  constructor <;> simp [releaseGpuPage]; exact id

theorem evictVictim_keeps {s t : VirtualMemoryManager} {v : VirtualPageNumber}
    (h : s.evictVictim v = some t) : Keeps s t := by
  unfold evictVictim at h
  split at h
  · cases h; exact Keeps.refl s
  obtain ⟨tlb, htlb, rfl⟩ := Option.map_eq_some'.mp h
  refine ((writeBack_keeps s v _).trans (releaseGpuPage_keeps _ v _)).trans ⟨rfl, rfl, rfl, rfl, rfl, rfl, ?_, id⟩
  exact TLB.invalidate_config htlb

theorem evictPageFromGpu_keeps {s t : VirtualMemoryManager} (h : s.evictPageFromGpu = some t) :
    Keeps s t := by
  unfold evictPageFromGpu at h
  split_ifs at h
  · cases h; exact Keeps.refl s
  obtain ⟨⟨victim, policy⟩, -, h⟩ := Option.bind_eq_some.mp h
  have hp : Keeps s { s with replacementPolicy := policy } := ⟨rfl, rfl, rfl, rfl, rfl, rfl, rfl, id⟩
  dsimp only at h
  split_ifs at h <;> first | (cases h; exact hp) | exact hp.trans (evictVictim_keeps h)

theorem takeGpuPage_keeps (s : VirtualMemoryManager) (v : VirtualPageNumber) : Keeps s (s.takeGpuPage v) := by
  constructor <;> simp [takeGpuPage]

theorem allocateGpuPageFor_keeps {s t : VirtualMemoryManager} {v : VirtualPageNumber}
    (h : s.allocateGpuPageFor v = some t) : Keeps s t := by
  unfold allocateGpuPageFor at h
  dsimp only at h
  split_ifs at h
  · cases h; exact takeGpuPage_keeps s v
  obtain ⟨u, hu, rfl⟩ := Option.map_eq_some'.mp h
  exact (takeGpuPage_keeps s v).trans ((evictPageFromGpu_keeps hu).trans (takeGpuPage_keeps u v))

theorem copyToGpu_keeps (s : VirtualMemoryManager) (v : VirtualPageNumber) : Keeps s (s.copyToGpu v) := by
  unfold copyToGpu; dsimp only; split_ifs <;> constructor <;> simp
  exact fun h => h.migrated true

theorem markResidentOnGpu_keeps (s : VirtualMemoryManager) (v : VirtualPageNumber) :
    Keeps s (s.markResidentOnGpu v) := by
  constructor <;> simp [markResidentOnGpu]

theorem faultToGpu_keeps {s t : VirtualMemoryManager} {v : VirtualPageNumber} (h : s.faultToGpu v = some t) :
    Keeps s t := by
  unfold faultToGpu at h
  split_ifs at h with h1 h2
  · cases h; exact Keeps.refl s
  all_goals
    obtain ⟨u, hu, rfl⟩ := Option.map_eq_some'.mp h
    refine Keeps.trans ?_ ((copyToGpu_keeps u v).trans (markResidentOnGpu_keeps _ v))
  · exact allocateGpuPageFor_keeps hu
  · cases hu; exact Keeps.refl s

theorem takeCpuPage_keeps (s : VirtualMemoryManager) (v : VirtualPageNumber) : Keeps s (s.takeCpuPage v) := by
  unfold takeCpuPage; dsimp only; split_ifs <;> constructor <;> simp

theorem copyToCpu_keeps (s : VirtualMemoryManager) (v : VirtualPageNumber) : Keeps s (s.copyToCpu v) := by
  unfold copyToCpu; dsimp only; split_ifs <;> constructor <;> simp
  exact fun h => h.migrated false

theorem modifyEntry_keeps (s : VirtualMemoryManager) (v : VirtualPageNumber) (f) :
    Keeps s (s.modifyEntry v f) :=
  ⟨rfl, rfl, PageTable.modifyEntry_pageSize .., PageTable.modifyEntry_numPages .., rfl, rfl, rfl, id⟩

theorem faultToCpu_keeps (s : VirtualMemoryManager) (v : VirtualPageNumber) : Keeps s (s.faultToCpu v) := by
  unfold faultToCpu
  split_ifs
  · exact Keeps.refl s
  · exact (takeCpuPage_keeps s v).trans ((copyToCpu_keeps _ v).trans (modifyEntry_keeps _ v _))

theorem resolvePageFault_keeps {s t : VirtualMemoryManager} {v : VirtualPageNumber} {g : Bool}
    (h : s.resolvePageFault v g = some t) : Keeps s t := by
  unfold resolvePageFault at h
  split at h
  · cases h; exact Keeps.refl s
  split_ifs at h
  · exact faultToGpu_keeps h
  · cases h; exact faultToCpu_keeps s v

theorem mapToCpu_keeps {s t : VirtualMemoryManager} {a : Address} {b : Bool}
    (h : s.mapToCpu a b = some t) : Keeps s t := by
  unfold mapToCpu at h
  dsimp only at h
  split_ifs at h
  · cases h; exact Keeps.refl s
  split at h
  · cases h; exact Keeps.refl s
  split_ifs at h
  · exact resolvePageFault_keeps h
  · cases h; exact Keeps.refl s

theorem mapToGpu_keeps {s t : VirtualMemoryManager} {a : Address} (h : s.mapToGpu a = some t) :
    Keeps s t := by
  unfold mapToGpu at h
  dsimp only at h
  split_ifs at h
  · cases h; exact Keeps.refl s
  split at h
  · cases h; exact Keeps.refl s
  · exact faultToGpu_keeps h

theorem recordAccess_keeps (s : VirtualMemoryManager) (v : VirtualPageNumber) (w : Bool) :
    Keeps s (s.recordAccess v w) := by
  unfold recordAccess
  split
  · exact Keeps.refl s
  · constructor <;> simp

theorem touchPage_keeps {s t : VirtualMemoryManager} {a : Address} {w : Bool}
    (h : s.touchPage a w = some t) : Keeps s t := by
  unfold touchPage at h
  dsimp only at h
  split_ifs at h
  · cases h; exact Keeps.refl s
  obtain ⟨u, hu, rfl⟩ := Option.map_eq_some'.mp h
  refine Keeps.trans ?_ (recordAccess_keeps u _ w)
  split at hu
  · exact Keeps.trans (by exact ⟨rfl, rfl, rfl, rfl, rfl, rfl, rfl, id⟩) (resolvePageFault_keeps hu)
  · cases hu; exact Keeps.refl s

theorem hostEntry_keeps {s t : VirtualMemoryManager} {v : VirtualPageNumber} {e : Option PageTableEntry}
    (h : s.hostEntry v = some (e, t)) : Keeps s t := by
  unfold hostEntry at h
  split at h
  · cases h; exact Keeps.refl s
  obtain ⟨u, hu, h⟩ := Option.map_eq_some'.mp h
  cases h
  split_ifs at hu
  · exact resolvePageFault_keeps hu
  · cases hu; exact Keeps.refl s

theorem readFromVaddr_keeps {s t : VirtualMemoryManager} {a : Address} {buf buf' : Buffer} {n : Nat}
    (h : s.readFromVaddr a buf n = some (buf', t)) : Keeps s t := by
  unfold readFromVaddr at h
  split at h
  · cases h; exact Keeps.refl s
  split_ifs at h
  · cases h; exact Keeps.refl s
  obtain ⟨⟨e, u⟩, hu, h⟩ := Option.bind_eq_some.mp h
  have := hostEntry_keeps hu
  dsimp only at h
  split at h
  · split_ifs at h <;> cases h <;> exact this
  · cases h; exact this

theorem writeToVaddr_keeps {s t : VirtualMemoryManager} {a : Address} {buf : Buffer} {n : Nat}
    (h : s.writeToVaddr a buf n = some t) : Keeps s t := by
  unfold writeToVaddr at h
  split at h
  · cases h; exact Keeps.refl s
  split_ifs at h
  · cases h; exact Keeps.refl s
  obtain ⟨⟨e, u⟩, hu, h⟩ := Option.bind_eq_some.mp h
  have := hostEntry_keeps hu
  dsimp only at h
  split at h
  · split_ifs at h <;> cases h
    · exact this
    · exact this.trans ⟨rfl, rfl, PageTable.modifyEntry_pageSize .., PageTable.modifyEntry_numPages .., rfl, rfl, rfl, id⟩
  · cases h; exact this

/-- Whether `op` is one of the operations that leave the lifecycle alone:
all but `initialize` and `shutdown`. -/
def Op.keepsLifecycle : Op → Bool
  | .init .. | .shutdown => false
  | _ => true

theorem step_keeps {s t : VirtualMemoryManager} {op : Op} (hop : op.keepsLifecycle)
    (h : s.step op = some t) : Keeps s t := by
  cases op with
  | init | shutdown => cases hop
  | allocate bytes p => cases h; exact allocate_keeps s bytes p
  | free => exact free_keeps h
  | mapToCpu a b => exact mapToCpu_keeps (show s.mapToCpu a b = some t from h)
  | mapToGpu | prefetchToGpu => exact mapToGpu_keeps h
  | touchPage => exact touchPage_keeps h
  | readFromVaddr =>
    obtain ⟨⟨b, u⟩, hu, rfl⟩ := Option.map_eq_some'.mp h
    exact readFromVaddr_keeps hu
  | writeToVaddr => exact writeToVaddr_keeps h
  | syncAllMigrations => cases h; exact Keeps.refl s
  | resetCounters => cases h; exact ⟨rfl, rfl, rfl, rfl, rfl, rfl, rfl, fun _ => s.perfCounters.accounted_reset _⟩

end VirtualMemoryManager

end UvmSim
