import UvmSim.Proof.Lifecycle
import UvmSim.Proof.Free

/-!
# The accounting of migrations

Every migration the manager counts, in the prefetch of `allocate`, in both
branches of `resolve_page_fault` (and so `map_to_gpu`) and in an eviction's
write-back, adds `config_.page_size` to `total_bytes_migrated`, and no other
call changes the two. `initialize` keeps the counters but takes a new page
size; `reset_counters` zeroes them.

* `step_accounted`: one operation keeps `total_bytes_migrated` equal to the
  page size times the migrations, unless it is an `initialize` that takes
  effect with a page size giving another product (`Op.resizesCounted`);
  `reset_counters` sets the equation up again (`step_accounted_of_resets`).
* `run_accounted`: so does a run in which each such `initialize` has a
  `reset_counters` after it (`mendsResizes`).
* `migrations_accounted_unless_resized`: so the equation holds after every
  such run from construction.
* `reinit_breaks_migration_accounting`: it fails after a re-initialization
  with another page size.
-/

namespace UvmSim

namespace VirtualMemoryManager

@[simp] theorem shutdown_perfCounters (s : VirtualMemoryManager) : s.shutdown.perfCounters = s.perfCounters := by
  unfold shutdown; split_ifs <;> rfl

@[simp] theorem shutdown_config (s : VirtualMemoryManager) : s.shutdown.config = s.config := by
  unfold shutdown; split_ifs <;> rfl

/-- `initialize(c)` would take effect and leave the counters short of `c`'s
page size: the manager is shut down, and the migrations counted times the new
page size differ, modulo `2 ^ 64`, from them times the configuration's (with
migrations counted, any other page size but for a wrap of the product). -/
def Op.resizesCounted (s : VirtualMemoryManager) : Op → Bool
  | .init c _ => !s.initialized &&
      u64 (c.pageSize * (s.perfCounters.cpuToGpuMigrations + s.perfCounters.gpuToCpuMigrations)) !=
        u64 (s.config.pageSize * (s.perfCounters.cpuToGpuMigrations + s.perfCounters.gpuToCpuMigrations))
  | _ => false

/-- Whether `op` is `reset_counters`. -/
def Op.resetsCounters : Op → Bool
  | .resetCounters => true
  | _ => false

/-- Along the run of `ops` from `s`, every `initialize` that takes effect
with a page size the counters do not account for has a `reset_counters`
after it. -/
def mendsResizes (s : VirtualMemoryManager) : List Op → Bool
  | [] => true
  | op :: ops => (!op.resizesCounted s || ops.any Op.resetsCounters) &&
      match s.step op with
      | some t => t.mendsResizes ops
      | none => true

variable {s t : VirtualMemoryManager} {op : Op}

theorem step_accounted (hop : op.resizesCounted s = false) (hs : s.perfCounters.Accounted s.config.pageSize)
    (h : s.step op = some t) : t.perfCounters.Accounted t.config.pageSize := by
  cases hl : op.keepsLifecycle
  · cases op with
    | init c p =>
      rcases init_eq_some h with ⟨-, rfl⟩ | ⟨hi, -, hc, hpc, -⟩
      · exact hs
      · simp only [Op.resizesCounted, hi, Bool.not_false, Bool.true_and, bne_eq_false_iff_eq] at hop
        unfold PerfCounters.Accounted at hs ⊢
        rw [hc, hpc, hop, hs]
    | shutdown =>
      cases h
      simpa using hs
    | _ => cases hl
  · exact (step_keeps hl h).accounted hs

theorem step_accounted_of_resets (hop : op.resetsCounters = true) (h : s.step op = some t) :
    t.perfCounters.Accounted t.config.pageSize := by
  cases op <;> simp only [Op.resetsCounters, Bool.false_eq_true] at hop
  cases h
  exact s.perfCounters.accounted_reset _

/-- From a state where the equation holds, or with a `reset_counters` still
to come, a run that mends its resizes ends with the equation. -/
theorem run_accounted : ∀ (ops : List Op) {s t : VirtualMemoryManager},
    (s.perfCounters.Accounted s.config.pageSize ∨ ops.any Op.resetsCounters = true) →
      s.mendsResizes ops = true → s.run ops = some t → t.perfCounters.Accounted t.config.pageSize
  | [], _, _, hs, _, h => by
    cases h
    simpa using hs
  | op :: ops, s, t, hs, hm, h => by
    obtain ⟨u, hu, h⟩ := Option.bind_eq_some.mp h
    simp only [mendsResizes, hu, Bool.and_eq_true, Bool.or_eq_true, Bool.not_eq_true'] at hm
    refine run_accounted ops ?_ hm.2 h
    by_cases hr : ops.any Op.resetsCounters = true
    · exact .inr hr
    cases hop : op.resetsCounters
    · exact .inl (step_accounted (hm.1.resolve_right hr) (hs.resolve_right (by simp [hop, hr])) hu)
    · exact .inl (step_accounted_of_resets hop hu)

end VirtualMemoryManager

open VirtualMemoryManager in
/-- After every run from construction in which each `initialize` that takes
effect with a page size the counters do not account for is followed by a
`reset_counters`, `total_bytes_migrated` is the configuration's page size
times the migrations, modulo `2 ^ 64`. -/
theorem migrations_accounted_unless_resized (m : Address → UInt8) (ops : List Op)
    (hops : (fresh m).mendsResizes ops = true) {s : VirtualMemoryManager} (h : (fresh m).run ops = some s) :
    s.perfCounters.totalBytesMigrated =
      u64 (s.config.pageSize * (s.perfCounters.cpuToGpuMigrations + s.perfCounters.gpuToCpuMigrations)) :=
  run_accounted ops (.inl (show (fresh m).perfCounters.Accounted _ from rfl)) hops h

open VirtualMemoryManager in
/-- 4 KiB pages and one page prefetched, then `shutdown`, `initialize` with
8 KiB pages, `reset_counters` and one page prefetched: one migration, of 8192
bytes. -/
theorem reset_after_reinit_accounts_new_page_size :
    ∃ s, (fresh fun _ => 0).run
        [.init smallConfig 0x10000, .allocate 4096 true, .shutdown, .init { smallConfig with pageSize := 8192 } 0x10000,
         .resetCounters, .allocate 8192 true] = some s ∧
      s.config.pageSize = 8192 ∧ s.perfCounters.cpuToGpuMigrations = 1 ∧
      s.perfCounters.totalBytesMigrated =
        u64 (s.config.pageSize * (s.perfCounters.cpuToGpuMigrations + s.perfCounters.gpuToCpuMigrations)) := by
  have h : ((fresh fun _ => 0).run
      [.init smallConfig 0x10000, .allocate 4096 true, .shutdown, .init { smallConfig with pageSize := 8192 } 0x10000,
       .resetCounters, .allocate 8192 true]).map (fun s => (s.config.pageSize, s.perfCounters.cpuToGpuMigrations)) =
      some (8192, 1) := by
    decide
  obtain ⟨s, hs, he⟩ := Option.map_eq_some'.mp h
  simp only [Prod.mk.injEq] at he
  exact ⟨s, hs, he.1, he.2, migrations_accounted_unless_resized _ _ (by decide) hs⟩

open VirtualMemoryManager in
/-- 4 KiB pages, one page prefetched to the device, then `shutdown` and
`initialize` with 8 KiB pages: one migration, of 4096 bytes, where the
equation asks for 8192. -/
theorem reinit_breaks_migration_accounting :
    ((fresh fun _ => 0).run
      [.init smallConfig 0x10000, .allocate 4096 true, .shutdown,
       .init { smallConfig with pageSize := 8192 } 0x10000]).map
      (fun s => (s.config.pageSize, s.perfCounters.cpuToGpuMigrations, s.perfCounters.gpuToCpuMigrations,
        s.perfCounters.totalBytesMigrated)) = some (8192, 1, 0, 4096) := by
  decide

end UvmSim
