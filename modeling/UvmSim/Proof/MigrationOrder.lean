import UvmSim.Proof.Migration

/-!
# The page table the migration jobs leave

A job writes the page table once, when its worker runs it, so the table is
the jobs completed so far applied in the order they completed
(`run_pageTable`). That order is not the queue's: the workers pop in queue
order but run the jobs side by side.

* `migrations_serialize_on_distinct_pages`: when no two queued jobs migrate
  the same VPN, the table is the completed jobs applied in the order they
  were queued, whatever the interleaving: writes to distinct entries
  commute.

With the four workers the manager starts, any two jobs queued one after the
other can complete in the other order, leaving the table of the reversed
sequence (the example at the end); for two jobs of one VPN the earlier one's
write is the one that stays, so the hypothesis of distinct VPNs is needed.
-/

namespace UvmSim

namespace PageTable

/-- Writes to the entries of two VPNs commute. -/
theorem modifyEntry_comm (pt : PageTable) {v w : VirtualPageNumber} (h : v ≠ w)
    (f g : PageTableEntry → PageTableEntry) :
    (pt.modifyEntry v f).modifyEntry w g = (pt.modifyEntry w g).modifyEntry v f := by
  refine ext_lookupEntry (by simp) (by simp) fun u => ?_
  simp only [lookupEntry_modifyEntry]
  by_cases hu : u = w
  · subst hu; simp [Ne.symm h]
  · by_cases hv : u = v <;> simp [hu, hv, h]

end PageTable

namespace MigrationJob

/-- The VPN a job migrates. -/
def vpn : MigrationJob → VirtualPageNumber
  | cpuToGpu vpn .. => vpn
  | gpuToCpu vpn .. => vpn

/-- Two jobs of distinct VPNs commute. -/
theorem run_comm (pt : PageTable) {j k : MigrationJob} (h : j.vpn ≠ k.vpn) : k.run (j.run pt) = j.run (k.run pt) := by
  cases j <;> cases k <;> simp only [run, migrateCpuToGpu, migrateGpuToCpu, vpn] at h ⊢ <;> split_ifs <;>
    first | rfl | exact PageTable.modifyEntry_comm _ h _ _

/-- The action of a caller that queues `j`, its `notify_one` waking worker
`wake`. -/
def action (wake : Nat) : MigrationJob → MigrationAction
  | cpuToGpu vpn cpuAddr gpuAddr pageSize => .asyncMigrateCpuToGpu vpn cpuAddr gpuAddr pageSize wake
  | gpuToCpu vpn gpuAddr cpuAddr pageSize => .asyncMigrateGpuToCpu vpn gpuAddr cpuAddr pageSize wake

end MigrationJob

namespace MigrationManager

variable {m t : MigrationManager} {a : MigrationAction} {e : List MigrationEvent}

/-- Only a job's return writes the page table. -/
theorem step_pageTable (h : m.step a = some (t, e)) :
    t.pageTable = (completedJobs e).foldl (fun pt j => j.run pt) m.pageTable := by
  cases a with
  | worker i =>
    simp only [step, workerStep] at h
    split at h
    · cases h; rfl
    · split_ifs at h
      · cases h; rfl
      · split at h <;> cases h <;> rfl
      · cases h; rfl
    · cases h; rfl
    · cases h; rfl
    · cases h
  | asyncMigrateCpuToGpu | asyncMigrateGpuToCpu =>
    simp only [step, asyncMigrateCpuToGpu, asyncMigrateGpuToCpu, asyncMigrate] at h
    split_ifs at h
    obtain ⟨ws, -, h⟩ := Option.map_eq_some'.mp h
    cases h; rfl
  | spuriousWakeup | storeShutdown | notifyAll =>
    simp only [step] at h
    split_ifs at h
    cases h; rfl

theorem run_pageTable : ∀ {m t : MigrationManager} {as : List MigrationAction} {e : List MigrationEvent},
    m.run as = some (t, e) → t.pageTable = (completedJobs e).foldl (fun pt j => j.run pt) m.pageTable
  | _, _, [], _, h => by cases h; rfl
  | _, _, _ :: _, _, h => by
    obtain ⟨u, e₁, e₂, h₁, h₂, rfl⟩ := run_cons_eq_some.mp h
    rw [run_pageTable h₂, step_pageTable h₁, completedJobs_append, List.foldl_append]

end MigrationManager

open MigrationManager in
/-- From construction, over every interleaving, when no two jobs queued
migrate the same VPN: the page table is what the jobs completed so far make
of it, applied one after another in the order they were queued. -/
theorem migrations_serialize_on_distinct_pages {pt : PageTable} {config : MigrationManager.Config}
    {as : List MigrationAction} {m : MigrationManager} {log : List MigrationEvent}
    (h : (new pt config).run as = some (m, log)) (hd : ((queuedJobs log).map MigrationJob.vpn).Nodup) :
    m.pageTable = ((queuedJobs log).filter (· ∈ completedJobs log)).foldl (fun pt j => j.run pt) pt := by
  obtain ⟨hq, hr⟩ := run_conserves h
  simp only [new_migrationQueue, List.nil_append, runningJobs_new] at hq hr
  have htaken : List.Sublist (takenJobs log) (queuedJobs log) := hq ▸ List.sublist_append_left _ _
  have hnd := List.Nodup.of_map _ hd
  have hmem : ∀ j ∈ completedJobs log, j ∈ queuedJobs log := fun j hj =>
    htaken.subset (hr.symm.subset (List.mem_append_left _ hj))
  have hperm : List.Perm (completedJobs log) ((queuedJobs log).filter (· ∈ completedJobs log)) :=
    (List.perm_ext_iff_of_nodup (List.nodup_append.mp ((hnd.sublist htaken).perm hr)).1 (hnd.filter _)).mpr
      fun j => by simpa using fun hj => hmem j hj
  rw [run_pageTable h]
  refine hperm.foldl_eq' (fun x hx y hy z => ?_) _
  by_cases hxy : x = y
  · rw [hxy]
  · exact MigrationJob.run_comm z fun hv => hxy (List.inj_on_of_nodup_map hd (hmem x hx) (hmem y hy) hv)

open MigrationManager in
/-- Two jobs of VPNs 1 and 2 queued to the manager's four workers, the
second completing first: the table is still the one of the queue's order. -/
theorem distinct_pages_complete_in_reverse :
    ∃ m log, (new ⟨4096, 0, ∅⟩ {}).run
        [.asyncMigrateCpuToGpu 1 0x1000 0x100000000 4096 0, .asyncMigrateGpuToCpu 2 0x100010000 0x11000 4096 0,
          .worker 0, .worker 0, .worker 1, .worker 1, .worker 1, .worker 0] = some (m, log) ∧
      completedJobs log = [.gpuToCpu 2 0x100010000 0x11000 4096, .cpuToGpu 1 0x1000 0x100000000 4096] ∧
      m.pageTable = ((queuedJobs log).filter (· ∈ completedJobs log)).foldl (fun pt j => j.run pt) ⟨4096, 0, ∅⟩ := by
  have h : ((new ⟨4096, 0, ∅⟩ {}).run
      [.asyncMigrateCpuToGpu 1 0x1000 0x100000000 4096 0, .asyncMigrateGpuToCpu 2 0x100010000 0x11000 4096 0,
        .worker 0, .worker 0, .worker 1, .worker 1, .worker 1, .worker 0]).map
      (fun r => (completedJobs r.2, decide ((queuedJobs r.2).map MigrationJob.vpn).Nodup)) =
      some ([.gpuToCpu 2 0x100010000 0x11000 4096, .cpuToGpu 1 0x1000 0x100000000 4096], true) := by decide
  obtain ⟨⟨m, log⟩, hr, hc⟩ := Option.map_eq_some'.mp h
  simp only [Prod.mk.injEq, decide_eq_true_eq] at hc
  exact ⟨m, log, hr, hc.1, migrations_serialize_on_distinct_pages hr hc.2⟩

open MigrationManager in
/- With the configuration the manager gives its `MigrationManager`, for every
page table and every two jobs queued one after the other: the first worker
pops the first job, the second worker pops the second and returns first. -/
example (pt : PageTable) (j k : MigrationJob) :
    ∃ as m log, (new pt {}).run as = some (m, log) ∧ queuedJobs log = [j, k] ∧
      completedJobs log = [k, j] ∧ m.pageTable = j.run (k.run pt) := by
  have h : ((new pt {}).run [j.action 0, k.action 0, .worker 0, .worker 0, .worker 1, .worker 1, .worker 1,
      .worker 0]).map (fun r => (queuedJobs r.2, completedJobs r.2, r.1.pageTable)) =
      some ([j, k], [k, j], j.run (k.run pt)) := by
    cases j <;> cases k <;> rfl
  obtain ⟨⟨m, log⟩, hr, hc⟩ := Option.map_eq_some'.mp h
  simp only [Prod.mk.injEq] at hc
  exact ⟨_, m, log, hr, hc.1, hc.2.1, hc.2.2⟩

end UvmSim
