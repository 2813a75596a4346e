import Mathlib
import UvmSim.Impl.Migration

/-!
# The migration queue over every interleaving

What the threads of a `MigrationManager` do to its queue, whatever the order
of their steps. A worker's step is one of six moves (`WorkerMove`); a
caller's push and the destructor's statements move no worker but wake
blocked ones (`Woken`); `step_eq_some` says so once, and every property is
a step lemma over it lifted to runs.

* `migrations_taken_in_order_once`: from construction, the workers take the
  jobs queued in the order they were queued, each once, the queue holding
  the rest, and each job taken has completed or is being run by one worker.
* `wait_for_migrations_leaves_jobs_running`: when `wait_for_migrations`
  finds the queue empty, every job queued has been taken, but up to
  `max_concurrent_migrations` of them may still be running.
* `shutdown_strands_queued_jobs`: once `shutdown_` is set, each worker
  takes at most one more job, and none if it is at the head of its loop or
  running a job; the jobs queued beyond those are never run.
* `joins_return_iff_none_waiting`: once `shutdown_` is set, the workers'
  steps alone can bring them all to return exactly when none is blocked on
  `queue_cv_` or about to block. A worker that tested the predicate before
  the store to `shutdown_` and blocks after the `notify_all` is never woken,
  and the destructor's `join` waits for it forever.
-/

namespace UvmSim

/-! ## What the steps report -/

namespace MigrationEvent

@[simp] def queuedJob? : MigrationEvent → Option MigrationJob
  | queued job => some job
  | _ => none

@[simp] def takenJob? : MigrationEvent → Option MigrationJob
  | taken job => some job
  | _ => none

@[simp] def completedJob? : MigrationEvent → Option MigrationJob
  | completed job => some job
  | _ => none

end MigrationEvent

/-- The jobs a log reports queued, in order; then those taken, and those
completed. -/
def queuedJobs (log : List MigrationEvent) : List MigrationJob := log.filterMap MigrationEvent.queuedJob?

def takenJobs (log : List MigrationEvent) : List MigrationJob := log.filterMap MigrationEvent.takenJob?

def completedJobs (log : List MigrationEvent) : List MigrationJob := log.filterMap MigrationEvent.completedJob?

@[simp] theorem queuedJobs_nil : queuedJobs [] = [] := rfl
@[simp] theorem takenJobs_nil : takenJobs [] = [] := rfl
@[simp] theorem completedJobs_nil : completedJobs [] = [] := rfl

@[simp] theorem queuedJobs_cons (ev : MigrationEvent) (log : List MigrationEvent) :
    queuedJobs (ev :: log) = ev.queuedJob?.toList ++ queuedJobs log := by
  cases ev <;> rfl

@[simp] theorem takenJobs_cons (ev : MigrationEvent) (log : List MigrationEvent) :
    takenJobs (ev :: log) = ev.takenJob?.toList ++ takenJobs log := by
  cases ev <;> rfl

@[simp] theorem completedJobs_cons (ev : MigrationEvent) (log : List MigrationEvent) :
    completedJobs (ev :: log) = ev.completedJob?.toList ++ completedJobs log := by
  cases ev <;> rfl

@[simp] theorem queuedJobs_append (l l' : List MigrationEvent) :
    queuedJobs (l ++ l') = queuedJobs l ++ queuedJobs l' := List.filterMap_append _ _ _
@[simp] theorem takenJobs_append (l l' : List MigrationEvent) :
    takenJobs (l ++ l') = takenJobs l ++ takenJobs l' := List.filterMap_append _ _ _
@[simp] theorem completedJobs_append (l l' : List MigrationEvent) :
    completedJobs (l ++ l') = completedJobs l ++ completedJobs l' := List.filterMap_append _ _ _

namespace WorkerPc

/-- The job a worker is running. -/
@[simp] def job? : WorkerPc → Option MigrationJob
  | running job => some job
  | _ => none

/-- Whether a worker may still take a job once `shutdown_` is set: it has
not tested the wait's predicate since it last read `shutdown_`. -/
@[simp] def canTake : WorkerPc → Bool
  | acquire | waiting | blocked => true
  | _ => false

/-- Blocked on `queue_cv_`, or holding the lock to block. -/
@[simp] def inWait : WorkerPc → Bool
  | waiting | blocked => true
  | _ => false

@[simp] theorem job?_wake (pc : WorkerPc) : pc.wake.job? = pc.job? := by cases pc <;> rfl

@[simp] theorem canTake_wake (pc : WorkerPc) : pc.wake.canTake = pc.canTake := by cases pc <;> rfl

end WorkerPc

/-! ## Workers moved one at a time -/

theorem filterMap_cons_eq {α β : Type} (f : α → Option β) (a : α) (l : List α) :
    (a :: l).filterMap f = (f a).toList ++ l.filterMap f := by
  cases h : f a <;> simp [List.filterMap_cons, h]

/-- Setting one element trades its image under `f` in a `filterMap` for the
new one's. -/
theorem filterMap_set_perm {α β : Type} (f : α → Option β) {l : List α} {i : Nat} {a : α}
    (h : l[i]? = some a) (b : α) :
    List.Perm ((l.set i b).filterMap f ++ (f a).toList) (l.filterMap f ++ (f b).toList) := by
  obtain ⟨hi, ha⟩ := List.getElem?_eq_some_iff.mp h
  obtain ⟨l₁, l₂, hl, -, hs⟩ := @List.exists_of_set _ _ b _ hi
  rw [ha] at hl
  rw [hs, hl]
  simp only [List.filterMap_append, filterMap_cons_eq]
  classical exact List.perm_iff_count.mpr fun x => by simp only [List.count_append]; omega

theorem sum_map_set {α : Type} (f : α → Nat) {l : List α} {i : Nat} {a : α} (h : l[i]? = some a) (b : α) :
    ((l.set i b).map f).sum + f a = (l.map f).sum + f b := by
  obtain ⟨hi, ha⟩ := List.getElem?_eq_some_iff.mp h
  obtain ⟨l₁, l₂, hl, -, hs⟩ := @List.exists_of_set _ _ b _ hi
  rw [ha] at hl
  rw [hs, hl]
  simp only [List.map_append, List.map_cons, List.sum_append, List.sum_cons]
  omega

/-- Each worker is where it was, or was woken from `queue_cv_`. -/
def Woken (ws ws' : List WorkerPc) : Prop := List.Forall₂ (fun pc pc' => pc' = pc ∨ pc' = pc.wake) ws ws'

namespace Woken

variable {ws ws' : List WorkerPc}

theorem refl (ws : List WorkerPc) : Woken ws ws := List.forall₂_same.mpr fun _ _ => .inl rfl

theorem map_wake (ws : List WorkerPc) : Woken ws (ws.map WorkerPc.wake) :=
  List.forall₂_map_right_iff.mpr (List.forall₂_same.mpr fun _ _ => .inr rfl)

theorem set_acquire : ∀ {ws : List WorkerPc} {i : Nat}, ws[i]? = some .blocked → Woken ws (ws.set i .acquire)
  | [], _, h => by simp at h
  | _ :: ws, 0, h => by
    simp only [List.getElem?_cons_zero, Option.some.injEq] at h
    subst h; exact .cons (.inr rfl) (refl ws)
  | _ :: _, _ + 1, h => .cons (.inl rfl) (set_acquire (by simpa using h))

theorem length_eq (h : Woken ws ws') : ws'.length = ws.length := (List.Forall₂.length_eq h).symm

theorem filterMap_job (h : Woken ws ws') : ws'.filterMap WorkerPc.job? = ws.filterMap WorkerPc.job? := by
  induction h with
  | nil => rfl
  | cons hpc _ ih => rcases hpc with rfl | rfl <;> simp only [filterMap_cons_eq, WorkerPc.job?_wake, ih]

theorem countP_canTake (h : Woken ws ws') : ws'.countP WorkerPc.canTake = ws.countP WorkerPc.canTake := by
  induction h with
  | nil => rfl
  | cons hpc _ ih => rcases hpc with rfl | rfl <;> simp only [List.countP_cons, WorkerPc.canTake_wake, ih]

end Woken

namespace MigrationManager

variable {m t : MigrationManager} {a : MigrationAction} {e : List MigrationEvent}

/-- The jobs the workers are running. -/
def runningJobs (m : MigrationManager) : List MigrationJob := m.migrationWorkers.filterMap WorkerPc.job?

theorem notifyOne_woken {ws ws' : List WorkerPc} {w : Nat} (h : notifyOne ws w = some ws') : Woken ws ws' := by
  unfold notifyOne at h
  split_ifs at h with hb
  · cases h; exact Woken.set_acquire hb
  · cases h; exact Woken.refl ws

/-- The moves of a worker, with `shutdown_` and the queue before them, the
place it moves to, the queue after them and what they report. The
`continue` of the source is not among them: the wait's predicate rules it
out. -/
inductive WorkerMove : Bool → List MigrationJob → WorkerPc → WorkerPc → List MigrationJob →
    List MigrationEvent → Prop
  /-- The head of the loop reads `shutdown_`. -/
  | loop (shutdown : Bool) (q : List MigrationJob) :
    WorkerMove shutdown q .loop (if shutdown then .exited else .acquire) q []
  /-- The predicate is false: the worker keeps the lock to block. -/
  | wait : WorkerMove false [] .acquire .waiting [] []
  /-- `shutdown_` and an empty queue: the `break`. -/
  | exit : WorkerMove true [] .acquire .exited [] []
  /-- The pop of the front job. -/
  | take (shutdown : Bool) (job : MigrationJob) (rest : List MigrationJob) :
    WorkerMove shutdown (job :: rest) .acquire (.running job) rest [.taken job]
  /-- `wait` releases the lock and blocks. -/
  | block (shutdown : Bool) (q : List MigrationJob) : WorkerMove shutdown q .waiting .blocked q []
  /-- The job returns; back to the head of the loop. -/
  | complete (shutdown : Bool) (q : List MigrationJob) (job : MigrationJob) :
    WorkerMove shutdown q (.running job) .loop q [.completed job]

theorem workerStep_eq_some {i : Nat} (h : m.workerStep i = some (t, e)) :
    ∃ pc pc', m.migrationWorkers[i]? = some pc ∧ WorkerMove m.shutdown m.migrationQueue pc pc' t.migrationQueue e ∧
      t.migrationWorkers = m.migrationWorkers.set i pc' ∧ t.shutdown = m.shutdown := by
  unfold workerStep at h
  split at h <;> try cases h
  · exact ⟨_, _, ‹_›, .loop _ _, rfl, rfl⟩
  · rename_i hi
    rcases hq : m.migrationQueue with _ | ⟨job, rest⟩ <;> cases hs : m.shutdown <;> simp [hq, hs] at h <;>
    · obtain ⟨-, rfl, rfl⟩ := h
      refine ⟨_, _, hi, ?_, rfl, hs⟩
      simp only [setWorker, hq]
      constructor
  · rename_i hi; exact ⟨_, _, hi, .block _ _, rfl, rfl⟩
  · rename_i hi; exact ⟨_, _, hi, .complete _ _ _, rfl, rfl⟩

/-- What a step can do: one worker moves; or a caller queues a job and may
wake a worker; or the destructor stores `shutdown_` or wakes every blocked
worker, or a worker wakes spuriously. -/
theorem step_eq_some (h : m.step a = some (t, e)) :
    (∃ i pc pc', m.migrationWorkers[i]? = some pc ∧
        WorkerMove m.shutdown m.migrationQueue pc pc' t.migrationQueue e ∧
        t.migrationWorkers = m.migrationWorkers.set i pc' ∧ t.shutdown = m.shutdown) ∨
      (∃ job, t.migrationQueue = m.migrationQueue ++ [job] ∧ e = [.queued job] ∧
        Woken m.migrationWorkers t.migrationWorkers ∧ t.shutdown = m.shutdown) ∨
      (t.migrationQueue = m.migrationQueue ∧ e = [] ∧ Woken m.migrationWorkers t.migrationWorkers ∧
        (m.shutdown = true → t.shutdown = true)) := by
  have hpush : ∀ job w, m.asyncMigrate job w = some (t, e) → ∃ job, t.migrationQueue = m.migrationQueue ++ [job] ∧
      e = [.queued job] ∧ Woken m.migrationWorkers t.migrationWorkers ∧ t.shutdown = m.shutdown := by
    intro job w h
    unfold asyncMigrate at h
    split_ifs at h
    obtain ⟨ws, hws, h⟩ := Option.map_eq_some'.mp h
    cases h
    exact ⟨job, rfl, rfl, notifyOne_woken hws, rfl⟩
  cases a with
  | asyncMigrateCpuToGpu v c g p w => exact .inr (.inl (hpush _ _ h))
  | asyncMigrateGpuToCpu v g c p w => exact .inr (.inl (hpush _ _ h))
  | worker i =>
    obtain ⟨pc, pc', hi, hm, hws, hs⟩ := workerStep_eq_some h
    exact .inl ⟨i, pc, pc', hi, hm, hws, hs⟩
  | spuriousWakeup i =>
    simp only [step] at h
    split_ifs at h with hb
    cases h
    exact .inr (.inr ⟨rfl, rfl, Woken.set_acquire hb, id⟩)
  | storeShutdown =>
    simp only [step] at h
    split_ifs at h
    cases h
    exact .inr (.inr ⟨rfl, rfl, Woken.refl _, fun _ => rfl⟩)
  | notifyAll =>
    simp only [step] at h
    split_ifs at h
    cases h
    exact .inr (.inr ⟨rfl, rfl, Woken.map_wake _, id⟩)

theorem run_cons_eq_some {as : List MigrationAction} :
    m.run (a :: as) = some (t, e) ↔
      ∃ u e₁ e₂, m.step a = some (u, e₁) ∧ u.run as = some (t, e₂) ∧ e = e₁ ++ e₂ := by
  simp only [run, Option.bind_eq_some, Option.map_eq_some', Prod.mk.injEq, Prod.exists]
  constructor
  · rintro ⟨u, e₁, h₁, t', e₂, h₂, rfl, rfl⟩; exact ⟨u, e₁, e₂, h₁, h₂, rfl⟩
  · rintro ⟨u, e₁, e₂, h₁, h₂, rfl⟩; exact ⟨u, e₁, h₁, t, e₂, h₂, rfl, rfl⟩

theorem step_length (h : m.step a = some (t, e)) : t.migrationWorkers.length = m.migrationWorkers.length := by
  rcases step_eq_some h with ⟨i, _, _, -, -, hws, -⟩ | ⟨-, -, -, hw, -⟩ | ⟨-, -, hw, -⟩
  · rw [hws, List.length_set]
  all_goals exact hw.length_eq

theorem run_length : ∀ {m t : MigrationManager} {as : List MigrationAction} {e : List MigrationEvent},
    m.run as = some (t, e) → t.migrationWorkers.length = m.migrationWorkers.length
  | _, _, [], _, h => by cases h; rfl
  | _, _, _ :: _, _, h => by
    obtain ⟨_, _, _, h₁, h₂, -⟩ := run_cons_eq_some.mp h
    rw [run_length h₂, step_length h₁]

/-! ## No job lost, repeated or overtaken -/

theorem WorkerMove.conserves {sd : Bool} {q q' : List MigrationJob} {pc pc' : WorkerPc}
    (h : WorkerMove sd q pc pc' q' e) :
    q ++ queuedJobs e = takenJobs e ++ q' ∧ takenJobs e = pc'.job?.toList ∧ completedJobs e = pc.job?.toList := by
  cases h with
  | loop sd q => cases sd <;> simp
  | _ => simp

/-- A step balances the queue and the running jobs against what it
queued, took and completed. -/
theorem step_conserves (h : m.step a = some (t, e)) :
    m.migrationQueue ++ queuedJobs e = takenJobs e ++ t.migrationQueue ∧
      List.Perm (m.runningJobs ++ takenJobs e) (completedJobs e ++ t.runningJobs) := by
  rcases step_eq_some h with ⟨i, pc, pc', hi, hm, hws, -⟩ | ⟨job, hq, rfl, hw, -⟩ | ⟨hq, rfl, hw, -⟩
  · obtain ⟨hq, ht, hc⟩ := hm.conserves
    refine ⟨hq, ?_⟩
    rw [ht, hc, runningJobs, runningJobs, hws]
    exact (filterMap_set_perm WorkerPc.job? hi pc').symm.trans List.perm_append_comm
  · simp [hq, runningJobs, hw.filterMap_job]
  · simp [hq, runningJobs, hw.filterMap_job]

theorem run_conserves : ∀ {m t : MigrationManager} {as : List MigrationAction} {e : List MigrationEvent},
    m.run as = some (t, e) →
      m.migrationQueue ++ queuedJobs e = takenJobs e ++ t.migrationQueue ∧
        List.Perm (m.runningJobs ++ takenJobs e) (completedJobs e ++ t.runningJobs)
  | _, _, [], _, h => by cases h; simp
  | m, t, _ :: _, _, h => by
    obtain ⟨u, e₁, e₂, h₁, h₂, rfl⟩ := run_cons_eq_some.mp h
    obtain ⟨hq₁, hr₁⟩ := step_conserves h₁
    obtain ⟨hq₂, hr₂⟩ := run_conserves h₂
    refine ⟨by rw [queuedJobs_append, takenJobs_append, ← List.append_assoc, hq₁, List.append_assoc, hq₂,
      List.append_assoc], ?_⟩
    calc List.Perm (m.runningJobs ++ takenJobs (e₁ ++ e₂)) ((m.runningJobs ++ takenJobs e₁) ++ takenJobs e₂) := by
          simp
      List.Perm _ ((completedJobs e₁ ++ u.runningJobs) ++ takenJobs e₂) := hr₁.append_right _
      _ = completedJobs e₁ ++ (u.runningJobs ++ takenJobs e₂) := List.append_assoc _ _ _
      List.Perm _ (completedJobs e₁ ++ (completedJobs e₂ ++ t.runningJobs)) := hr₂.append_left _
      _ = completedJobs (e₁ ++ e₂) ++ t.runningJobs := by simp

@[simp] theorem new_migrationQueue (pt : PageTable) (c : Config) : (new pt c).migrationQueue = [] := rfl

@[simp] theorem runningJobs_new (pt : PageTable) (c : Config) : (new pt c).runningJobs = [] := by
  unfold runningJobs new
  split <;> simp [List.filterMap_replicate]

end MigrationManager

open MigrationManager in
/-- From construction, over every interleaving of callers, workers,
spurious wake-ups and the destructor: the jobs taken are the jobs queued,
in the order they were queued and each once, the queue holding the rest;
and the jobs taken are, as a multiset, those completed and those the
workers are running. -/
theorem migrations_taken_in_order_once {pt : PageTable} {config : MigrationManager.Config}
    {as : List MigrationAction} {m : MigrationManager} {log : List MigrationEvent}
    (h : (new pt config).run as = some (m, log)) :
    queuedJobs log = takenJobs log ++ m.migrationQueue ∧
      List.Perm (takenJobs log) (completedJobs log ++ m.runningJobs) := by
  simpa using run_conserves h

open MigrationManager in
/-- Two jobs queued to the manager's four workers: both taken, in order,
the first completed and the second running. -/
theorem two_migrations_taken_in_order :
    ∃ m log, (new ⟨4096, 0, ∅⟩ {}).run
        [.asyncMigrateCpuToGpu 1 0x1000 0x100000000 4096 0, .asyncMigrateGpuToCpu 2 0x100010000 0x11000 4096 0,
          .worker 0, .worker 0, .worker 1, .worker 1, .worker 0] = some (m, log) ∧
      takenJobs log = [.cpuToGpu 1 0x1000 0x100000000 4096, .gpuToCpu 2 0x100010000 0x11000 4096] ∧
      m.runningJobs = [.gpuToCpu 2 0x100010000 0x11000 4096] ∧
      (queuedJobs log = takenJobs log ++ m.migrationQueue ∧
        List.Perm (takenJobs log) (completedJobs log ++ m.runningJobs)) := by
  have hc : ((new ⟨4096, 0, ∅⟩ {}).run
      [.asyncMigrateCpuToGpu 1 0x1000 0x100000000 4096 0, .asyncMigrateGpuToCpu 2 0x100010000 0x11000 4096 0,
        .worker 0, .worker 0, .worker 1, .worker 1, .worker 0]).map (fun r => (takenJobs r.2, r.1.runningJobs)) =
      some ([.cpuToGpu 1 0x1000 0x100000000 4096, .gpuToCpu 2 0x100010000 0x11000 4096],
        [.gpuToCpu 2 0x100010000 0x11000 4096]) := by decide
  obtain ⟨⟨m, log⟩, h, hv⟩ := Option.map_eq_some'.mp hc
  simp only [Prod.mk.injEq] at hv
  exact ⟨m, log, h, hv.1, hv.2, migrations_taken_in_order_once h⟩

/-! ## `wait_for_migrations` -/

namespace MigrationManager

variable {m t : MigrationManager} {a : MigrationAction} {e : List MigrationEvent}

theorem queue_of_waitForMigrations (h : m.waitForMigrations = some true) : m.migrationQueue = [] := by
  unfold waitForMigrations at h
  split_ifs at h
  simpa using h

theorem length_runningJobs_le {pt : PageTable} {config : Config} {as : List MigrationAction}
    (h : (new pt config).run as = some (m, e)) : m.runningJobs.length ≤ config.maxConcurrentMigrations :=
  calc m.runningJobs.length ≤ m.migrationWorkers.length := List.length_filterMap_le _ _
    _ = (new pt config).migrationWorkers.length := run_length h
    _ ≤ config.maxConcurrentMigrations := by unfold new; split <;> simp

end MigrationManager

open MigrationManager in
/-- From construction, when a test of `wait_for_migrations` finds the queue
empty, every job queued has been taken, and the jobs queued are, as a
multiset, those completed and those still running, of which there are at
most `max_concurrent_migrations`. -/
theorem wait_for_migrations_leaves_jobs_running {pt : PageTable} {config : MigrationManager.Config}
    {as : List MigrationAction} {m : MigrationManager} {log : List MigrationEvent}
    (h : (new pt config).run as = some (m, log)) (hw : m.waitForMigrations = some true) :
    List.Perm (queuedJobs log) (completedJobs log ++ m.runningJobs) ∧
      m.runningJobs.length ≤ config.maxConcurrentMigrations := by
  obtain ⟨hq, hr⟩ := run_conserves h
  simp only [new_migrationQueue, List.nil_append, runningJobs_new, queue_of_waitForMigrations hw,
    List.append_nil] at hq hr
  exact ⟨hq ▸ hr, length_runningJobs_le h⟩

open MigrationManager in
/-- One job queued and taken: `wait_for_migrations` returns while it runs. -/
theorem wait_returns_while_job_runs :
    ∃ m log, (new ⟨4096, 0, ∅⟩ {}).run [.asyncMigrateCpuToGpu 1 0x1000 0x100000000 4096 0, .worker 0, .worker 0] =
        some (m, log) ∧ m.waitForMigrations = some true ∧ completedJobs log = [] ∧
      m.runningJobs = [.cpuToGpu 1 0x1000 0x100000000 4096] ∧
      (List.Perm (queuedJobs log) (completedJobs log ++ m.runningJobs) ∧ m.runningJobs.length ≤ 4) := by
  have hc : ((new ⟨4096, 0, ∅⟩ {}).run [.asyncMigrateCpuToGpu 1 0x1000 0x100000000 4096 0, .worker 0, .worker 0]).map
      (fun r => (r.1.waitForMigrations, completedJobs r.2, r.1.runningJobs)) =
      some (some true, [], [.cpuToGpu 1 0x1000 0x100000000 4096]) := by decide
  obtain ⟨⟨m, log⟩, h, hv⟩ := Option.map_eq_some'.mp hc
  simp only [Prod.mk.injEq] at hv
  obtain ⟨hw, hc, hr⟩ := hv
  exact ⟨m, log, h, hw, hc, hr, wait_for_migrations_leaves_jobs_running h hw⟩

/-! ## After `shutdown_` is set -/

namespace MigrationManager

variable {m t : MigrationManager} {a : MigrationAction} {e : List MigrationEvent}

/-- Once `shutdown_` is set, a move takes a job only from a worker that
could, and leaves it unable to take another. -/
theorem WorkerMove.taken_le {q q' : List MigrationJob} {pc pc' : WorkerPc} (h : WorkerMove true q pc pc' q' e) :
    (takenJobs e).length + (if pc'.canTake then 1 else 0) ≤ if pc.canTake then 1 else 0 := by
  cases h <;> simp

/-- Once `shutdown_` is set, a step keeps it, and the jobs it takes and the
workers that can still take one are no more than before. -/
theorem step_taken_le (hs : m.shutdown = true) (h : m.step a = some (t, e)) :
    t.shutdown = true ∧
      (takenJobs e).length + t.migrationWorkers.countP WorkerPc.canTake ≤ m.migrationWorkers.countP WorkerPc.canTake := by
  rcases step_eq_some h with ⟨i, pc, pc', hi, hm, hws, hs'⟩ | ⟨job, -, rfl, hw, hs'⟩ | ⟨-, rfl, hw, hs'⟩
  · rw [hs] at hm
    have hl := hm.taken_le
    obtain ⟨hi', rfl⟩ := List.getElem?_eq_some_iff.mp hi
    have := List.boole_getElem_le_countP WorkerPc.canTake m.migrationWorkers i hi'
    rw [hws, List.countP_set _ _ _ _ hi']
    exact ⟨hs'.trans hs, by omega⟩
  · simp [hw.countP_canTake, hs', hs]
  · simp [hw.countP_canTake, hs' hs]

theorem run_taken_le : ∀ {m t : MigrationManager} {as : List MigrationAction} {e : List MigrationEvent},
    m.shutdown = true → m.run as = some (t, e) →
      (takenJobs e).length + t.migrationWorkers.countP WorkerPc.canTake ≤ m.migrationWorkers.countP WorkerPc.canTake
  | _, _, [], _, _, h => by cases h; simp
  | _, _, _ :: _, _, hs, h => by
    obtain ⟨u, e₁, e₂, h₁, h₂, rfl⟩ := run_cons_eq_some.mp h
    obtain ⟨hu, h₁⟩ := step_taken_le hs h₁
    have := run_taken_le hu h₂
    simp only [takenJobs_append, List.length_append]
    omega

end MigrationManager

open MigrationManager in
/-- From any state in which `shutdown_` is set, over every interleaving: the
workers take at most one job each, and none from a worker at the head of its
loop or running a job; so the queue keeps all but that many of the jobs it
held, which no worker runs. -/
theorem shutdown_strands_queued_jobs {m t : MigrationManager} {as : List MigrationAction}
    {log : List MigrationEvent} (hs : m.shutdown = true) (h : m.run as = some (t, log)) :
    (takenJobs log).length ≤ m.migrationWorkers.countP WorkerPc.canTake ∧
      m.migrationQueue.length ≤ m.migrationWorkers.countP WorkerPc.canTake + t.migrationQueue.length := by
  have hT := run_taken_le hs h
  have hq := congrArg List.length (run_conserves h).1
  simp only [List.length_append] at hq
  omega

open MigrationManager in
/-- Three jobs queued, then the destructor's store before any worker has
moved: the four workers return and leave the three jobs in the queue. -/
theorem three_jobs_stranded_at_shutdown :
    ∃ m, ((new ⟨4096, 0, ∅⟩ {}).run [.asyncMigrateCpuToGpu 1 0x1000 0x100000000 4096 0,
          .asyncMigrateCpuToGpu 2 0x11000 0x100010000 4096 0, .asyncMigrateCpuToGpu 3 0x21000 0x100020000 4096 0,
          .storeShutdown]).map Prod.fst = some m ∧ m.shutdown = true ∧
      ∃ t log, m.run [.worker 0, .worker 1, .worker 2, .worker 3] = some (t, log) ∧
        (∀ pc ∈ t.migrationWorkers, pc = .exited) ∧ t.migrationQueue.length = 3 ∧
        ((takenJobs log).length ≤ m.migrationWorkers.countP WorkerPc.canTake ∧
          m.migrationQueue.length ≤ m.migrationWorkers.countP WorkerPc.canTake + t.migrationQueue.length) := by
  have hc : ((new ⟨4096, 0, ∅⟩ {}).run [.asyncMigrateCpuToGpu 1 0x1000 0x100000000 4096 0,
        .asyncMigrateCpuToGpu 2 0x11000 0x100010000 4096 0, .asyncMigrateCpuToGpu 3 0x21000 0x100020000 4096 0,
        .storeShutdown]).bind (fun r => (r.1.run [.worker 0, .worker 1, .worker 2, .worker 3]).map
          fun r' => (r.1.shutdown, r'.1.migrationWorkers, r'.1.migrationQueue.length)) =
      some (true, [.exited, .exited, .exited, .exited], 3) := by decide
  obtain ⟨⟨m, l⟩, h₁, hc⟩ := Option.bind_eq_some.mp hc
  obtain ⟨⟨t, log⟩, h₂, hv⟩ := Option.map_eq_some'.mp hc
  simp only [Prod.mk.injEq] at hv
  obtain ⟨hs, hw, hq⟩ := hv
  refine ⟨m, by rw [h₁]; rfl, hs, t, log, h₂, by simp [hw], hq, shutdown_strands_queued_jobs hs h₂⟩

/-! ## The destructor's joins -/

/-- Whether an action is a worker's step: once the destructor has called
`notify_all`, only the workers move, unless one wakes spuriously. -/
def MigrationAction.isWorker : MigrationAction → Bool
  | .worker _ => true
  | _ => false

/-- How many steps a worker needs to return once `shutdown_` is set, unless
it is blocked or about to block. -/
@[simp] def WorkerPc.stepsToExit : WorkerPc → Nat
  | .loop => 1
  | .acquire => 3
  | .running _ => 2
  | _ => 0

namespace MigrationManager

variable {m t : MigrationManager} {a : MigrationAction} {e : List MigrationEvent}

def stepsToExit (m : MigrationManager) : Nat := (m.migrationWorkers.map WorkerPc.stepsToExit).sum

/-- A worker blocked or about to block stays so through its own moves. -/
theorem WorkerMove.inWait {sd : Bool} {q q' : List MigrationJob} {pc pc' : WorkerPc}
    (h : WorkerMove sd q pc pc' q' e) (hw : pc.inWait = true) : pc'.inWait = true := by
  cases h <;> simp_all

/-- No worker's step wakes a worker blocked or about to block. -/
theorem workerStep_inWait {i j : Nat} (h : m.workerStep j = some (t, e))
    (hi : (m.migrationWorkers[i]?).any WorkerPc.inWait) : (t.migrationWorkers[i]?).any WorkerPc.inWait := by
  obtain ⟨pc, pc', hj, hm, hws, -⟩ := workerStep_eq_some h
  rw [hws]
  by_cases hij : j = i
  · subst hij
    rw [hj] at hi
    obtain ⟨hl, -⟩ := List.getElem?_eq_some_iff.mp hj
    simpa [List.getElem?_set, hl] using hm.inWait (by simpa using hi)
  · rwa [List.getElem?_set_ne hij]

theorem run_inWait : ∀ {m t : MigrationManager} {as : List MigrationAction} {e : List MigrationEvent} {i : Nat},
    (∀ a ∈ as, a.isWorker) → m.run as = some (t, e) →
      (m.migrationWorkers[i]?).any WorkerPc.inWait → (t.migrationWorkers[i]?).any WorkerPc.inWait
  | _, _, [], _, _, _, h, hi => by cases h; exact hi
  | _, _, a :: _, _, _, ha, h, hi => by
    obtain ⟨u, e₁, e₂, h₁, h₂, rfl⟩ := run_cons_eq_some.mp h
    obtain ⟨j, rfl⟩ : ∃ j, a = .worker j := by
      cases a with
      | worker j => exact ⟨j, rfl⟩
      | _ => simp [MigrationAction.isWorker] at ha
    exact run_inWait (fun a h => ha a (List.mem_cons_of_mem _ h)) h₂ (workerStep_inWait h₁ hi)

/-- Once `shutdown_` is set and no worker is blocked or about to block, a
worker that has not returned can step closer to returning. -/
theorem exists_exit_step (hs : m.shutdown = true) (hw : ∀ pc ∈ m.migrationWorkers, pc.inWait = false)
    {i : Nat} {pc : WorkerPc} (hi : m.migrationWorkers[i]? = some pc) (hpc : pc ≠ .exited) :
    ∃ t e, m.workerStep i = some (t, e) ∧ t.shutdown = true ∧ (∀ pc ∈ t.migrationWorkers, pc.inWait = false) ∧
      t.stepsToExit < m.stepsToExit := by
  have hl : m.queueLocked = false := by
    simpa [queueLocked] using fun hm : WorkerPc.waiting ∈ m.migrationWorkers => by simpa using hw _ hm
  have hmove : ∃ pc', pc'.inWait = false ∧ pc'.stepsToExit < pc.stepsToExit ∧ ∃ t e,
      m.workerStep i = some (t, e) ∧ t.migrationWorkers = m.migrationWorkers.set i pc' ∧ t.shutdown = m.shutdown := by
    cases pc with
    | loop => exact ⟨.exited, rfl, by simp, m.setWorker i .exited, [], by simp [workerStep, hi, hs], rfl, rfl⟩
    | acquire =>
      cases hq : m.migrationQueue with
      | nil =>
        exact ⟨.exited, rfl, by simp, m.setWorker i .exited, [], by simp [workerStep, hi, hs, hl, hq], rfl, rfl⟩
      | cons job rest =>
        exact ⟨.running job, rfl, by simp, { m.setWorker i (.running job) with migrationQueue := rest },
          [.taken job], by simp [workerStep, hi, hs, hl, hq], rfl, rfl⟩
    | running job =>
      exact ⟨.loop, rfl, by simp, { m.setWorker i .loop with pageTable := job.run m.pageTable },
        [.completed job], by simp [workerStep, hi], rfl, rfl⟩
    | waiting | blocked => simpa using hw _ (List.mem_iff_getElem?.mpr ⟨i, hi⟩)
    | exited => exact absurd rfl hpc
  obtain ⟨pc', hw', hlt, t, e, h, hws, hs'⟩ := hmove
  have hsum := sum_map_set WorkerPc.stepsToExit hi pc'
  refine ⟨t, e, h, hs'.trans hs, fun p hp => ?_, by unfold stepsToExit; rw [hws]; omega⟩
  rw [hws] at hp
  rcases List.mem_or_eq_of_mem_set hp with hp | rfl
  exacts [hw p hp, hw']

/-- Once `shutdown_` is set and no worker is blocked or about to block, the
workers' steps alone bring them all to return. -/
theorem exists_run_exited {m : MigrationManager} (hs : m.shutdown = true) (hw : ∀ pc ∈ m.migrationWorkers, pc.inWait = false) :
    ∃ as t e, (∀ a ∈ as, a.isWorker) ∧ m.run as = some (t, e) ∧ ∀ pc ∈ t.migrationWorkers, pc = .exited := by
  by_cases hall : ∀ pc ∈ m.migrationWorkers, pc = .exited
  · exact ⟨[], m, [], by simp, rfl, hall⟩
  push_neg at hall
  obtain ⟨pc, hpc, hne⟩ := hall
  obtain ⟨i, hi⟩ := List.mem_iff_getElem?.mp hpc
  obtain ⟨t, e, h, hs', hw', hlt⟩ := exists_exit_step hs hw hi hne
  obtain ⟨as, u, e', ha, hr, hu⟩ := exists_run_exited hs' hw'
  exact ⟨.worker i :: as, u, e ++ e', List.forall_mem_cons.mpr ⟨rfl, ha⟩, run_cons_eq_some.mpr ⟨t, e, e', h, hr, rfl⟩, hu⟩
termination_by m.stepsToExit

end MigrationManager

open MigrationManager in
/-- Once `shutdown_` is set, the workers' steps alone can bring every worker
to return, so that the destructor's joins return, exactly when no worker is
blocked on `queue_cv_` or holding the lock to block: such a worker is woken
by no worker's step. -/
theorem joins_return_iff_none_waiting {m : MigrationManager} (hs : m.shutdown = true) :
    (∃ as t e, (∀ a ∈ as, a.isWorker) ∧ m.run as = some (t, e) ∧ ∀ pc ∈ t.migrationWorkers, pc = .exited) ↔
      ∀ pc ∈ m.migrationWorkers, pc.inWait = false := by
  refine ⟨fun ⟨as, t, e, ha, h, hall⟩ pc hpc => ?_, exists_run_exited hs⟩
  obtain ⟨i, hi⟩ := List.mem_iff_getElem?.mp hpc
  by_contra hw
  have hm : (m.migrationWorkers[i]?).any WorkerPc.inWait := by simpa [hi] using hw
  have ht := run_inWait ha h hm
  cases hti : t.migrationWorkers[i]? with
  | none => simp [hti] at ht
  | some pc' =>
    rw [hti, hall pc' (List.mem_iff_getElem?.mpr ⟨i, hti⟩)] at ht
    simp at ht

open MigrationManager in
/-- The destructor stores `shutdown_` and calls `notify_all` while worker 0
holds the lock to block, the predicate found false: no run of the workers
lets them all return. -/
theorem shutdown_while_worker_waits_hangs :
    ∃ m e, (new ⟨4096, 0, ∅⟩ {}).run [.worker 0, .worker 0, .storeShutdown, .notifyAll] = some (m, e) ∧
      m.notifiedAll = true ∧
      ¬ ∃ as t e', (∀ a ∈ as, a.isWorker) ∧ m.run as = some (t, e') ∧ ∀ pc ∈ t.migrationWorkers, pc = .exited := by
  have hc : ((new ⟨4096, 0, ∅⟩ {}).run [.worker 0, .worker 0, .storeShutdown, .notifyAll]).map
      (fun r => (r.1.shutdown, r.1.notifiedAll, r.1.migrationWorkers)) =
      some (true, true, [.waiting, .loop, .loop, .loop]) := by decide
  obtain ⟨⟨m, e⟩, h, hv⟩ := Option.map_eq_some'.mp hc
  simp only [Prod.mk.injEq] at hv
  obtain ⟨hs, hn, hw⟩ := hv
  refine ⟨m, e, h, hn, fun hj => ?_⟩
  have := (joins_return_iff_none_waiting hs).mp hj .waiting (by simp [hw])
  simp at this

end UvmSim
