import UvmSim.Impl.Manager

/-!
# The asynchronous migrations (`MigrationManager.h`, `MigrationManager.cpp`)

`async_migrate_cpu_to_gpu` and `async_migrate_gpu_to_cpu` push a closure that
makes the synchronous migration (`migrateCpuToGpu`, `migrateGpuToCpu`) onto
`migration_queue_` under `queue_mutex_`, then call `notify_one`. The
constructor starts `max_concurrent_migrations` threads of
`migration_worker_thread`: each waits on `queue_cv_` for a job or for
`shutdown_`, pops the front job and runs it outside the lock, until it reads
`shutdown_` at the head of its loop. The destructor stores `shutdown_`
without taking the lock, calls `notify_all` and joins the workers.

The state is the object with its threads: where each worker is
(`WorkerPc`), and whether the destructor has called `notify_all`. A
`MigrationAction` is one atomic action of one thread: a caller's push with
its notification, one step of a worker, a spurious wake-up from
`queue_cv_.wait`, or one of the destructor's two statements before its
joins. A worker's steps are cut where another thread can see a difference:
the read of `shutdown_` at the head of the loop, the critical section from
the wait's predicate to the pop, the block in `wait` (the lock released),
and the job. A step is `none` when its thread cannot take it: it waits for
`queue_mutex_` or on `queue_cv_`, or has returned. Each step also reports
what it did to the queue (`MigrationEvent`).

The caller's `notify_one` follows its push in one action; in the source
other threads may step between the unlock and the notification. The
manager itself never queues a migration: it calls the synchronous ones.
-/

namespace UvmSim

/-- A job of `migration_queue_`: the synchronous call its closure makes. The
queue's pairs also hold the VPN, which no thread reads. -/
inductive MigrationJob where
  | cpuToGpu (vpn : VirtualPageNumber) (cpuAddr : Address) (gpuAddr : Nat) (pageSize : Nat)
  | gpuToCpu (vpn : VirtualPageNumber) (gpuAddr : Nat) (cpuAddr : Address) (pageSize : Nat)
  deriving DecidableEq, Repr

/-- `migration_job.second()`: the closure's call, on the shared page table. -/
def MigrationJob.run (pt : PageTable) : MigrationJob → PageTable
  | .cpuToGpu vpn cpuAddr gpuAddr _ => migrateCpuToGpu pt vpn cpuAddr gpuAddr
  | .gpuToCpu vpn gpuAddr cpuAddr _ => migrateGpuToCpu pt vpn gpuAddr cpuAddr

/-- Where a thread of `migration_worker_thread` is. -/
inductive WorkerPc where
  /-- At `while (!shutdown_)`. -/
  | loop
  /-- Taking `queue_mutex_`, on entry or after a wake-up from `queue_cv_`;
  its next step tests the wait's predicate under the lock. -/
  | acquire
  /-- Holding the lock, the predicate false: about to block in `wait`. -/
  | waiting
  /-- Blocked on `queue_cv_`, the lock released. -/
  | blocked
  /-- Running the job it popped, outside the lock. -/
  | running (job : MigrationJob)
  /-- Out of the loop: the thread has returned, and its `join` returns. -/
  | exited
  deriving DecidableEq, Repr

/-- A notification's effect on a worker: one blocked on `queue_cv_` goes to
take the lock again. -/
def WorkerPc.wake : WorkerPc → WorkerPc
  | .blocked => .acquire
  | pc => pc

structure MigrationManager.Config where
  asyncMigration : Bool := true
  maxConcurrentMigrations : Nat := 4
  deriving DecidableEq, Repr

/-- A `MigrationManager` with its threads: `*page_table_`, the workers, the
queue, `shutdown_`, and how far the destructor has got. -/
structure MigrationManager where
  pageTable : PageTable
  config : MigrationManager.Config
  migrationWorkers : List WorkerPc
  migrationQueue : List MigrationJob
  shutdown : Bool
  /-- The destructor has called `queue_cv_.notify_all()` and is in its joins. -/
  notifiedAll : Bool

/-- One atomic action of one thread. -/
inductive MigrationAction where
  /-- A caller's `async_migrate_cpu_to_gpu`; its `notify_one` wakes worker
  `wake` if that worker is blocked. -/
  | asyncMigrateCpuToGpu (vpn : VirtualPageNumber) (cpuAddr : Address) (gpuAddr : Nat) (pageSize : Nat)
      (wake : Nat)
  /-- A caller's `async_migrate_gpu_to_cpu`. -/
  | asyncMigrateGpuToCpu (vpn : VirtualPageNumber) (gpuAddr : Nat) (cpuAddr : Address) (pageSize : Nat)
      (wake : Nat)
  /-- One step of worker `i`. -/
  | worker (i : Nat)
  /-- A spurious wake-up of worker `i` in `queue_cv_.wait`. -/
  | spuriousWakeup (i : Nat)
  /-- The destructor's `shutdown_ = true`. -/
  | storeShutdown
  /-- The destructor's `queue_cv_.notify_all()`. -/
  | notifyAll
  deriving DecidableEq, Repr

/-- What a step did to the queue. -/
inductive MigrationEvent where
  | queued (job : MigrationJob)
  | taken (job : MigrationJob)
  | completed (job : MigrationJob)
  deriving DecidableEq, Repr

namespace MigrationManager

/-- The constructor: with `async_migration`, `max_concurrent_migrations`
workers at the head of their loop. -/
def new (pageTable : PageTable) (config : Config) : MigrationManager where
  pageTable := pageTable
  config := config
  migrationWorkers := if config.asyncMigration then List.replicate config.maxConcurrentMigrations .loop else []
  migrationQueue := []
  shutdown := false
  notifiedAll := false

/-- Whether a worker holds `queue_mutex_` across steps: the one about to
block in `wait`. -/
def queueLocked (m : MigrationManager) : Bool := m.migrationWorkers.contains .waiting

def setWorker (m : MigrationManager) (i : Nat) (pc : WorkerPc) : MigrationManager :=
  { m with migrationWorkers := m.migrationWorkers.set i pc }

/-- `queue_cv_.notify_one()`: it wakes worker `wake`, which must be blocked
if any worker is. -/
def notifyOne (ws : List WorkerPc) (wake : Nat) : Option (List WorkerPc) :=
  if ws[wake]? = some .blocked then some (ws.set wake .acquire)
  else if ws.contains .blocked then none else some ws

/-- The body of both `async_migrate_*`: the push under the lock, then the
notification. -/
def asyncMigrate (m : MigrationManager) (job : MigrationJob) (wake : Nat) :
    Option (MigrationManager × List MigrationEvent) :=
  if m.queueLocked then none
  else (notifyOne m.migrationWorkers wake).map fun ws =>
    ({ m with migrationQueue := m.migrationQueue ++ [job], migrationWorkers := ws }, [.queued job])

def asyncMigrateCpuToGpu (m : MigrationManager) (vpn : VirtualPageNumber) (cpuAddr : Address)
    (gpuAddr pageSize wake : Nat) : Option (MigrationManager × List MigrationEvent) :=
  m.asyncMigrate (.cpuToGpu vpn cpuAddr gpuAddr pageSize) wake

def asyncMigrateGpuToCpu (m : MigrationManager) (vpn : VirtualPageNumber) (gpuAddr : Nat)
    (cpuAddr : Address) (pageSize wake : Nat) : Option (MigrationManager × List MigrationEvent) :=
  m.asyncMigrate (.gpuToCpu vpn gpuAddr cpuAddr pageSize) wake

/-- One step of worker `i` in `migration_worker_thread`. From `acquire` the
step is the critical section: the wait's predicate
`!migration_queue_.empty() || shutdown_`, then the `break`, the pop or the
`continue`. -/
def workerStep (m : MigrationManager) (i : Nat) : Option (MigrationManager × List MigrationEvent) :=
  match m.migrationWorkers[i]? with
  | some .loop => some (m.setWorker i (if m.shutdown then .exited else .acquire), [])
  | some .acquire =>
    if m.queueLocked then none
    else if !m.migrationQueue.isEmpty || m.shutdown then
      if m.shutdown && m.migrationQueue.isEmpty then some (m.setWorker i .exited, [])
      else
        match m.migrationQueue with
        | job :: rest => some ({ m.setWorker i (.running job) with migrationQueue := rest }, [.taken job])
        | [] => some (m.setWorker i .loop, [])
    else some (m.setWorker i .waiting, [])
  | some .waiting => some (m.setWorker i .blocked, [])
  | some (.running job) => some ({ m.setWorker i .loop with pageTable := job.run m.pageTable }, [.completed job])
  | _ => none

def step (m : MigrationManager) : MigrationAction → Option (MigrationManager × List MigrationEvent)
  | .asyncMigrateCpuToGpu vpn cpuAddr gpuAddr pageSize wake =>
    m.asyncMigrateCpuToGpu vpn cpuAddr gpuAddr pageSize wake
  | .asyncMigrateGpuToCpu vpn gpuAddr cpuAddr pageSize wake =>
    m.asyncMigrateGpuToCpu vpn gpuAddr cpuAddr pageSize wake
  | .worker i => m.workerStep i
  | .spuriousWakeup i =>
    if m.migrationWorkers[i]? = some .blocked then some (m.setWorker i .acquire, []) else none
  | .storeShutdown => if m.shutdown then none else some ({ m with shutdown := true }, [])
  | .notifyAll =>
    if m.shutdown && !m.notifiedAll then
      some ({ m with migrationWorkers := m.migrationWorkers.map WorkerPc.wake, notifiedAll := true }, [])
    else none

/-- An interleaving of actions, and what its steps did to the queue. -/
def run (m : MigrationManager) : List MigrationAction → Option (MigrationManager × List MigrationEvent)
  | [] => some (m, [])
  | a :: as => (m.step a).bind fun r => (r.1.run as).map fun r' => (r'.1, r.2 ++ r'.2)

/-- One test of the loop of `wait_for_migrations`, under the lock: whether
the queue is empty, and the loop returns. -/
def waitForMigrations (m : MigrationManager) : Option Bool :=
  if m.queueLocked then none else some m.migrationQueue.isEmpty

def getPendingMigrations (m : MigrationManager) : Option Nat :=
  if m.queueLocked then none else some m.migrationQueue.length

end MigrationManager

end UvmSim
