import UvmSim.Proof.Lifecycle
import UvmSim.Proof.Free
import UvmSim.Proof.Residency.Allocate
import UvmSim.Proof.Residency.Free
import UvmSim.Proof.Residency.Access

/-!
# The residency invariant over every run without a VPN wrap

`ReachableNoWrap` is `Reachable` with one guard on the steps: an `allocate`
of an initialized manager reserves its VPNs below `2 ^ 64`, so that
`next_vpn_` does not wrap (`noWrap`). Over these runs the manager keeps
`Consistent` and `Wf` while it is initialized, and an empty ledger while it
is not (`RunInv`): `initialize` sets both up (`init_consistent`), each other
operation keeps them (`step_consistent`), `shutdown` empties the ledger.

* `residency_consistent_of_no_wrap`: every state so reached, while
  initialized, satisfies the residency invariant. `vpn_wrap_breaks_residency`
  shows a run with a wrap that breaks it.
-/

namespace UvmSim

/-- What `PageAllocator::initialize` sets up for the manager: the shape, and
two empty pools. -/
theorem PageAllocator.init_shaped {P G p : Nat} {a : PageAllocator} (h : PageAllocator.init ⟨P, G, G⟩ p = some a) :
    a.Shaped ∧ a.config = ⟨P, G, G⟩ ∧ (∀ b ∈ a.cpu.bitmap, b = false) ∧ ∀ b ∈ a.gpu.bitmap, b = false := by
  obtain ⟨h0, hp, hlt, rfl⟩ := PageAllocator.init_eq_some h
  exact ⟨⟨h0, hp, hlt, hlt, List.length_replicate _ _, List.length_replicate _ _⟩, rfl,
    fun b hb => List.eq_of_mem_replicate hb, fun b hb => List.eq_of_mem_replicate hb⟩

namespace VirtualMemoryManager

variable {s t : VirtualMemoryManager} {op : Op}

/-- Whether `op` leaves the VPN counter of `s` unwrapped: an `allocate` of
an initialized manager reserves its pages below `2 ^ 64`. -/
def noWrap (s : VirtualMemoryManager) : Op → Bool
  | .allocate bytes _ =>
    !s.initialized || decide (s.nextVpn + u32 (alignToPage bytes s.config.pageSize / s.config.pageSize) < 2 ^ 64)
  | _ => true

/-- The states of the singleton reached by the runs in which `next_vpn_`
never wraps. -/
inductive ReachableNoWrap : VirtualMemoryManager → Prop
  | fresh (memory : Address → UInt8) : ReachableNoWrap (fresh memory)
  | step {s s' : VirtualMemoryManager} {op : Op} :
    ReachableNoWrap s → s.noWrap op → s.step op = some s' → ReachableNoWrap s'

theorem ReachableNoWrap.reachable (h : ReachableNoWrap s) : Reachable s := by
  induction h with
  | fresh m => exact .fresh m
  | step _ _ hs ih => exact .step ih hs

/-- `initialize` of a manager with an empty ledger sets up the invariant. -/
theorem init_consistent {c : VMConfig} {p : Address} (hl : s.gpuResidentPages = ∅) (hi : s.initialized = false)
    (h : s.init c p = some t) : t.Consistent ∧ t.Wf := by
  rcases init_eq_some h with ⟨hi', -⟩ | ⟨-, -, -, -, hpt, ha, -, -, -, hlg, -⟩
  · rw [hi] at hi'; cases hi'
  obtain ⟨hsh, hc, hcpu, hgpu⟩ := PageAllocator.init_shaped ha
  have hnone : ∀ v, t.pageTable.lookupEntry v = none := fun v => by rw [hpt]; rfl
  refine ⟨⟨⟨fun v e he => ?_, SlotsMatch.of_none (fun v => by simp [PageTable.cpuAddresses, hnone]) hcpu⟩,
    ⟨fun v e he => ?_, fun v => by simp [hlg, hl, hnone],
      SlotsMatch.of_none (fun v => by simp [PageTable.gpuAddresses, hnone]) hgpu⟩⟩,
    hsh, by rw [hc], fun v e he => ?_, fun v e he => ?_⟩
  all_goals rw [hnone] at he; cases he

/-- Every operation but the lifecycle keeps the invariant of an initialized
manager, when it does not wrap the VPN counter. -/
theorem step_consistent (h : s.Consistent) (hw : s.Wf) (hi : s.initialized = true) (hn : s.noWrap op)
    (hop : op.keepsLifecycle) (hs : s.step op = some t) : t.Consistent ∧ t.Wf := by
  cases op with
  | init | shutdown => cases hop
  | allocate bytes pf => cases hs; exact allocate_consistent h hw bytes pf (by simpa [noWrap, hi] using hn)
  | free a => exact free_consistent h hw hs
  | mapToCpu a b => rw [mapToCpu_of_consistent h hw (show s.mapToCpu a b = some t from hs)]; exact ⟨h, hw⟩
  | mapToGpu a => exact mapToGpu_consistent h hw hs
  | prefetchToGpu a => exact mapToGpu_consistent h hw hs
  | touchPage a w =>
    have hr := touchPage_sameResidency hs
    exact ⟨h.of_same hr, hw.of_same hr⟩
  | readFromVaddr a b n =>
    obtain ⟨⟨b', u⟩, hu, rfl⟩ := Option.map_eq_some'.mp hs
    rw [readFromVaddr_of_consistent h hw hu]; exact ⟨h, hw⟩
  | writeToVaddr a b n =>
    have hr := writeToVaddr_sameResidency h hw hs
    exact ⟨h.of_same hr, hw.of_same hr⟩
  | syncAllMigrations => cases hs; exact ⟨h, hw⟩
  | resetCounters =>
    cases hs
    have hr : SameResidency s s.resetCounters := ⟨rfl, rfl, rfl, rfl, rfl⟩
    exact ⟨h.of_same hr, hw.of_same hr⟩

/-- The invariant of the runs: `Consistent` and `Wf` while initialized, an
empty ledger otherwise. -/
def RunInv (s : VirtualMemoryManager) : Prop :=
  (s.initialized = true → s.Consistent ∧ s.Wf) ∧ (s.initialized = false → s.gpuResidentPages = ∅)

theorem step_runInv (hs : RunInv s) (hn : s.noWrap op) (h : s.step op = some t) : RunInv t := by
  cases hl : op.keepsLifecycle
  · cases op with
    | init c p =>
      rcases init_eq_some h with ⟨-, rfl⟩ | ⟨hi, ht, -⟩
      · exact hs
      · exact ⟨fun _ => init_consistent (hs.2 hi) hi h, fun hf => by rw [ht] at hf; cases hf⟩
    | shutdown =>
      cases h
      refine ⟨fun hi => by simp at hi, fun _ => ?_⟩
      unfold shutdown
      split_ifs with hi
      · rfl
      · exact hs.2 (by simpa using hi)
    | _ => cases hl
  · have hk := step_keeps hl h
    cases hi : s.initialized
    · rcases step_of_not_initialized hl hi h with rfl | rfl
      · exact hs
      · exact ⟨fun h' => by simp [resetCounters, hi] at h', fun _ => hs.2 hi⟩
    · obtain ⟨hc, hw⟩ := hs.1 hi
      refine ⟨fun _ => step_consistent hc hw hi hn hl h, fun hf => ?_⟩
      rw [hk.initialized, hi] at hf; cases hf

theorem ReachableNoWrap.runInv (h : ReachableNoWrap s) : RunInv s := by
  induction h with
  | fresh m => exact ⟨fun hi => by simp at hi, fun _ => rfl⟩
  | step _ hn hs ih => exact step_runInv ih hn hs

end VirtualMemoryManager

open VirtualMemoryManager in
/-- In every state reached from construction by a run in which `next_vpn_`
never wraps, while the manager is initialized: each entry is resident on a
side exactly when it holds an address there, the ledger is the set of
device-resident VPNs, and the occupied slots of each pool are the addresses
the entries hold in it, one entry per slot. -/
theorem residency_consistent_of_no_wrap {s : VirtualMemoryManager} (h : ReachableNoWrap s)
    (hi : s.initialized = true) : s.Consistent :=
  (h.runInv.1 hi).1

open VirtualMemoryManager in
/-- The invariant after a prefetching allocation of one 4 KiB page. -/
theorem consistent_after_prefetching_allocation :
    ∃ s, (fresh fun _ => 0).run [.init smallConfig 0x10000, .allocate 4096 true] = some s ∧ s.Consistent := by
  have h : ((fresh fun _ => 0).step (.init smallConfig 0x10000)).map (fun s =>
      (s.noWrap (.allocate 4096 true), (s.step (.allocate 4096 true)).map (·.initialized))) =
      some (true, some true) := by decide
  obtain ⟨s₁, hs₁, h⟩ := Option.map_eq_some'.mp h
  simp only [Prod.mk.injEq, Option.map_eq_some'] at h
  obtain ⟨hn, s₂, hs₂, hi⟩ := h
  exact ⟨s₂, by simp [run, hs₁, hs₂],
    residency_consistent_of_no_wrap (.step (.step (.fresh _) (by rfl) hs₁) hn hs₂) hi⟩

end UvmSim
