import Mathlib.Data.Finset.Card
import UvmSim.Impl.PageAllocator

/-!
# Slots and the addresses that name them

`allocate_cpu_page` names host slot `i` by `cpu_pool_ + i * page_size`
(`cpuSlot`), `allocate_gpu_page` names device slot `i` by
`0x100000000 + i * page_size` (`gpuSlot`); the deallocations map an address
back to its slot. Once `initialize` has shaped the allocator (`Shaped`), both
namings are injective on the pool and never null, and a deallocation of a
slot's address releases that slot.

`SlotsMatch A bm slot` says that the occupied slots of the bitmap `bm` are
exactly the nonzero addresses of the map `A` (a VPN's host or device address),
no two VPNs sharing one. It is stated once for both pools; the lemmas below
say what it becomes when a slot is taken for a VPN (`SlotsMatch.assign`), when
VPNs without an address appear (`SlotsMatch.extend`) and when VPNs are removed
with their slots (`SlotsMatch.remove`), and how it bounds the number of VPNs
that hold an address (`SlotsMatch.card_le`, `SlotsMatch.length_le`).
-/

namespace UvmSim

namespace SlotPool

theorem take_spec {p q : SlotPool} {i : Nat} (h : p.take = some (i, q)) :
    p.bitmap[i]? = some false ∧ q.bitmap = p.bitmap.set i true := by
  obtain ⟨j, hj, hq⟩ := Option.map_eq_some'.mp h
  simp only [Prod.mk.injEq] at hq
  obtain ⟨rfl, rfl⟩ := hq
  exact ⟨(firstFree_eq_some.mp hj).1, rfl⟩

theorem take_lt_length {p q : SlotPool} {i : Nat} (h : p.take = some (i, q)) : i < p.bitmap.length :=
  (List.getElem?_eq_some.mp (take_spec h).1).1

theorem take_eq_none {p : SlotPool} : p.take = none ↔ ∀ b ∈ p.bitmap, b = true := by
  simp [take, firstFree_eq_none]

/-- A release clears the slot's bit; a free or missing slot is left as it is. -/
@[simp] theorem release_bitmap (p : SlotPool) (i : Nat) : (p.release i).bitmap = p.bitmap.set i false := by
  unfold release
  split_ifs with h
  · rfl
  · refine (List.ext_getElem? fun j => ?_).symm
    rw [List.getElem?_set]
    split_ifs with hij hi
    · subst hij
      simpa [List.getD_eq_getElem?_getD, List.getElem?_eq_getElem hi] using h
    · subst hij; exact (List.getElem?_eq_none (by omega)).symm
    · rfl

end SlotPool

theorem getElem?_set_eq_some_true {bm : List Bool} {i j : Nat} {b : Bool} :
    (bm.set i b)[j]? = some true ↔ (i = j ∧ i < bm.length ∧ b = true) ∨ (i ≠ j ∧ bm[j]? = some true) := by
  rw [List.getElem?_set]
  by_cases hij : i = j <;> by_cases hi : i < bm.length <;> simp [hij, hi]

namespace PageAllocator

/-- The host address of slot `i`, as `allocate_cpu_page` forms it. -/
def cpuSlot (a : PageAllocator) (i : Nat) : Address := a.cpuPool + i * a.config.pageSize

/-- A lower host slot ends where a higher one may start, or before. -/
theorem cpuSlot_add_le (a : PageAllocator) {i j : Nat} (h : i < j) :
    a.config.pageSize + a.cpuSlot i ≤ a.cpuSlot j := by
  have := Nat.mul_le_mul_right a.config.pageSize (Nat.succ_le_of_lt h)
  simp only [cpuSlot, Nat.succ_mul] at this ⊢
  omega

/-- The device address of slot `i`, as `allocate_gpu_page` forms it. -/
def gpuSlot (a : PageAllocator) (i : Nat) : Nat := u64 (gpuBase + u64 (i * a.config.pageSize))

theorem allocateCpuPage_of_take {a : PageAllocator} {i : Nat} {p : SlotPool} (h : a.cpu.take = some (i, p)) :
    a.allocateCpuPage = (a.cpuSlot i, { a with cpu := p }) := by
  simp [allocateCpuPage, h, cpuSlot]

theorem allocateCpuPage_of_full {a : PageAllocator} (h : a.cpu.take = none) : a.allocateCpuPage = (0, a) := by
  simp [allocateCpuPage, h]

theorem allocateGpuPage_of_take {a : PageAllocator} {i : Nat} {p : SlotPool} (h : a.gpu.take = some (i, p)) :
    a.allocateGpuPage = (a.gpuSlot i, { a with gpu := p }) := by
  simp [allocateGpuPage, h, gpuSlot]

theorem allocateGpuPage_of_full {a : PageAllocator} (h : a.gpu.take = none) : a.allocateGpuPage = (0, a) := by
  simp [allocateGpuPage, h]

/-- What `initialize` leaves: every slot free. -/
theorem init_eq_some {c : PageAllocator.Config} {p : Address} {a : PageAllocator} (h : init c p = some a) :
    0 < c.pageSize ∧ p ≠ 0 ∧ c.cpuPagePoolSize < 2 ^ 63 ∧
      a = ⟨c, p, ⟨List.replicate (c.cpuPagePoolSize / c.pageSize) false, 0⟩,
        ⟨List.replicate (c.gpuPagePoolSize / c.pageSize) false, 0⟩⟩ := by
  unfold init malloc at h
  split_ifs at h with h0 hm
  · simp at h
  simp only [Option.map_some', Option.some.injEq] at h
  obtain ⟨hp, hsz⟩ := not_or.mp hm
  exact ⟨Nat.pos_of_ne_zero h0, hp, not_le.mp hsz, h.symm⟩

/-- What `initialize` makes of the allocator and no operation changes: a
nonzero page size, a non-null host pool, pools below `PTRDIFF_MAX` and one
bit per slot. -/
structure Shaped (a : PageAllocator) : Prop where
  pageSize_pos : 0 < a.config.pageSize
  cpuPool_ne_zero : a.cpuPool ≠ 0
  cpuPoolSize_lt : a.config.cpuPagePoolSize < 2 ^ 63
  gpuPoolSize_lt : a.config.gpuPagePoolSize < 2 ^ 63
  cpu_length : a.cpu.bitmap.length = a.config.cpuPagePoolSize / a.config.pageSize
  gpu_length : a.gpu.bitmap.length = a.config.gpuPagePoolSize / a.config.pageSize

/-- A slot below `n / P` starts below `n`. -/
theorem mul_lt_of_lt_div {i n P : Nat} (hP : 0 < P) (hi : i < n / P) : i * P < n := by
  have := (Nat.le_div_iff_mul_le hP).mp hi
  rw [Nat.succ_mul] at this
  omega

/-- When the device range fits in `uint64_t`, the address of a device slot
does not wrap. -/
theorem gpuSlot_eq_of_le {a : PageAllocator} {i : Nat} (hP : 0 < a.config.pageSize)
    (hi : i < a.config.gpuPagePoolSize / a.config.pageSize) (hg : gpuBase + a.config.gpuPagePoolSize ≤ 2 ^ 64) :
    a.gpuSlot i = gpuBase + i * a.config.pageSize := by
  have hlt := mul_lt_of_lt_div hP hi
  unfold gpuSlot gpuBase at *
  rw [u64_of_lt (show i * a.config.pageSize < 2 ^ 64 by omega), u64_of_lt (by omega)]

/-- Allocator updates that keep the configuration, the host pool and the
lengths of the bitmaps keep the shape. -/
theorem Shaped.of_lengths {a b : PageAllocator} (h : a.Shaped) (hc : b.config = a.config)
    (hp : b.cpuPool = a.cpuPool) (hcl : b.cpu.bitmap.length = a.cpu.bitmap.length)
    (hgl : b.gpu.bitmap.length = a.gpu.bitmap.length) : b.Shaped := by
  obtain ⟨h1, h2, h3, h4, h5, h6⟩ := h
  exact ⟨hc ▸ h1, hp ▸ h2, hc ▸ h3, hc ▸ h4, hcl ▸ hc ▸ h5, hgl ▸ hc ▸ h6⟩

section Shaped

variable {a : PageAllocator} (h : a.Shaped)
include h

theorem Shaped.cpuSlot_ne_zero (i : Nat) : a.cpuSlot i ≠ 0 := by
  simp [cpuSlot, h.cpuPool_ne_zero]

theorem Shaped.cpuSlot_inj {i j : Nat} (hij : a.cpuSlot i = a.cpuSlot j) : i = j :=
  Nat.eq_of_mul_eq_mul_right h.pageSize_pos (Nat.add_left_cancel hij)

theorem Shaped.gpuSlot_eq {i : Nat} (hi : i < a.gpu.bitmap.length) :
    a.gpuSlot i = gpuBase + i * a.config.pageSize :=
  gpuSlot_eq_of_le h.pageSize_pos (h.gpu_length ▸ hi) (by have := h.gpuPoolSize_lt; unfold gpuBase; omega)

theorem Shaped.gpuSlot_ne_zero {i : Nat} (hi : i < a.gpu.bitmap.length) : a.gpuSlot i ≠ 0 := by
  rw [h.gpuSlot_eq hi, gpuBase]; omega

theorem Shaped.gpuSlot_inj {i j : Nat} (hi : i < a.gpu.bitmap.length) (hj : j < a.gpu.bitmap.length)
    (hij : a.gpuSlot i = a.gpuSlot j) : i = j := by
  rw [h.gpuSlot_eq hi, h.gpuSlot_eq hj] at hij
  exact Nat.eq_of_mul_eq_mul_right h.pageSize_pos (by omega)

/-- `deallocate_cpu_page` of a slot's address releases that slot. -/
theorem Shaped.deallocateCpuPage_cpuSlot {i : Nat} (hi : i < a.cpu.bitmap.length) :
    a.deallocateCpuPage (a.cpuSlot i) = { a with cpu := a.cpu.release i } := by
  have hlt := mul_lt_of_lt_div h.pageSize_pos (h.cpu_length ▸ hi)
  have hsz : toPtrdiff a.config.cpuPagePoolSize = a.config.cpuPagePoolSize := if_pos h.cpuPoolSize_lt
  have hoff : ((a.cpuSlot i : Nat) : Int) - a.cpuPool = ((i * a.config.pageSize : Nat) : Int) := by
    unfold cpuSlot; push_cast; omega
  simp only [deallocateCpuPage, h.cpuSlot_ne_zero i, if_false, hoff, hsz, Int.toNat_ofNat,
    Nat.mul_div_cancel _ h.pageSize_pos]
  rw [if_neg (by omega)]

/-- `deallocate_gpu_page` of a slot's address releases that slot. -/
theorem Shaped.deallocateGpuPage_gpuSlot {i : Nat} (hi : i < a.gpu.bitmap.length) :
    a.deallocateGpuPage (a.gpuSlot i) = { a with gpu := a.gpu.release i } := by
  rw [deallocateGpuPage, if_neg (by rw [h.gpuSlot_eq hi]; omega), h.gpuSlot_eq hi, Nat.add_sub_cancel_left,
    Nat.mul_div_cancel _ h.pageSize_pos]

end Shaped

/-- The rollback of `allocate`: the slots of the pages given back are
released, one after another. -/
theorem Shaped.foldl_deallocateCpuPage {a : PageAllocator} (h : a.Shaped) (pages : List Address)
    (hq : ∀ q ∈ pages, ∃ k < a.cpu.bitmap.length, q = a.cpuSlot k) :
    (pages.foldl deallocateCpuPage a).config = a.config ∧
      (pages.foldl deallocateCpuPage a).cpuPool = a.cpuPool ∧
      (pages.foldl deallocateCpuPage a).gpu = a.gpu ∧
      (pages.foldl deallocateCpuPage a).cpu.bitmap.length = a.cpu.bitmap.length ∧
      ∀ k, (pages.foldl deallocateCpuPage a).cpu.bitmap[k]? = some true ↔
        a.cpu.bitmap[k]? = some true ∧ a.cpuSlot k ∉ pages := by
  induction pages generalizing a with
  | nil => simp
  | cons q pages ih =>
    obtain ⟨k₀, hk₀, rfl⟩ := hq q (List.mem_cons_self _ _)
    have hslot : ({ a with cpu := a.cpu.release k₀ } : PageAllocator).cpuSlot = a.cpuSlot := rfl
    have ha₁ : ({ a with cpu := a.cpu.release k₀ } : PageAllocator).Shaped := h.of_lengths rfl rfl (by simp) rfl
    obtain ⟨h1, h2, h3, h4, h5⟩ := ih ha₁ fun q' hq' => by
      obtain ⟨k, hk, rfl⟩ := hq q' (List.mem_cons_of_mem _ hq')
      exact ⟨k, by simpa using hk, rfl⟩
    rw [List.foldl_cons, h.deallocateCpuPage_cpuSlot hk₀]
    refine ⟨h1, h2, h3, by simpa using h4, fun k => ?_⟩
    rw [h5, hslot, List.mem_cons]
    simp only [SlotPool.release_bitmap, getElem?_set_eq_some_true, Bool.false_eq_true, and_false, false_or]
    constructor
    · rintro ⟨⟨hne, hk⟩, hnot⟩
      exact ⟨hk, fun hc => hc.elim (fun he => hne (h.cpuSlot_inj he).symm) hnot⟩
    · rintro ⟨hk, hnot⟩
      exact ⟨⟨fun he => hnot (.inl (he ▸ rfl)), hk⟩, fun hm => hnot (.inr hm)⟩

end PageAllocator

/-- The occupied slots of the bitmap `bm` are exactly the nonzero addresses
`A` gives to VPNs, where `slot` names each slot by its address, and no two
VPNs share a nonzero address. -/
structure SlotsMatch (A : VirtualPageNumber → Option Nat) (bm : List Bool) (slot : Nat → Nat) : Prop where
  occupied : ∀ i < bm.length, bm[i]? = some true ↔ ∃ v, A v = some (slot i)
  owned : ∀ v a, A v = some a → a ≠ 0 → ∃ i, bm[i]? = some true ∧ a = slot i
  unique : ∀ v w a, A v = some a → A w = some a → a ≠ 0 → v = w

/-- `bm'` is `bm` with the slots that `A` gives to the VPNs of `R` released. -/
def ReleasedFor (R : VirtualPageNumber → Prop) (A : VirtualPageNumber → Option Nat) (slot : Nat → Nat)
    (bm bm' : List Bool) : Prop :=
  bm'.length = bm.length ∧ ∀ i, bm'[i]? = some true ↔ bm[i]? = some true ∧ ¬∃ w, R w ∧ A w = some (slot i)

namespace SlotsMatch

variable {A A' : VirtualPageNumber → Option Nat} {bm bm' : List Bool} {slot : Nat → Nat}

/-- No VPN holds an address and no slot is occupied: the pools as
`initialize` leaves them. -/
theorem of_none (hA : ∀ v, A v = none) (hbm : ∀ b ∈ bm, b = false) : SlotsMatch A bm slot where
  occupied i hi := by
    rw [List.getElem?_eq_getElem hi, hbm _ (List.getElem_mem hi)]
    simp [hA]
  owned v a hv := by rw [hA] at hv; cases hv
  unique v w a hv := by rw [hA] at hv; cases hv

/-- Slot `i`, free, is taken for `v`, which had no address. -/
theorem assign (h : SlotsMatch A bm slot) {v : VirtualPageNumber} {i : Nat} (hv : A v = some 0)
    (hi : bm[i]? = some false) (hne : ∀ j < bm.length, slot j ≠ 0)
    (hinj : ∀ j < bm.length, slot j = slot i → j = i)
    (hA : ∀ w, A' w = if w = v then some (slot i) else A w) :
    SlotsMatch A' (bm.set i true) slot := by
  have hil : i < bm.length := (List.getElem?_eq_some.mp hi).1
  -- slot `i` is free, so no VPN holds its address
  have hfree : ∀ w, A w ≠ some (slot i) := fun w hw => by
    have := (h.occupied i hil).mpr ⟨w, hw⟩
    rw [hi] at this; cases this
  have hcases : ∀ w a, A' w = some a → (w = v ∧ a = slot i) ∨ (w ≠ v ∧ A w = some a) := by
    intro w a hw
    rw [hA] at hw
    split_ifs at hw with hwv
    · exact .inl ⟨hwv, (Option.some.inj hw).symm⟩
    · exact .inr ⟨hwv, hw⟩
  refine ⟨fun j hj => ?_, fun w a hw ha => ?_, fun w w' a hw hw' ha => ?_⟩
  · rw [List.length_set] at hj
    rw [getElem?_set_eq_some_true]
    constructor
    · rintro (⟨rfl, -, -⟩ | ⟨-, hj'⟩)
      · exact ⟨v, by simp [hA]⟩
      · obtain ⟨w, hw⟩ := (h.occupied j hj).mp hj'
        have hwv : w ≠ v := by
          rintro rfl; rw [hv] at hw; exact hne j hj (Option.some.inj hw).symm
        exact ⟨w, by simp [hA, hwv, hw]⟩
    · rintro ⟨w, hw⟩
      rcases hcases w _ hw with ⟨-, hji⟩ | ⟨-, hw⟩
      · exact .inl ⟨(hinj j hj hji).symm, hil, rfl⟩
      · exact .inr ⟨by rintro rfl; exact hfree w hw, (h.occupied j hj).mpr ⟨w, hw⟩⟩
  · rcases hcases w a hw with ⟨-, rfl⟩ | ⟨-, hw⟩
    · exact ⟨i, getElem?_set_eq_some_true.mpr (.inl ⟨rfl, hil, rfl⟩), rfl⟩
    · obtain ⟨j, hj, rfl⟩ := h.owned w _ hw ha
      exact ⟨j, getElem?_set_eq_some_true.mpr (.inr ⟨by rintro rfl; exact hfree w hw, hj⟩), rfl⟩
  · rcases hcases w a hw with ⟨rfl, ha₁⟩ | ⟨-, hw⟩ <;> rcases hcases w' a hw' with ⟨rfl, ha₂⟩ | ⟨-, hw'⟩
    · rfl
    · exact absurd (ha₁ ▸ hw') (hfree w')
    · exact absurd (ha₂ ▸ hw) (hfree w)
    · exact h.unique w w' a hw hw' ha

/-- VPNs without an address appear. -/
theorem extend (h : SlotsMatch A bm slot) (hne : ∀ i < bm.length, slot i ≠ 0)
    (hA : ∀ w, A' w = A w ∨ (A w = none ∧ A' w = some 0)) : SlotsMatch A' bm slot := by
  have hsame : ∀ w a, a ≠ 0 → (A' w = some a ↔ A w = some a) := by
    intro w a ha
    rcases hA w with hw | ⟨hw, hw'⟩
    · rw [hw]
    · simp [hw, hw', Ne.symm ha]
  refine ⟨fun i hi => ?_, fun w a hw ha => h.owned w a ((hsame w a ha).mp hw) ha,
    fun w w' a hw hw' ha => h.unique w w' a ((hsame w a ha).mp hw) ((hsame w' a ha).mp hw') ha⟩
  simp only [hsame _ _ (hne i hi)]
  exact h.occupied i hi

/-- The VPNs of `R` are removed, and the slots they held released. -/
theorem remove (h : SlotsMatch A bm slot) (R : VirtualPageNumber → Prop)
    (hne : ∀ i < bm.length, slot i ≠ 0)
    (hR : ∀ w, R w → A' w = none) (hA : ∀ w, ¬R w → A' w = A w) (hrel : ReleasedFor R A slot bm bm') :
    SlotsMatch A' bm' slot := by
  obtain ⟨hlen, hbm⟩ := hrel
  have hkept : ∀ w a, A' w = some a → ¬R w ∧ A w = some a := by
    intro w a hw
    by_cases hw' : R w
    · rw [hR w hw'] at hw; cases hw
    · exact ⟨hw', hA w hw' ▸ hw⟩
  refine ⟨fun i hi => ?_, fun w a hw ha => ?_, fun w w' a hw hw' ha => ?_⟩
  · rw [hlen] at hi
    rw [hbm]
    constructor
    · rintro ⟨ho, hnr⟩
      obtain ⟨w, hw⟩ := (h.occupied i hi).mp ho
      have hw' : ¬R w := fun hr => hnr ⟨w, hr, hw⟩
      exact ⟨w, hA w hw' ▸ hw⟩
    · rintro ⟨w, hw⟩
      obtain ⟨hnr, hw⟩ := hkept w _ hw
      refine ⟨(h.occupied i hi).mpr ⟨w, hw⟩, ?_⟩
      rintro ⟨w', hr, hw'⟩
      exact hnr (h.unique w' w _ hw' hw (hne i hi) ▸ hr)
  · obtain ⟨hnr, hw⟩ := hkept w a hw
    obtain ⟨i, hi, rfl⟩ := h.owned w _ hw ha
    refine ⟨i, (hbm i).mpr ⟨hi, ?_⟩, rfl⟩
    rintro ⟨w', hr, hw'⟩
    exact hnr (h.unique w' w _ hw' hw ha ▸ hr)
  · exact h.unique w w' a (hkept w a hw).2 (hkept w' a hw').2 ha

/-- The VPNs of `K`, each holding a nonzero address, are at most the slots. -/
theorem card_le (h : SlotsMatch A bm slot) (K : Finset VirtualPageNumber)
    (hK : ∀ v ∈ K, ∃ a, A v = some a ∧ a ≠ 0) : K.card ≤ bm.length := by
  calc K.card ≤ ((Finset.range bm.length).image slot).card := by
        refine Finset.card_le_card_of_injOn (fun v => (A v).getD 0) (fun v hv => ?_) (fun v hv w hw hvw => ?_)
        · obtain ⟨a, ha, ha0⟩ := hK v hv
          obtain ⟨i, hi, rfl⟩ := h.owned v a ha ha0
          simpa [ha] using ⟨i, (List.getElem?_eq_some.mp hi).1, rfl⟩
        · obtain ⟨a, ha, ha0⟩ := hK v hv
          obtain ⟨b, hb, -⟩ := hK w hw
          simp only [ha, hb, Option.getD_some] at hvw
          exact h.unique v w a ha (hvw ▸ hb) ha0
    _ ≤ bm.length := Finset.card_image_le.trans (Finset.card_range _).le

/-- When every slot is occupied, the VPNs that hold an address are at least
the slots. -/
theorem length_le (h : SlotsMatch A bm slot) (hfull : ∀ b ∈ bm, b = true)
    (hne : ∀ i < bm.length, slot i ≠ 0) (hinj : ∀ i < bm.length, ∀ j < bm.length, slot i = slot j → i = j)
    (G : Finset VirtualPageNumber) (hG : ∀ v a, A v = some a → a ≠ 0 → v ∈ G) : bm.length ≤ G.card := by
  calc bm.length = ((Finset.range bm.length).image slot).card := by
        rw [Finset.card_image_of_injOn (fun i hi j hj => hinj i (by simpa using hi) j (by simpa using hj)),
          Finset.card_range]
    _ ≤ (G.image fun v => (A v).getD 0).card := by
        refine Finset.card_le_card fun a ha => ?_
        obtain ⟨i, hi, rfl⟩ := Finset.mem_image.mp ha
        rw [Finset.mem_range] at hi
        have ho : bm[i]? = some true := by
          rw [List.getElem?_eq_getElem hi, hfull _ (List.getElem_mem hi)]
        obtain ⟨v, hv⟩ := (h.occupied i hi).mp ho
        exact Finset.mem_image.mpr ⟨v, hG v _ hv (hne i hi), by simp [hv]⟩
    _ ≤ G.card := Finset.card_image_le

end SlotsMatch

namespace ReleasedFor

variable {A : VirtualPageNumber → Option Nat} {bm bm' : List Bool} {slot : Nat → Nat} {L : List VirtualPageNumber}

theorem nil : ReleasedFor (· ∈ ([] : List VirtualPageNumber)) A slot bm bm :=
  ⟨rfl, fun i => by simp⟩

/-- The slot `k` of `v` is released next. -/
theorem release (h : ReleasedFor (· ∈ L) A slot bm bm') {v : VirtualPageNumber} {k : Nat} (hv : A v = some (slot k))
    (hinj : ∀ i < bm.length, slot i = slot k → i = k) :
    ReleasedFor (· ∈ L ++ [v]) A slot bm (bm'.set k false) := by
  refine ⟨by rw [List.length_set, h.1], fun i => ?_⟩
  rw [getElem?_set_eq_some_true, h.2]
  simp only [Bool.false_eq_true, and_false, false_or, List.mem_append, List.mem_singleton]
  constructor
  · rintro ⟨hki, hi, hn⟩
    refine ⟨hi, ?_⟩
    rintro ⟨w, hw | rfl, hw'⟩
    · exact hn ⟨w, hw, hw'⟩
    · rw [hv] at hw'
      exact hki (hinj i ((List.getElem?_eq_some.mp hi).1) (Option.some.inj hw').symm).symm
  · rintro ⟨hi, hn⟩
    exact ⟨fun hki => hn ⟨v, .inr rfl, hki ▸ hv⟩, hi, fun ⟨w, hw, hw'⟩ => hn ⟨w, .inl hw, hw'⟩⟩

/-- `v` holds no slot of the pool. -/
theorem skip (h : ReleasedFor (· ∈ L) A slot bm bm') {v : VirtualPageNumber}
    (hv : ∀ k < bm.length, A v ≠ some (slot k)) : ReleasedFor (· ∈ L ++ [v]) A slot bm bm' := by
  refine ⟨h.1, fun i => ?_⟩
  rw [h.2]
  simp only [List.mem_append, List.mem_singleton]
  constructor
  · rintro ⟨hi, hn⟩
    refine ⟨hi, ?_⟩
    rintro ⟨w, hw | rfl, hw'⟩
    · exact hn ⟨w, hw, hw'⟩
    · exact hv i ((List.getElem?_eq_some.mp hi).1) hw'
  · rintro ⟨hi, hn⟩
    exact ⟨hi, fun ⟨w, hw, hw'⟩ => hn ⟨w, .inl hw, hw'⟩⟩

end ReleasedFor

end UvmSim
