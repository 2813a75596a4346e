import UvmSim.Proof.Frame
import UvmSim.Proof.Free

/-!
# Reads and writes through the host slot

`read_from_vaddr` and `write_to_vaddr` fault the page to the host if needed
and `memcpy` from and to the start of its host slot.

* `write_at_offset_overwrites_base`: `vaddr` counts only through its VPN;
  the offset `vaddr % page_size` is never read, so every address of a page
  reads and writes the bytes at the page's start.
-/

namespace UvmSim

namespace VirtualMemoryManager

theorem map_range_getD {l : List UInt8} {n : Nat} (h : n ≤ l.length) :
    (List.range n).map (fun k => l.getD k 0) = l.take n := by
  apply List.ext_getElem
  · simp [h]
  · intro i h1 h2
    simp only [List.getElem_map, List.getElem_range, List.getElem_take, List.getD_eq_getElem?_getD,
      List.getElem?_eq_getElem (show i < l.length by simp at h2; omega), Option.getD_some]

end VirtualMemoryManager

open VirtualMemoryManager in
/-- Two one-page allocations (VPN 0 at `0`, VPN 1 at `4096`); `1` written to
byte `4096`, then `2` to byte `4097`: byte `4096` reads `2`. -/
theorem write_at_offset_overwrites_base :
    ((fresh fun _ => 0).run
      [.init smallConfig 0x10000, .allocate 4096 false, .allocate 4096 false,
       .writeToVaddr 4096 (some [1]) 1, .writeToVaddr 4097 (some [2]) 1]).bind
      (fun s => (s.readFromVaddr 4096 (some [0]) 1).map (·.1)) = some (some [2]) := by
  decide

end UvmSim
