import RefCycle.Proofs.Heap.Isolation
/-!
# Clear heaps

A heap is clear if mutators can reach all of it. With the books in order, what is held
from outside is what mutators hold; so the garbage is what they cannot reach, and to
release it as one group makes a heap clear.

## Main definitions

* `Heap.Clear` — all that is live can be reached from what mutators hold.

## Main statements

* `Balanced.mem_garbage_iff` — garbage is what mutators cannot reach.
* `reachable_iff_of_shrinks` — freeing does not change what mutators can reach.
* `Balanced.clear_iff` — a heap is clear exactly if it has no garbage.
* `releaseGroup_garbage_clear` — releasing the garbage makes a heap clear.
-/

namespace RefCycle.Heap

variable {h k : Heap} {held : ObjectId → Nat} {p : ObjectId} {release : GroupRelease}

/-- All that is live can be reached from what mutators hold. -/
def Clear (h : Heap) (held : ObjectId → Nat) : Prop :=
  ∀ p, h.contains p → h.Reachable (fun q => 0 < held q) p

theorem Balanced.anchored_iff (balanced : h.Balanced held []) (live : h.contains p) :
    h.Anchored p ↔ 0 < held p := by
  constructor
  · intro anchored
    obtain ⟨count, here, lt⟩ := anchored
    have law := balanced.counted p count here
    rw [List.count_nil] at law
    omega
  · intro holds
    by_contra loose
    exact Nat.ne_of_gt holds (balanced.unheld_of_not_anchored live loose)

theorem Balanced.mem_garbage_iff (balanced : h.Balanced held []) :
    p ∈ h.garbage ↔ h.contains p ∧ ¬h.Reachable (fun q => 0 < held q) p := by
  rw [mem_garbage_iff_lost, Lost]
  refine and_congr_right fun _ => not_congr ⟨fun reach => ?_, fun reach => ?_⟩
  · exact reach.bind fun q live anchored => .root live ((balanced.anchored_iff live).1 anchored)
  · exact reach.bind fun q live holds => .root live ((balanced.anchored_iff live).2 holds)

/-- Freeing does not change what can be reached from held objects, as long as the
    books are in order afterwards. -/
theorem reachable_iff_of_shrinks (less : Shrinks h k) (balanced : k.Balanced held []) :
    k.Reachable (fun q => 0 < held q) p ↔ h.Reachable (fun q => 0 < held q) p := by
  constructor
  · intro reach
    induction reach with
    | root live holds => exact .root (less.contains _ live) holds
    | edge source refers live ih => exact .edge ih (less.mem_edges refers) (less.contains _ live)
  · intro reach
    induction reach with
    | root live holds => exact .root (balanced.live _ (Nat.add_pos_left holds _)) holds
    | edge source refers live ih =>
      have survives := (source.edge refers live).survives less balanced
      rw [← (source.survives less balanced).2] at refers
      exact .edge ih refers survives.1

theorem Balanced.clear_iff (balanced : h.Balanced held []) : h.Clear held ↔ h.garbage = [] := by
  rw [List.eq_nil_iff_forall_not_mem]
  refine forall_congr' fun p => ?_
  rw [balanced.mem_garbage_iff, not_and_not_right]

theorem detectCycles_of_garbage (clean : h.garbage = []) : h.detectCycles = none := by
  rw [detectCycles, clean]

theorem releaseGroup_garbage_clear {order : VisitOrder} (balanced : h.Balanced held [])
    (run : h.releaseGroup h.garbage = .ok release) (after : release.heap.Balanced held []) :
    release.heap.Clear held := by
  intro p live
  have less := releaseGroup_shrinks run
  by_contra missed
  rw [reachable_iff_of_shrinks less after] at missed
  have lost : p ∈ h.garbage := balanced.mem_garbage_iff.2 ⟨less.contains p live, missed⟩
  have gone := mem_cyclic_of_enclosed balanced (garbage_enclosed balanced) run lost
  exact not_contains_of_mem_cyclic run gone live

theorem Shrinks.len_le (less : Shrinks h k) : k.len ≤ h.len :=
  (ids_nodup k).length_le_of_subset fun p mem => mem_ids.2 (less.contains p (mem_ids.1 mem))

/-- What is left of a heap when it is clear is what mutators could reach. -/
theorem Clear.contains_iff (clear : k.Clear held) (less : Shrinks h k)
    (balanced : k.Balanced held []) :
    k.contains p ↔ h.Reachable (fun q => 0 < held q) p :=
  ⟨fun live => (reachable_iff_of_shrinks less balanced).1 (clear p live),
    fun reach => (reach.survives less balanced).1⟩

end RefCycle.Heap
