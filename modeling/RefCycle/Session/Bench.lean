import RefCycle.ScriptedHeap
/-!
# The bench

A session works on a reference-counted heap. For trying out a collector a
scripted heap may stand in its place; the collector then asks that one, while
the operations of mutators still go to the reference-counted heap.

## Main definitions

* `RefCycle.Bench` — the two heaps.
* The instance of `RefCycle.Reclaimable`, which asks the heap that is selected.
-/

namespace RefCycle

/-- The heaps of a session. -/
structure Bench where
  counted : Heap
  scripted : Option ScriptedHeap

namespace Bench

/-- Fresh heaps, with or without a scripted one. -/
def fresh (scripted : Bool) : Bench :=
  ⟨.empty, if scripted then some .empty else none⟩

instance [VisitOrder] : Reclaimable Bench where
  detect bench :=
    match bench.scripted with
    | some script => Reclaimable.detect script
    | none => Reclaimable.detect bench.counted
  refCount? bench object :=
    match bench.scripted with
    | some script => Reclaimable.refCount? script object
    | none => Reclaimable.refCount? bench.counted object
  releaseGroup bench group :=
    match bench.scripted with
    | some script =>
      match Reclaimable.releaseGroup script group with
      | .error fault => .error fault
      | .ok release =>
        .ok ⟨{ bench with scripted := some release.heap }, release.reclaimed, release.records⟩
    | none =>
      match Reclaimable.releaseGroup bench.counted group with
      | .error fault => .error fault
      | .ok release =>
        .ok ⟨{ bench with counted := release.heap }, release.reclaimed, release.records⟩

end Bench

end RefCycle
