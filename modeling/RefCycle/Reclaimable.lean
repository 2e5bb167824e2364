import RefCycle.Heap.Group
/-!
# What a collector asks of a heap

A collector knows a heap only through three questions: which objects are
candidates for collection, what the count of an object is, and how many objects
were reclaimed when a group was released. The first two leave the heap as it is.

## Main definitions

* `RefCycle.Reclaimable` — the questions.
* `Detection`, `Reclamation` — the answers that come with log records.
* `Heap.detection` — the answer of the detector of `RefCycle.Heap`.
* The instance for `RefCycle.Heap`, which visits sets in any given order.
-/

namespace RefCycle

/-- What a detector answers. -/
structure Detection where
  /-- The candidates; no list and an empty list mean the same. -/
  candidates : Option (List ObjectId)
  records : List Heap.Record

/-- What is left of a heap when a group was released. -/
structure Reclamation (H : Type) where
  heap : H
  /-- The number of reclaimed objects; objects outside the group may be among them. -/
  reclaimed : Nat
  records : List Heap.Record

/-- A heap from which a collector can reclaim cycles. -/
class Reclaimable (H : Type) where
  /-- The objects which are candidates for collection. -/
  detect : H → Detection
  /-- The count of an object, unless it is gone. -/
  refCount? : H → ObjectId → Option Nat
  /-- Releases a group of objects as one. -/
  releaseGroup : H → List ObjectId → Except Fault (Reclamation H)

/-- The garbage of a heap, with a record of how much of the heap it is. -/
def Heap.detection (h : Heap) : Detection :=
  let found := h.detectCycles
  ⟨found, [.detected (found.getD []).length h.len]⟩

instance [VisitOrder] : Reclaimable Heap where
  detect := Heap.detection
  refCount? := Heap.refCount?
  releaseGroup h group :=
    match h.releaseGroup group with
    | .error fault => .error fault
    | .ok release => .ok ⟨release.heap, release.reclaimed, release.records⟩

end RefCycle
