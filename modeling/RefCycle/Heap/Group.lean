import RefCycle.Heap.Cascade
import RefCycle.Heap.Garbage
import RefCycle.Heap.Record
import RefCycle.VisitOrder
/-!
# Freeing a group

A group of objects is freed as far as it only holds itself: its members are
looked at as a heap of their own, and the garbage of that heap is removed from
the whole one. References between the removed objects vanish with them, and the
references that lead out of them are dropped as if they were released, in the order in
which the removed objects are visited.

## Main definitions

* `Heap.restrict`, `Heap.members` — the part of a heap that consists of given
  objects, and of the live members of a group.
* `Heap.releaseGroup` — frees the self-contained part of a group.
* `Heap.GroupRelease` — what is left, and what was freed for which reason.

## Design notes

If more references were released than held, the order of the visit matters: a count may
have to go below zero in one order, and in another its object is freed before that.
-/

namespace RefCycle.Heap

/-- The part of a heap that consists of the objects in a set. -/
def restrict (h : Heap) (objects : ObjectSet) : Heap :=
  ⟨h.slots.mapIdx fun index slot => if ⟨index⟩ ∈ objects then slot else none⟩

/-- What is left when a group was freed. -/
structure GroupRelease where
  heap : Heap
  /-- The number of live members which are held from outside the group. -/
  kept : Nat
  /-- The members that were freed together, as they were visited. -/
  cyclic : List ObjectId
  /-- The objects that were freed because a freed member held their last reference. -/
  freed : List ObjectId

/-- The live members of a group, as a heap of their own. -/
def members (h : Heap) (group : List ObjectId) : Heap :=
  h.restrict (.ofList h.slots.size (group.filter h.contains))

/-- Frees the largest part of a group that is referenced only from inside itself,
    and everything that only it kept alive. -/
def releaseGroup [VisitOrder] (h : Heap) (group : List ObjectId) : Except Fault GroupRelease :=
  let members := h.members group
  let closed := VisitOrder.visit members.garbage
  match (closed.foldl erase h).discard (closed.flatMap h.edges) with
  | .error fault => .error fault
  | .ok freeing => .ok ⟨freeing.heap, members.len - closed.length, closed, freeing.freed⟩

def GroupRelease.reclaimed (release : GroupRelease) : Nat :=
  release.cyclic.length + release.freed.length

def GroupRelease.records (release : GroupRelease) : List Record :=
  (if 0 < release.kept then [.stillReferenced release.kept] else []) ++
  release.cyclic.map .freedCyclic ++ release.freed.map .freed

end RefCycle.Heap
