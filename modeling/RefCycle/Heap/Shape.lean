import RefCycle.Heap.Mutation
/-!
# Heaps of a given shape

Graphs of a regular shape are built by allocating all of their objects, linking
them, and letting go of all but the first few.

## Main definitions

* `Heap.Shape` — the shapes.
* `Shape.links` — the references of a shape, between numbered objects.
* `Heap.build` — adds a graph of a shape to a heap.
-/

namespace RefCycle.Heap

/-- A regular shape of a graph. -/
inductive Shape where
  | loose
  | chain
  /-- A chain whose last object refers to the first. -/
  | ring
  /-- The first object refers to each other one. -/
  | star
  /-- Each object refers to the two children that it has in a binary heap. -/
  | tree
  /-- Each object refers to each, itself included. -/
  | clique
  deriving DecidableEq

/-- The references of a shape with `n` objects, by number, in the order in which
    they are added. -/
def Shape.links (n : Nat) : Shape → List (Nat × Nat)
  | .loose => []
  | .chain => (List.range (n - 1)).map fun i => (i, i + 1)
  | .ring => ((List.range (n - 1)).map fun i => (i, i + 1)) ++ [(n - 1, 0)]
  | .star => (List.range (n - 1)).map fun i => (0, i + 1)
  | .tree => (List.range (n - 1)).map fun i => (i / 2, i + 1)
  | .clique => (List.range n).flatMap fun i => (List.range n).map fun j => (i, j)

def allocateAll (h : Heap) : Nat → Heap
  | 0 => h
  | n + 1 => h.allocate.2.allocateAll n

def linkAll (h : Heap) : List (ObjectId × ObjectId) → Except Refusal Heap
  | [] => .ok h
  | (source, target) :: links =>
    match h.link source target with
    | .error refusal => .error refusal
    | .ok next => next.linkAll links

/-- Releases objects, in order. The objects in `freedRev` were freed before, the
    latest of them first. -/
def releaseAll (h : Heap) (freedRev : List ObjectId) : List ObjectId → Except Failure Freeing
  | [] => .ok ⟨h, freedRev.reverse⟩
  | object :: objects =>
    match h.release object with
    | .error failure => .error failure
    | .ok freeing => freeing.heap.releaseAll (freeing.freed.reverse ++ freedRev) objects

/-- What is left when a graph was built. -/
structure Built where
  heap : Heap
  first : ObjectId
  last : ObjectId
  records : List Record

/-- Builds a graph of `n` objects and releases all of them but the first `keep`. -/
def build (h : Heap) (shape : Shape) (n keep : Nat) : Except Failure Built := do
  let object (number : Nat) : ObjectId := ⟨h.slots.size + number⟩
  let objects := (List.range n).map object
  let links := (shape.links n).map fun link => (object link.1, object link.2)
  let linked ← ((h.allocateAll n).linkAll links).mapError .refused
  let freeing ← linked.releaseAll [] (objects.drop keep)
  return ⟨freeing.heap, object 0, object (n - 1), objects.map .allocated ++ freeing.records⟩

end RefCycle.Heap
