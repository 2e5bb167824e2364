import RefCycle.Reclaimable
import RefCycle.Heap.Mutation
/-!
# Calls to a heap

The operations of a heap as data, so that a program can be told as the list of
the calls it makes, and one function that carries out any of them.

## Main definitions

* `Heap.Call` — a call to a heap.
* `Call.names`, `Call.needs` — the objects in a call, and those that must be live.
* `Heap.Effect` — its answer, the heap after it, and what was reported.
* `Heap.perform` — carries out a call.

## Design notes

A refusal is an answer like any other, with an unchanged heap. A fault is not:
there is no heap after it.
-/

namespace RefCycle.Heap

/-- A call to a heap. -/
inductive Call where
  | allocate
  | retain (object : ObjectId)
  | release (object : ObjectId)
  | link (source target : ObjectId)
  | unlink (source target : ObjectId)
  | detect
  /-- Free the self-contained part of a group. -/
  | releaseGroup (group : List ObjectId)
  deriving DecidableEq

def Call.names : Call → List ObjectId
  | .allocate | .detect => []
  | .retain object | .release object => [object]
  | .link source target | .unlink source target => [source, target]
  | .releaseGroup group => group

/-- The objects that must be live for a call to be carried out, in the order in
    which they are looked at. -/
def Call.needs : Call → List ObjectId
  | .allocate | .detect | .releaseGroup _ => []
  | .retain object | .release object => [object]
  | .link source target => [source, target]
  | .unlink source _ => [source]

/-- The answer to a call. -/
inductive Response where
  | done
  | allocated (object : ObjectId)
  | freed (count : Nat)
  | candidates (objects : Option (List ObjectId))
  | refused (refusal : Refusal)
  deriving DecidableEq

/-- What a call leaves behind. -/
structure Effect where
  response : Response
  heap : Heap
  records : List Record
  deriving DecidableEq

/-- The effect of an operation which frees nothing. -/
def Effect.ofUpdate (h : Heap) : Except Refusal Heap → Effect
  | .error refusal => ⟨.refused refusal, h, []⟩
  | .ok next => ⟨.done, next, []⟩

/-- The effect of an operation which may free objects. -/
def Effect.ofFreeing (h : Heap) : Except Failure Freeing → Except Fault Effect
  | .error (.halted fault) => .error fault
  | .error (.refused refusal) => .ok ⟨.refused refusal, h, []⟩
  | .ok freeing => .ok ⟨.freed freeing.freed.length, freeing.heap, freeing.records⟩

def perform [VisitOrder] (h : Heap) : Call → Except Fault Effect
  | .allocate => .ok ⟨.allocated h.allocate.1, h.allocate.2, [.allocated h.allocate.1]⟩
  | .retain object => .ok (.ofUpdate h (h.retain object))
  | .release object => Effect.ofFreeing h (h.release object)
  | .link source target => .ok (.ofUpdate h (h.link source target))
  | .unlink source target => Effect.ofFreeing h (h.unlink source target)
  | .detect => .ok ⟨.candidates h.detection.candidates, h, h.detection.records⟩
  | .releaseGroup group =>
    match Reclaimable.releaseGroup h group with
    | .error fault => .error fault
    | .ok release => .ok ⟨.freed release.reclaimed, release.heap, release.records⟩

end RefCycle.Heap
