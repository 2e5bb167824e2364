import RefCycle.Heap.Cascade
import RefCycle.Heap.Record
/-!
# Operations of mutators

What a program does to the heap it runs on: it allocates objects, holds and
lets go of references to them, and stores references in objects. An operation
on an object that is freed is refused and changes nothing.

## Main definitions

* `Heap.allocate`, `Heap.retain`, `Heap.release` — references held by mutators.
* `Heap.references`, `Heap.link`, `Heap.unlink` — references held by objects.
* `Heap.Refusal` — why an operation is refused.
-/

namespace RefCycle.Heap

/-- Why an operation is refused. -/
inductive Refusal where
  | freed (object : ObjectId)
  | missingEdge (source target : ObjectId)
  deriving DecidableEq

def Refusal.message : Refusal → String
  | .freed object => "object " ++ object.text ++ " has been freed"
  | .missingEdge source target =>
    "object " ++ source.text ++ " holds no reference to " ++ target.text

/-- Why an operation did not succeed. -/
inductive Failure where
  | refused (refusal : Refusal)
  | halted (fault : Fault)
  deriving DecidableEq

/-- Allocates an object without references of its own, which the caller holds. -/
def allocate (h : Heap) : ObjectId × Heap :=
  (⟨h.slots.size⟩, h.push ⟨1, #[]⟩)

/-- Acquires one more reference to an object. -/
def retain (h : Heap) (object : ObjectId) : Except Refusal Heap :=
  match h.refCount? object with
  | none => .error (.freed object)
  | some count => .ok (h.setCount object (count + 1))

/-- Lets go of a reference to an object, and frees what that leaves unreferenced. -/
def release (h : Heap) (object : ObjectId) : Except Failure Freeing :=
  if h.contains object then (h.discard [object]).mapError .halted
  else .error (.refused (.freed object))

/-- The references that an object holds, in the order in which they were added. -/
def references (h : Heap) (object : ObjectId) : Except Refusal (List ObjectId) :=
  match h.get? object with
  | none => .error (.freed object)
  | some o => .ok o.edges.toList

/-- Stores a reference to the target in the source, behind those that it holds. -/
def link (h : Heap) (source target : ObjectId) : Except Refusal Heap :=
  if h.contains source then
    match h.refCount? target with
    | none => .error (.freed target)
    | some count =>
      .ok ((h.setCount target (count + 1)).modify source fun o =>
        { o with edges := o.edges.push target })
  else
    .error (.freed source)

/-- Removes the first reference to the target from the source, and frees what
    that leaves unreferenced. -/
def unlink (h : Heap) (source target : ObjectId) : Except Failure Freeing :=
  match h.get? source with
  | none => .error (.refused (.freed source))
  | some o =>
    if target ∈ o.edges then
      if h.contains target then
        let removed := h.modify source fun o => { o with edges := o.edges.erase target }
        (removed.discard [target]).mapError .halted
      else
        .error (.halted (.danglingEdge target))
    else
      .error (.refused (.missingEdge source target))

def Freeing.records (freeing : Freeing) : List Record :=
  freeing.freed.map .freed

end RefCycle.Heap
