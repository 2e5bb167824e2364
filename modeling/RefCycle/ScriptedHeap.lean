import RefCycle.Reclaimable
/-!
# A heap that answers from a script

For trying out a collector, a heap without objects: what it answers is set from
outside. Releasing a group makes it forget the counts of the members.

## Main definitions

* `RefCycle.ScriptedHeap` — the answers.
* `ScriptedHeap.setCount` — a new answer about the count of an object.
* The instance of `RefCycle.Reclaimable`.
-/

namespace RefCycle

/-- The answers that a heap gives. -/
structure ScriptedHeap where
  candidates : Option (List ObjectId)
  counts : List (ObjectId × Nat)
  /-- How many objects a release reclaims; the length of the group if not given. -/
  result : Option Nat

namespace ScriptedHeap

/-- The heap that finds nothing and knows no object. -/
def empty : ScriptedHeap :=
  ⟨none, [], none⟩

def forget (s : ScriptedHeap) (object : ObjectId) : ScriptedHeap :=
  { s with counts := s.counts.filter fun entry => entry.1 ≠ object }

/-- Sets the count of an object, or forgets it. -/
def setCount (s : ScriptedHeap) (object : ObjectId) : Option Nat → ScriptedHeap
  | none => s.forget object
  | some count => { s with counts := (object, count) :: (s.forget object).counts }

def refCount? (s : ScriptedHeap) (object : ObjectId) : Option Nat :=
  s.counts.lookup object

instance : Reclaimable ScriptedHeap where
  detect s := ⟨s.candidates, []⟩
  refCount? := refCount?
  releaseGroup s group :=
    .ok ⟨group.foldl forget s, s.result.getD group.length, []⟩

end ScriptedHeap

end RefCycle
