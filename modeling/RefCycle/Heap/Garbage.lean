import RefCycle.Heap.Basic
import RefCycle.ObjectSet
/-!
# Garbage

An object of which more references are counted than objects hold is held from
outside the heap. Whatever cannot be reached from such objects along references
is garbage, even though references among it may keep its counts up for ever.

## Main definitions

* `Heap.inDegree` — how many references live objects hold to an object.
* `Heap.isHeld` — whether an object is held from outside.
* `Heap.spread` — everything that can be reached from a list of objects.
* `Heap.garbage`, `Heap.detectCycles` — the live objects that cannot be reached
  from a held one.

## Design notes

In-degrees are tallied for all objects in one pass over the references, and a
tally may be larger than the count if references were released that nobody
held; such an object does not count as held.
-/

namespace RefCycle.Heap

/-- The references that a live object holds; none for any other. -/
def edges (h : Heap) (object : ObjectId) : List ObjectId :=
  match h.get? object with
  | none => []
  | some o => o.edges.toList

/-- How many references the live objects hold to an object. -/
def inDegree (h : Heap) (target : ObjectId) : Nat :=
  (h.ids.map fun object => (h.edges object).count target).foldr (· + ·) 0

/-- The in-degrees of all objects, by index. -/
def tally (h : Heap) : Array Nat :=
  h.ids.foldl (fun counts object =>
    (h.edges object).foldl (fun counts target => counts.modify target.index (· + 1)) counts)
    (Array.replicate h.slots.size 0)

/-- Whether more references to an object are counted than a tally has of it. -/
def isHeld (h : Heap) (tally : Array Nat) (object : ObjectId) : Bool :=
  (tally[object.index]?.getD 0) < (h.refCount? object).getD 0

/-- The live objects which are not in a set. -/
def idsOutside (h : Heap) (seen : ObjectSet) : List ObjectId :=
  h.ids.filter (· ∉ seen)

/-- Adding a live object to a set leaves fewer objects outside. -/
theorem length_idsOutside_insert_lt {h : Heap} {seen : ObjectSet} {object : ObjectId} {o : Object}
    (live : h.get? object = some o) (new : object ∉ seen) :
    (h.idsOutside (seen.insert object)).length < (h.idsOutside seen).length := by
  refine length_filter_lt (fun p hp => ?_) (mem_ids.2 (contains_iff.2 ⟨o, live⟩)) ?_ ?_
  · simp only [ObjectSet.mem_insert, decide_eq_true_eq] at hp ⊢
    exact fun mem => hp (.inr mem)
  · simpa using new
  · simp

/-- The set `seen` with every live object that can be reached from the objects on
    the stack without passing through `seen`. -/
def spread (h : Heap) (seen : ObjectSet) (stack : List ObjectId) : ObjectSet :=
  match stack with
  | [] => seen
  | object :: rest =>
    if _new : object ∈ seen then spread h seen rest
    else
      match _live : h.get? object with
      | none => spread h seen rest
      | some o => spread h (seen.insert object) (o.edges.toList ++ rest)
termination_by ((h.idsOutside seen).length, stack.length)
decreasing_by
  · exact Prod.Lex.right _ (Nat.lt_succ_self _)
  · exact Prod.Lex.right _ (Nat.lt_succ_self _)
  · exact Prod.Lex.left _ _ (length_idsOutside_insert_lt _live _new)

/-- The live objects that are held from outside the heap. -/
def held (h : Heap) : List ObjectId :=
  h.ids.filter (h.isHeld h.tally)

/-- The live objects that cannot be reached from a held one, in ascending order. -/
def garbage (h : Heap) : List ObjectId :=
  h.idsOutside (h.spread (.empty h.slots.size) h.held)

/-- The garbage of a heap, if there is any. -/
def detectCycles (h : Heap) : Option (List ObjectId) :=
  match h.garbage with
  | [] => none
  | object :: objects => some (object :: objects)

end RefCycle.Heap
