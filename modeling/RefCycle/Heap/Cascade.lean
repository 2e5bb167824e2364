import RefCycle.Fault
import RefCycle.Heap.Basic
/-!
# Freeing by count

When the last reference to an object is dropped, the object is freed, which
drops the references that it holds, and so on. Objects that wait to be freed
lie on a stack; the one whose last reference was dropped most recently is freed
first. All ways of freeing objects end here.

## Main definitions

* `Heap.dropReferences` — drops references, and stacks what that leaves unreferenced.
* `Heap.cascade` — frees what is stacked and everything that is stacked in turn.
* `Heap.discard` — both: drops references and frees what has none left.

## Design notes

A count below the number of references that objects hold is possible, if more
references were released than held. References to a freed object are then
skipped, and a count that would go below zero is a fault.
-/

namespace RefCycle.Heap

/-- Drops one reference to each target, in order. A freed target is skipped; a
    target which is left without references goes on top of the stack `dead`. -/
def dropReferences (h : Heap) (dead : List ObjectId) :
    List ObjectId → Except Fault (Heap × List ObjectId)
  | [] => .ok (h, dead)
  | target :: targets =>
    match h.refCount? target with
    | none => dropReferences h dead targets
    | some 0 => .error (.countUnderflow target)
    | some (count + 1) =>
      dropReferences (h.setCount target count) (if count = 0 then target :: dead else dead) targets

/-- Dropping references frees nothing. -/
theorem contains_dropReferences {h k : Heap} {dead stack targets : List ObjectId}
    (run : h.dropReferences dead targets = .ok (k, stack)) :
    k.slots.size = h.slots.size ∧ ∀ p, k.contains p = h.contains p := by
  fun_induction dropReferences h dead targets with
  | case1 => cases run; exact ⟨rfl, fun _ => rfl⟩
  | case2 _ _ _ _ _ ih => exact ih run
  | case3 => contradiction
  | case4 _ _ _ _ _ _ ih => simpa using ih run

/-- Dropping references keeps the number of live objects. -/
theorem len_dropReferences {h k : Heap} {dead stack targets : List ObjectId}
    (run : h.dropReferences dead targets = .ok (k, stack)) : k.len = h.len :=
  let ⟨size, same⟩ := contains_dropReferences run
  len_congr size same

/-- What is left when objects were freed. -/
structure Freeing where
  heap : Heap
  /-- The freed objects, in the order in which they were freed. -/
  freed : List ObjectId

/-- Frees the objects on the stack `dead`, and every object of which that drops
    the last reference. The objects in `freedRev` were freed before, the latest
    of them first. -/
def cascade (h : Heap) (dead freedRev : List ObjectId) : Except Fault Freeing :=
  match dead with
  | [] => .ok ⟨h, freedRev.reverse⟩
  | object :: rest =>
    match _live : h.get? object with
    | none => cascade h rest freedRev
    | some o =>
      if o.refCount ≠ 0 then .error (.stillCounted object o.refCount)
      else
        match _dropped : (h.erase object).dropReferences rest o.edges.toList with
        | .error fault => .error fault
        | .ok (next, stack) => cascade next stack (object :: freedRev)
termination_by (h.len, dead.length)
decreasing_by
  · exact Prod.Lex.right _ (Nat.lt_succ_self _)
  · exact Prod.Lex.left _ _ (len_dropReferences _dropped ▸ len_erase_lt _live)

/-- Drops one reference to each target, in order, and then frees every object
    that is left without references. -/
def discard (h : Heap) (targets : List ObjectId) : Except Fault Freeing :=
  match h.dropReferences [] targets with
  | .error fault => .error fault
  | .ok (next, dead) => next.cascade dead []

end RefCycle.Heap
