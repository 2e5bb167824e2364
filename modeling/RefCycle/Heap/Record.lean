import RefCycle.Identity
/-!
# Log records of a heap

## Main definitions

* `Heap.Record` — what a heap reports about its work.
* `Heap.Record.text` — the wording of a record.
* `Heap.Record.freed?` — the object that a record reports as freed.
-/

namespace RefCycle.Heap

/-- An event that a heap reports, always at the most detailed level. -/
inductive Record where
  | allocated (object : ObjectId)
  /-- An object was freed because its last reference was dropped. -/
  | freed (object : ObjectId)
  /-- An object was freed as a member of a group which only held itself. -/
  | freedCyclic (object : ObjectId)
  /-- The detector found so many candidates among so many live objects. -/
  | detected (candidates objects : Nat)
  /-- So many members of a group were kept because they are held from outside. -/
  | stillReferenced (members : Nat)
  deriving DecidableEq

def Record.text : Record → String
  | .allocated object => "allocated " ++ object.text
  | .freed object => "freed " ++ object.text
  | .freedCyclic object => "freed cyclic " ++ object.text
  | .detected candidates objects =>
    "detector found " ++ toString candidates ++ " candidate(s) among " ++ toString objects ++
    " object(s)"
  | .stillReferenced members =>
    toString members ++ " group member(s) are still referenced from outside the group"

def Record.freed? : Record → Option ObjectId
  | .freed object | .freedCyclic object => some object
  | .allocated _ | .detected _ _ | .stillReferenced _ => none

end RefCycle.Heap
