import RefCycle.Heap.Basic
/-!
# The text of a heap

## Main definitions

* `Object.text` — the count of an object and its references, such as `2>5,3`.
* `Heap.text` — all live objects in ascending order, such as `1:1>2 2:2>`.
-/

namespace RefCycle

/-- An object as its count and the raw values of its references. -/
def Object.text (object : Object) : String :=
  toString object.refCount ++ ">" ++
  ",".intercalate (object.edges.toList.map fun edge => toString edge.raw)

/-- A heap as its live objects, each behind its raw value. -/
def Heap.text (h : Heap) : String :=
  " ".intercalate (h.ids.filterMap fun id =>
    (h.get? id).map fun object => toString id.raw ++ ":" ++ object.text)

end RefCycle
