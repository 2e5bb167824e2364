import RefCycle.Heap.Garbage
/-!
# Reachability in a heap

What it means that an object can be reached, said without reference to how the
detector looks for it.

## Main definitions

* `Heap.Reachable` — following references between live objects from given roots.
* `Heap.Anchored` — more references are counted than live objects hold.
* `Heap.Leads`, `Heap.OnCycle` — paths and cycles of references among given objects.

## Main statements

* `Reachable.contains`, `Reachable.mono` — reachable objects are live, and more
  roots reach more.
* `isHeld_iff_anchored_of_tally` — with a correct tally, the test that the
  detector makes is `Anchored`.
-/

namespace RefCycle.Heap

/-- An object can be reached from live roots along references between live objects. -/
inductive Reachable (h : Heap) (roots : ObjectId → Prop) : ObjectId → Prop where
  | root {p : ObjectId} (live : h.contains p) (isRoot : roots p) : Reachable h roots p
  | edge {p q : ObjectId} (source : Reachable h roots p) (refers : q ∈ h.edges p)
      (live : h.contains q) : Reachable h roots q

/-- Some reference to a live object is held by no live object. -/
def Anchored (h : Heap) (p : ObjectId) : Prop :=
  ∃ count, h.refCount? p = some count ∧ h.inDegree p < count

/-- One or more references between objects in a set lead from an object to another. -/
inductive Leads (h : Heap) (among : ObjectId → Prop) : ObjectId → ObjectId → Prop where
  | single {p q : ObjectId} (source : among p) (target : among q) (refers : q ∈ h.edges p) :
      Leads h among p q
  | tail {p q r : ObjectId} (start : Leads h among p q) (target : among r)
      (refers : r ∈ h.edges q) : Leads h among p r

/-- An object lies on a cycle of references between objects in a set. -/
def OnCycle (h : Heap) (among : ObjectId → Prop) (p : ObjectId) : Prop :=
  h.Leads among p p

/-- Reachable objects are live. -/
theorem Reachable.contains {h : Heap} {roots : ObjectId → Prop} {p : ObjectId}
    (reach : h.Reachable roots p) : h.contains p := by
  cases reach with
  | root live => exact live
  | edge _ _ live => exact live

/-- More roots reach more objects. -/
theorem Reachable.mono {h : Heap} {roots more : ObjectId → Prop} {p : ObjectId}
    (reach : h.Reachable roots p) (sub : ∀ q, roots q → more q) : h.Reachable more p := by
  induction reach with
  | root live isRoot => exact .root live (sub _ isRoot)
  | edge _ refers live ih => exact .edge ih refers live

/-- With a correct tally, an object is held exactly if it is anchored. -/
theorem isHeld_iff_anchored_of_tally {h : Heap} {tally : Array Nat} {p : ObjectId}
    (correct : tally[p.index]?.getD 0 = h.inDegree p) : h.isHeld tally p ↔ h.Anchored p := by
  simp only [isHeld, Anchored, correct, decide_eq_true_eq]
  cases h.refCount? p with
  | none => simp
  | some count => simp

end RefCycle.Heap
