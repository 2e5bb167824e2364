import RefCycle.Identity
/-!
# Orders of a visit

Where all objects of a set are visited, the order is left to the way in which the set is
stored. Nothing is assumed about it, except that each object is visited once.

## Main definitions

* `RefCycle.VisitOrder` — how the objects of every set are visited.
* `VisitOrder.ascending`, `VisitOrder.descending` — the oldest object comes first, or last.

## Main statements

* `VisitOrder.mem_visit`, `VisitOrder.nodup_visit` — a visit has the objects of the set.
* `VisitOrder.exists_visit_eq` — to visit the objects one after another is to have an order.

## Design notes

An order is a class, so that operations need not hand it on. It fixes one visit for each
set. That leaves nothing out, as no set is ever erased twice: its objects do not come back.
Where calls follow no rules, each of them may still have an order of its own.
-/

namespace RefCycle

/-- In which order the objects of a set are visited. -/
class VisitOrder where
  /-- The objects of a set, of which the ascending list is given, as they are visited. -/
  visit : List ObjectId → List ObjectId
  visit_perm : ∀ objects, (visit objects).Perm objects

namespace VisitOrder

@[reducible]
def ascending : VisitOrder where
  visit objects := objects
  visit_perm := List.Perm.refl

@[reducible]
def descending : VisitOrder where
  visit := List.reverse
  visit_perm := List.reverse_perm

variable [VisitOrder] {objects : List ObjectId} {p : ObjectId}

@[simp]
theorem mem_visit : p ∈ visit objects ↔ p ∈ objects :=
  (visit_perm objects).mem_iff

theorem nodup_visit (nodup : objects.Nodup) : (visit objects).Nodup :=
  (visit_perm objects).symm.nodup nodup

omit [VisitOrder] in
/-- Whichever way the objects of a set are visited, there is an order that does so. -/
theorem exists_visit_eq {visited : List ObjectId} (perm : visited.Perm objects) :
    ∃ order : VisitOrder, @visit order objects = visited := by
  refine ⟨⟨fun others => if others = objects then visited else others, fun others => ?_⟩, ?_⟩
  · split
    · rename_i same
      exact same ▸ perm
    · exact .refl others
  · exact if_pos rfl

end VisitOrder

end RefCycle
