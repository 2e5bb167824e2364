import Mathlib.Algebra.BigOperators.Group.Finset.Basic
import Mathlib.Algebra.Order.BigOperators.Group.Finset
import RefCycle.Heap.Garbage
/-!
# In-degrees under updates of a heap

An in-degree is a sum over all objects of the references that each holds. The
elementary updates of a heap change the references of at most one object, so
what they do to in-degrees is one law, `inDegree_add_count`, with its instances.
-/

namespace RefCycle.Heap

variable {h k : Heap} {p q source target : ObjectId}

theorem edges_of_get? {o : Object} (live : h.get? p = some o) : h.edges p = o.edges.toList := by
  simp [edges, live]

theorem edges_of_not_contains (dead : ¬h.contains p) : h.edges p = [] := by
  have gone : h.get? p = none := by simpa [contains] using dead
  simp [edges, gone]

theorem contains_of_mem_edges (refers : q ∈ h.edges p) : h.contains p := by
  by_contra dead
  rw [edges_of_not_contains dead] at refers
  contradiction

@[simp] theorem contains_push (o : Object) :
    (h.push o).contains p ↔ p.index = h.slots.size ∨ h.contains p := by
  by_cases new : p.index = h.slots.size <;> simp [contains, get?_push, new]

@[simp] theorem contains_modify (f : Object → Object) :
    (h.modify source f).contains p = h.contains p := by
  simp only [contains, get?_modify]
  split <;> simp

@[simp] theorem contains_erase : (h.erase source).contains p ↔ p ≠ source ∧ h.contains p := by
  by_cases same : p = source <;> simp [contains, get?_erase, same]

theorem edges_push (o : Object) :
    (h.push o).edges p = if p.index = h.slots.size then o.edges.toList else h.edges p := by
  by_cases new : p.index = h.slots.size <;> simp [edges, get?_push, new]

@[simp] theorem edges_setCount (count : Nat) : (h.setCount target count).edges p = h.edges p := by
  by_cases same : p = target
  · rw [edges, edges, get?_setCount, if_pos same]
    cases h.get? p <;> rfl
  · simp [edges, get?_setCount, same]

theorem edges_modify_of_ne (f : Object → Object) (other : p ≠ source) :
    (h.modify source f).edges p = h.edges p := by
  simp [edges, get?_modify, other]

theorem edges_erase : (h.erase source).edges p = if p = source then [] else h.edges p := by
  by_cases same : p = source <;> simp [edges, get?_erase, same]

/-- An in-degree as a sum over all slots: empty slots add nothing to it. -/
theorem inDegree_eq_sum (h : Heap) (p : ObjectId) :
    h.inDegree p = ∑ i ∈ Finset.range h.slots.size, (h.edges ⟨i⟩).count p := by
  have skip : ∀ l : List ObjectId, ((l.filter h.contains).map fun q => (h.edges q).count p).sum =
      (l.map fun q => (h.edges q).count p).sum := by
    intro l
    induction l with
    | nil => rfl
    | cons q l ih =>
      by_cases live : h.contains q
      · simp [live, ih]
      · simp [live, ih, edges_of_not_contains live]
  rw [inDegree, ← List.sum_eq_foldr, ids, skip, List.map_map]
  rfl

theorem inDegree_congr (size : k.slots.size = h.slots.size) (same : ∀ q, k.edges q = h.edges q)
    (p : ObjectId) : k.inDegree p = h.inDegree p := by
  simp only [inDegree_eq_sum, size, same]

theorem inDegree_le (size : k.slots.size = h.slots.size)
    (fewer : ∀ q, (k.edges q).count p ≤ (h.edges q).count p) : k.inDegree p ≤ h.inDegree p := by
  rw [inDegree_eq_sum, inDegree_eq_sum, size]
  exact Finset.sum_le_sum fun i _ => fewer ⟨i⟩

/-- If two heaps differ in the references of one object only, then their
    in-degrees differ by what that object adds. -/
theorem inDegree_add_count (size : k.slots.size = h.slots.size)
    (same : ∀ q, q ≠ source → k.edges q = h.edges q) (p : ObjectId) :
    k.inDegree p + (h.edges source).count p = h.inDegree p + (k.edges source).count p := by
  by_cases inside : source.index < h.slots.size
  · -- The sums differ in one term.
    have mem : source.index ∈ Finset.range h.slots.size := Finset.mem_range.2 inside
    have rest : ∑ i ∈ (Finset.range h.slots.size).erase source.index, (k.edges ⟨i⟩).count p =
        ∑ i ∈ (Finset.range h.slots.size).erase source.index, (h.edges ⟨i⟩).count p := by
      apply Finset.sum_congr rfl
      intro i hi
      rw [same ⟨i⟩ fun eq => Finset.ne_of_mem_erase hi (congrArg ObjectId.index eq)]
    rw [inDegree_eq_sum, inDegree_eq_sum, size, ← Finset.add_sum_erase _ _ mem,
      ← Finset.add_sum_erase _ _ mem, rest]
    show (k.edges source).count p + _ + _ = (h.edges source).count p + _ + _
    omega
  · -- Without a slot the object holds nothing in either heap.
    have outside : ∀ l : Heap, l.slots.size = h.slots.size → l.edges source = [] := by
      intro l hl
      refine edges_of_not_contains fun live => inside ?_
      obtain ⟨o, ho⟩ := contains_iff.1 live
      exact hl ▸ index_lt_of_get? ho
    have all : ∀ q, k.edges q = h.edges q := by
      intro q
      by_cases eq : q = source
      · rw [eq, outside k size, outside h rfl]
      · exact same q eq
    rw [inDegree_congr size all, outside k size, outside h rfl]

@[simp] theorem inDegree_setCount (count : Nat) :
    (h.setCount target count).inDegree p = h.inDegree p :=
  inDegree_congr (size_slots_setCount h target count) (fun _ => edges_setCount count) p

/-- Erasing an object takes away what its references added. -/
theorem inDegree_erase (h : Heap) (source p : ObjectId) :
    (h.erase source).inDegree p + (h.edges source).count p = h.inDegree p := by
  have law := inDegree_add_count (size_slots_erase h source)
    (fun q other => by rw [edges_erase, if_neg other]) p
  simpa [edges_erase] using law

/-- A new object adds its references. -/
theorem inDegree_push (h : Heap) (o : Object) (p : ObjectId) :
    (h.push o).inDegree p = h.inDegree p + o.edges.toList.count p := by
  have old : ∀ i ∈ Finset.range h.slots.size, ((h.push o).edges ⟨i⟩).count p =
      (h.edges ⟨i⟩).count p := by
    intro i hi
    rw [edges_push, if_neg (Nat.ne_of_lt (Finset.mem_range.1 hi))]
  rw [inDegree_eq_sum, inDegree_eq_sum, size_slots_push, Finset.sum_range_succ,
    Finset.sum_congr rfl old, edges_push, if_pos rfl]

/-- An object counts for an in-degree if some object refers to it. -/
theorem inDegree_pos_iff : 0 < h.inDegree p ↔ ∃ q, p ∈ h.edges q := by
  rw [inDegree_eq_sum, Finset.sum_pos_iff]
  constructor
  · rintro ⟨i, -, hi⟩
    exact ⟨⟨i⟩, List.count_pos_iff.1 hi⟩
  · rintro ⟨q, refers⟩
    obtain ⟨o, ho⟩ := contains_iff.1 (contains_of_mem_edges refers)
    exact ⟨q.index, Finset.mem_range.2 (index_lt_of_get? ho), List.count_pos_iff.2 refers⟩

end RefCycle.Heap
