import RefCycle.Identity
/-!
# Sets of objects

A finite set of objects, as a row of marks by index.

## Main definitions

* `RefCycle.ObjectSet` — the marks; `p ∈ s` is decidable.
* `ObjectSet.insert`, `ObjectSet.ofList` — building sets.

## Main statements

* `mem_insert`, `mem_ofList` — what the built sets contain.
-/

namespace RefCycle

/-- A finite set of objects. -/
structure ObjectSet where
  /-- Whether an object is in the set, by its index; false beyond the end. -/
  marks : Array Bool

namespace ObjectSet

/-- The set without elements, with room for objects below an index. -/
def empty (room : Nat) : ObjectSet :=
  ⟨Array.replicate room false⟩

def mark (s : ObjectSet) (p : ObjectId) : Bool :=
  s.marks[p.index]?.getD false

instance : Membership ObjectId ObjectSet where
  mem s p := s.mark p = true

instance (p : ObjectId) (s : ObjectSet) : Decidable (p ∈ s) :=
  inferInstanceAs (Decidable (s.mark p = true))

/-- Adds an object; marks are added as far as they are needed. -/
def insert (s : ObjectSet) (p : ObjectId) : ObjectSet :=
  if p.index < s.marks.size then
    ⟨s.marks.setIfInBounds p.index true⟩
  else
    ⟨(s.marks ++ Array.replicate (p.index - s.marks.size) false).push true⟩

def ofList (room : Nat) (objects : List ObjectId) : ObjectSet :=
  objects.foldl insert (empty room)

theorem mem_def {p : ObjectId} {s : ObjectSet} : p ∈ s ↔ s.mark p = true := Iff.rfl

@[simp] theorem not_mem_empty (p : ObjectId) (room : Nat) : p ∉ empty room := by
  simp only [mem_def, mark, empty, Array.getElem?_replicate]
  split <;> simp

@[simp] theorem mem_insert {s : ObjectSet} {p q : ObjectId} : q ∈ s.insert p ↔ q = p ∨ q ∈ s := by
  have index_eq : q = p ↔ q.index = p.index := by
    cases p; cases q; simp
  rw [index_eq]
  simp only [mem_def, mark, insert]
  split
  · rename_i inside
    rw [Array.getElem?_setIfInBounds]
    by_cases same : q.index = p.index
    · simp [same, inside]
    · simp [same, Ne.symm same]
  · rename_i outside
    have size : (s.marks ++ Array.replicate (p.index - s.marks.size) false).size = p.index := by
      rw [Array.size_append, Array.size_replicate]
      omega
    rw [Array.getElem?_push, size]
    by_cases same : q.index = p.index
    · simp [same]
    · rw [if_neg same, Array.getElem?_append]
      split
      · simp [same]
      · rename_i beyond
        rw [Array.getElem?_replicate, Array.getElem?_eq_none (Nat.le_of_not_lt beyond)]
        split <;> simp [same]

theorem mem_ofList {room : Nat} {objects : List ObjectId} {p : ObjectId} :
    p ∈ ofList room objects ↔ p ∈ objects := by
  have general : ∀ (objects : List ObjectId) (s : ObjectSet),
      p ∈ objects.foldl insert s ↔ p ∈ s ∨ p ∈ objects := by
    intro objects
    induction objects with
    | nil => simp
    | cons q objects ih =>
      intro s
      rw [List.foldl_cons, ih, mem_insert, List.mem_cons, or_assoc, or_left_comm]
  simp [ofList, general]

end ObjectSet

end RefCycle
