import RefCycle.Identity
/-!
# The reference-counted heap

A heap is a sequence of slots, one for each object that was ever allocated, in
the order of allocation. A slot holds its object until the object is freed and
is never used again, so an identity can always be told from a later one.

## Main definitions

* `RefCycle.Object` — a count of references and the references held.
* `RefCycle.Heap` — the slots.
* `Heap.get?` — the object with an identity, unless it is freed or was never
  allocated. Everything else about a heap is said through this view.
* `Heap.ids`, `Heap.len` — the live objects, in the order of allocation.
* `Heap.push`, `Heap.modify`, `Heap.erase` — the elementary updates.

## Main statements

* `get?_push`, `get?_modify`, `get?_erase` — what the updates do to the view.
* `mem_ids` — the listed objects are the live ones.
* `Heap.ext_get?` — a heap is determined by its size and its view.
-/

namespace RefCycle

/-- An object. Its count is of all references to it, those that mutators hold as
    well as those that objects hold. -/
structure Object where
  refCount : Nat
  /-- The references that the object holds, in the order in which they were added. -/
  edges : Array ObjectId
  deriving DecidableEq

/-- A reference-counted heap. -/
structure Heap where
  /-- The objects by index; the slot of a freed object is empty. -/
  slots : Array (Option Object)
  deriving DecidableEq

/-- A stronger test which some element of a list fails keeps fewer elements. -/
theorem length_filter_lt {α : Type} {p q : α → Bool} (imp : ∀ a, q a → p a) {l : List α} {a : α}
    (mem : a ∈ l) (pos : p a = true) (neg : q a = false) :
    (l.filter q).length < (l.filter p).length := by
  have le : ∀ l : List α, (l.filter q).length ≤ (l.filter p).length := fun l => by
    simpa [List.countP_eq_length_filter] using List.countP_mono_left (l := l) fun a _ => imp a
  induction l with
  | nil => contradiction
  | cons b l ih =>
    rcases List.mem_cons.1 mem with rfl | mem
    · simpa [pos, neg] using Nat.lt_succ_of_le (le l)
    · have := ih mem
      cases hq : q b with
      | true => simp [hq, imp b hq, this]
      | false =>
        rw [List.filter_cons_of_neg (by simp [hq])]
        refine Nat.lt_of_lt_of_le this ?_
        cases hp : p b <;> simp [hp]

namespace Heap

def empty : Heap :=
  ⟨#[]⟩

def get? (h : Heap) (object : ObjectId) : Option Object :=
  h.slots[object.index]?.join

def contains (h : Heap) (object : ObjectId) : Bool :=
  (h.get? object).isSome

def refCount? (h : Heap) (object : ObjectId) : Option Nat :=
  (h.get? object).map Object.refCount

/-- The live objects, in ascending order. -/
def ids (h : Heap) : List ObjectId :=
  ((List.range h.slots.size).map ObjectId.mk).filter h.contains

def len (h : Heap) : Nat :=
  h.ids.length

/-- Gives the next identity to an object. -/
def push (h : Heap) (object : Object) : Heap :=
  ⟨h.slots.push (some object)⟩

/-- Changes a live object; there is nothing to change about any other. -/
def modify (h : Heap) (object : ObjectId) (f : Object → Object) : Heap :=
  ⟨h.slots.modify object.index (Option.map f)⟩

def setCount (h : Heap) (object : ObjectId) (count : Nat) : Heap :=
  h.modify object fun o => { o with refCount := count }

/-- Empties the slot of an object. -/
def erase (h : Heap) (object : ObjectId) : Heap :=
  ⟨h.slots.setIfInBounds object.index none⟩

@[simp] theorem get?_empty (p : ObjectId) : empty.get? p = none := rfl

/-- Live objects lie within the slots. -/
theorem index_lt_of_get? {h : Heap} {p : ObjectId} {o : Object} (hp : h.get? p = some o) :
    p.index < h.slots.size := by
  refine Nat.lt_of_not_le fun hge => ?_
  rw [get?, Array.getElem?_eq_none hge] at hp
  contradiction

theorem get?_push (h : Heap) (o : Object) (p : ObjectId) :
    (h.push o).get? p = if p.index = h.slots.size then some o else h.get? p := by
  simp only [get?, push, Array.getElem?_push]
  split <;> rfl

theorem get?_modify (h : Heap) (object p : ObjectId) (f : Object → Object) :
    (h.modify object f).get? p = if p = object then (h.get? p).map f else h.get? p := by
  have index_eq : object.index = p.index ↔ p = object := by
    cases p; cases object; simp [eq_comm]
  simp only [get?, modify, Array.getElem?_modify, index_eq]
  split
  · cases h.slots[p.index]? with
    | none => rfl
    | some slot => cases slot <;> rfl
  · rfl

theorem get?_setCount (h : Heap) (object p : ObjectId) (count : Nat) :
    (h.setCount object count).get? p =
      if p = object then (h.get? p).map ({ · with refCount := count }) else h.get? p :=
  get?_modify h object p _

theorem get?_erase (h : Heap) (object p : ObjectId) :
    (h.erase object).get? p = if p = object then none else h.get? p := by
  have index_eq : object.index = p.index ↔ p = object := by
    cases p; cases object; simp [eq_comm]
  simp only [get?, erase, Array.getElem?_setIfInBounds, index_eq]
  split
  · split <;> rfl
  · rfl

@[simp] theorem size_slots_push (h : Heap) (o : Object) :
    (h.push o).slots.size = h.slots.size + 1 := by
  simp [push]

@[simp] theorem size_slots_modify (h : Heap) (object : ObjectId) (f : Object → Object) :
    (h.modify object f).slots.size = h.slots.size := by
  simp [modify]

@[simp] theorem size_slots_setCount (h : Heap) (object : ObjectId) (count : Nat) :
    (h.setCount object count).slots.size = h.slots.size :=
  size_slots_modify h object _

@[simp] theorem size_slots_erase (h : Heap) (object : ObjectId) :
    (h.erase object).slots.size = h.slots.size := by
  simp [erase]

theorem contains_iff {h : Heap} {p : ObjectId} : h.contains p ↔ ∃ o, h.get? p = some o := by
  simp [contains, Option.isSome_iff_exists]

/-- Changing an object does not change which objects are live. -/
@[simp] theorem contains_setCount (h : Heap) (object p : ObjectId) (count : Nat) :
    (h.setCount object count).contains p = h.contains p := by
  simp only [contains, get?_setCount]
  split <;> simp

/-- The listed objects are the live ones. -/
theorem mem_ids {h : Heap} {p : ObjectId} : p ∈ h.ids ↔ h.contains p := by
  simp only [ids, List.mem_filter, List.mem_map, List.mem_range, and_iff_right_iff_imp]
  intro hp
  obtain ⟨o, ho⟩ := contains_iff.1 hp
  exact ⟨p.index, index_lt_of_get? ho, rfl⟩

/-- The number of live objects depends only on which objects are live. -/
theorem len_congr {h k : Heap} (size : h.slots.size = k.slots.size)
    (same : ∀ p, h.contains p = k.contains p) : h.len = k.len := by
  rw [len, len, ids, ids, size, funext same]

/-- Erasing a live object leaves fewer of them. -/
theorem len_erase_lt {h : Heap} {object : ObjectId} {o : Object} (live : h.get? object = some o) :
    (h.erase object).len < h.len := by
  rw [len, len, ids, ids, size_slots_erase]
  refine length_filter_lt (fun p hp => ?_) (a := object) ?_ ?_ ?_
  · simp only [contains, get?_erase] at hp ⊢
    split at hp
    · contradiction
    · exact hp
  · exact List.mem_map.2 ⟨_, List.mem_range.2 (index_lt_of_get? live), rfl⟩
  · simp [contains, live]
  · simp [contains, get?_erase]

/-- A heap is determined by the number of its slots and by its live objects. -/
theorem ext_get? {h k : Heap} (size : h.slots.size = k.slots.size)
    (same : ∀ p, h.get? p = k.get? p) : h = k := by
  obtain ⟨hs⟩ := h
  obtain ⟨ks⟩ := k
  congr 1
  refine Array.ext size fun i hi hk => ?_
  simpa [get?, hi, hk] using same ⟨i⟩

end Heap

end RefCycle
