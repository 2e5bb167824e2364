import RefCycle.Heap.Mutation
import RefCycle.Proofs.Heap.InDegree
/-!
# Balanced heaps

The books of a heap are in order if each count is the number of references to
the object: those held from outside, those that objects hold, and, while objects
are being freed, those that are still due to be dropped. Freeing takes its
targets off what is due and ends with balanced books, whatever the graph.

## Main definitions

* `Heap.Balanced` — counts are right up to references that are due to be dropped.
* `Heap.Unreferenced` — a list of the live objects whose counts are zero.

## Main statements

* `dropReferences_balanced`, `cascade_balanced`, `discard_balanced` — freeing
  from a balanced heap meets no fault and leaves a balanced heap.
-/

namespace RefCycle.Heap

variable {h : Heap} {held : ObjectId → Nat} {p source target : ObjectId}

/-- Counts are right: the references held from outside, those which are due to be
    dropped and those that objects hold. Nothing refers to a freed object, except
    that references to it may be due. -/
structure Balanced (h : Heap) (held : ObjectId → Nat) (due : List ObjectId) : Prop where
  counted : ∀ p count, h.refCount? p = some count → count = held p + due.count p + h.inDegree p
  live : ∀ p, 0 < held p + h.inDegree p → h.contains p

/-- The live objects whose counts are zero are those in a list, each of them once. -/
structure Unreferenced (h : Heap) (dead : List ObjectId) : Prop where
  nodup : dead.Nodup
  mem_iff : ∀ p, p ∈ dead ↔ h.refCount? p = some 0

theorem refCount?_eq_none_iff : h.refCount? p = none ↔ ¬h.contains p := by
  simp [refCount?, contains]

theorem isSome_refCount?_iff : (h.refCount? p).isSome ↔ h.contains p := by
  simp [refCount?, contains]

theorem contains_of_refCount? {count : Nat} (hp : h.refCount? p = some count) : h.contains p := by
  by_contra dead
  rw [refCount?_eq_none_iff.2 dead] at hp
  contradiction

theorem refCount?_of_get? {o : Object} (live : h.get? p = some o) :
    h.refCount? p = some o.refCount := by
  simp [refCount?, live]

theorem exists_refCount? (live : h.contains p) : ∃ count, h.refCount? p = some count :=
  Option.isSome_iff_exists.1 (isSome_refCount?_iff.2 live)

theorem refCount?_push (o : Object) :
    (h.push o).refCount? p = if p.index = h.slots.size then some o.refCount else h.refCount? p := by
  by_cases new : p.index = h.slots.size <;> simp [refCount?, get?_push, new]

theorem refCount?_setCount (count : Nat) :
    (h.setCount target count).refCount? p =
      if p = target then (h.refCount? p).map fun _ => count else h.refCount? p := by
  by_cases same : p = target
  · rw [refCount?, refCount?, get?_setCount, if_pos same, if_pos same]
    cases h.get? p <;> rfl
  · simp [refCount?, get?_setCount, same]

theorem refCount?_modify {f : Object → Object} (keeps : ∀ o, (f o).refCount = o.refCount) :
    (h.modify source f).refCount? p = h.refCount? p := by
  by_cases same : p = source
  · rw [refCount?, refCount?, get?_modify, if_pos same]
    cases h.get? p with
    | none => rfl
    | some o => exact congrArg some (keeps o)
  · simp [refCount?, get?_modify, same]

theorem refCount?_erase :
    (h.erase source).refCount? p = if p = source then none else h.refCount? p := by
  by_cases same : p = source <;> simp [refCount?, get?_erase, same]

/-- References to a freed object need not be dropped. -/
theorem Balanced.skip {due : List ObjectId} (balanced : h.Balanced held (target :: due))
    (gone : h.refCount? target = none) : h.Balanced held due := by
  refine ⟨fun p count hp => ?_, balanced.live⟩
  have other : target ≠ p := by
    rintro rfl
    rw [gone] at hp
    contradiction
  have law := balanced.counted p count hp
  rwa [List.count_cons_of_ne other] at law

/-- Lowering the count of a target by one takes it off what is due. -/
theorem Balanced.drop {due : List ObjectId} {count : Nat}
    (balanced : h.Balanced held (target :: due)) (here : h.refCount? target = some (count + 1)) :
    (h.setCount target count).Balanced held due := by
  constructor
  · intro p n hp
    rw [refCount?_setCount] at hp
    rw [inDegree_setCount]
    by_cases same : p = target
    · subst same
      have law := balanced.counted p _ here
      rw [if_pos rfl, here] at hp
      have eq : count = n := Option.some.inj hp
      rw [List.count_cons_self] at law
      omega
    · rw [if_neg same] at hp
      have law := balanced.counted p n hp
      rwa [List.count_cons_of_ne (Ne.symm same)] at law
  · intro p hp
    rw [inDegree_setCount] at hp
    rw [contains_setCount]
    exact balanced.live p hp

/-- A count that becomes zero puts its object on the list, any other leaves the list. -/
theorem Unreferenced.drop {dead : List ObjectId} {count : Nat} (zeros : h.Unreferenced dead)
    (here : h.refCount? target = some (count + 1)) :
    (h.setCount target count).Unreferenced (if count = 0 then target :: dead else dead) := by
  have new : target ∉ dead := fun mem => by
    rw [(zeros.mem_iff target).1 mem] at here
    simp at here
  constructor
  · split
    · exact List.nodup_cons.2 ⟨new, zeros.nodup⟩
    · exact zeros.nodup
  · intro p
    rw [refCount?_setCount]
    by_cases same : p = target
    · subst same
      by_cases zero : count = 0 <;> simp [here, zero, new]
    · by_cases zero : count = 0 <;> simp [zeros.mem_iff, zero, same]

theorem Unreferenced.count_ne_zero {count : Nat} (zeros : h.Unreferenced [])
    (here : h.refCount? p = some count) : count ≠ 0 := by
  rintro rfl
  exact List.not_mem_nil ((zeros.mem_iff p).2 here)

/-- What is stacked is live: a count goes to zero once, and its object is freed after that. -/
theorem Unreferenced.get?_ne_none {dead : List ObjectId}
    (zeros : h.Unreferenced (source :: dead)) : h.get? source ≠ none := by
  intro gone
  have here := (zeros.mem_iff source).1 List.mem_cons_self
  rw [refCount?, gone] at here
  contradiction

/-- Dropping what is due from a balanced heap meets no fault and settles the books. -/
theorem dropReferences_balanced {dead due : List ObjectId} (balanced : h.Balanced held due)
    (zeros : h.Unreferenced dead) :
    ∃ k stack, h.dropReferences dead due = .ok (k, stack) ∧ k.Balanced held [] ∧
      k.Unreferenced stack := by
  fun_induction dropReferences h dead due with
  | case1 h dead => exact ⟨h, dead, rfl, balanced, zeros⟩
  | case2 h dead target due gone ih => exact ih (balanced.skip gone) zeros
  | case3 h dead target due here =>
    -- A reference that is due is counted, so the count is not zero.
    have law := balanced.counted target 0 here
    rw [List.count_cons_self] at law
    omega
  | case4 h dead target due count here ih => exact ih (balanced.drop here) (zeros.drop here)

/-- An object without references can be erased; what it refers to is then due. -/
theorem Balanced.erase {o : Object} (balanced : h.Balanced held [])
    (here : h.get? source = some o) (zero : o.refCount = 0) :
    (h.erase source).Balanced held o.edges.toList := by
  have unheld : held source + h.inDegree source = 0 := by
    have law := balanced.counted source _ (refCount?_of_get? here)
    simp only [List.count_nil] at law
    omega
  have degree := h.inDegree_erase source
  rw [edges_of_get? here] at degree
  constructor
  · intro p count hp
    rw [refCount?_erase] at hp
    split at hp
    · contradiction
    · have law := balanced.counted p count hp
      have := degree p
      simp only [List.count_nil] at law
      omega
  · intro p hp
    have := degree p
    have other : p ≠ source := by
      rintro rfl
      omega
    exact contains_erase.2 ⟨other, balanced.live p (by omega)⟩

/-- An object which is erased comes off the list. -/
theorem Unreferenced.erase {dead : List ObjectId} (zeros : h.Unreferenced (source :: dead)) :
    (h.erase source).Unreferenced dead := by
  obtain ⟨new, nodup⟩ := List.nodup_cons.1 zeros.nodup
  refine ⟨nodup, ?_⟩
  intro p
  rw [refCount?_erase]
  by_cases same : p = source
  · simp [same, new]
  · rw [if_neg same, ← zeros.mem_iff, List.mem_cons]
    exact ⟨.inr, fun mem => mem.resolve_left same⟩

/-- Freeing from a balanced heap meets no fault, and leaves a balanced heap in
    which every object has a reference. -/
theorem cascade_balanced {dead : List ObjectId} (balanced : h.Balanced held [])
    (zeros : h.Unreferenced dead) (freedRev : List ObjectId) :
    ∃ freeing, h.cascade dead freedRev = .ok freeing ∧ freeing.heap.Balanced held [] ∧
      freeing.heap.Unreferenced [] := by
  fun_induction cascade h dead freedRev with
  | case1 h freedRev => exact ⟨_, rfl, balanced, zeros⟩
  | case2 h freedRev object rest gone ih => exact absurd gone zeros.get?_ne_none
  | case3 h freedRev object rest o live counted =>
    -- What is stacked has no references left.
    have here := (zeros.mem_iff object).1 List.mem_cons_self
    rw [refCount?_of_get? live] at here
    exact absurd (Option.some.inj here) counted
  | case4 h freedRev object rest o live zero fault dropped =>
    obtain ⟨k, stack, ok, -, -⟩ :=
      dropReferences_balanced (balanced.erase live (by simpa using zero)) zeros.erase
    rw [ok] at dropped
    contradiction
  | case5 h freedRev object rest o live zero next stack dropped ih =>
    -- Between two objects nothing is due, which is the invariant of the loop.
    obtain ⟨k, stack', ok, settled, zeros'⟩ :=
      dropReferences_balanced (balanced.erase live (by simpa using zero)) zeros.erase
    rw [ok] at dropped
    cases dropped
    exact ih settled zeros'

/-- Dropping what is due and freeing what that leaves unreferenced keeps the books. -/
theorem discard_balanced {due : List ObjectId} (balanced : h.Balanced held due)
    (zeros : h.Unreferenced []) :
    ∃ freeing, h.discard due = .ok freeing ∧ freeing.heap.Balanced held [] ∧
      freeing.heap.Unreferenced [] := by
  obtain ⟨k, stack, ok, settled, zeros'⟩ := dropReferences_balanced balanced zeros
  obtain ⟨freeing, done, result⟩ := cascade_balanced settled zeros' []
  refine ⟨freeing, ?_, result⟩
  rw [discard, ok]
  exact done

end RefCycle.Heap
