import RefCycle.Proofs.Heap.Balance
import RefCycle.Proofs.Heap.Survival
/-!
# The books under mutators

Each operation of a mutator changes the counts and the references by the same
amount, so it keeps the books of a heap. A reference is let go of in two steps:
it becomes due, and then what is due is dropped.

## Main statements

* `allocate_balanced`, `retain_balanced`, `link_balanced` — acquiring references.
* `release_balanced`, `unlink_balanced` — letting go of references; these meet
  no fault, whatever is freed by them.
-/

namespace RefCycle.Heap

variable {h : Heap} {held : ObjectId → Nat} {p source target object : ObjectId}

theorem mapError_eq_ok_iff {ε η α : Type} {f : ε → η} {x : Except ε α} {a : α} :
    x.mapError f = .ok a ↔ x = .ok a := by
  cases x <;> simp [Except.mapError]

theorem not_contains_of_size_le (outside : h.slots.size ≤ p.index) : ¬h.contains p := by
  intro live
  obtain ⟨o, ho⟩ := contains_iff.1 live
  exact Nat.not_le_of_lt (index_lt_of_get? ho) outside

/-- Nothing refers to an object that is not live. -/
theorem Balanced.unreferenced {due : List ObjectId} (balanced : h.Balanced held due)
    (dead : ¬h.contains p) : held p = 0 ∧ h.inDegree p = 0 := by
  have law := mt (balanced.live p) dead
  omega

theorem edges_modify_self {o : Object} (f : Object → Object) (live : h.get? source = some o) :
    (h.modify source f).edges source = (f o).edges.toList := by
  simp [edges, get?_modify, live]

/-! ### Acquiring references -/

theorem allocate_balanced (balanced : h.Balanced held []) :
    h.allocate.2.Balanced (fun p => if p = h.allocate.1 then held p + 1 else held p) [] := by
  have new : ∀ p : ObjectId, p = h.allocate.1 ↔ p.index = h.slots.size := by
    rintro ⟨i⟩
    simp [allocate]
  have degree : ∀ p, h.allocate.2.inDegree p = h.inDegree p := fun p => inDegree_push h _ p
  constructor
  · intro p count hp
    rw [degree, List.count_nil]
    simp only [new]
    change (h.push _).refCount? p = _ at hp
    rw [refCount?_push] at hp
    split at hp
    · rename_i here
      have fresh := balanced.unreferenced (not_contains_of_size_le (Nat.le_of_eq here.symm))
      have one : 1 = count := Option.some.inj hp
      rw [if_pos here]
      omega
    · rename_i old
      have law := balanced.counted p count hp
      rw [if_neg old]
      simpa using law
  · intro p hp
    rw [degree] at hp
    simp only [new] at hp
    refine (contains_push _).2 ?_
    by_cases here : p.index = h.slots.size
    · exact .inl here
    · rw [if_neg here] at hp
      exact .inr (balanced.live p hp)

theorem allocate_unreferenced (zeros : h.Unreferenced []) : h.allocate.2.Unreferenced [] := by
  refine ⟨List.nodup_nil, ?_⟩
  intro p
  have old := zeros.mem_iff p
  show p ∈ [] ↔ (h.push _).refCount? p = some 0
  rw [refCount?_push]
  split
  · simp
  · exact old

/-- Counting one more reference to an object, without anyone who holds it, is the
    reverse of dropping a reference that is due. -/
theorem Balanced.raise {count : Nat} (balanced : h.Balanced held [])
    (here : h.refCount? object = some count) (p : ObjectId) (n : Nat)
    (hp : (h.setCount object (count + 1)).refCount? p = some n) :
    n = held p + (if p = object then 1 else 0) + h.inDegree p := by
  rw [refCount?_setCount] at hp
  by_cases same : p = object
  · subst same
    have law := balanced.counted p count here
    rw [if_pos rfl, here] at hp
    have eq : count + 1 = n := Option.some.inj hp
    rw [List.count_nil] at law
    rw [if_pos rfl]
    omega
  · rw [if_neg same] at hp
    have law := balanced.counted p n hp
    rw [if_neg same]
    simpa using law

theorem Unreferenced.raise {count : Nat} (zeros : h.Unreferenced []) (object : ObjectId) :
    (h.setCount object (count + 1)).Unreferenced [] := by
  refine ⟨List.nodup_nil, ?_⟩
  intro p
  have old := zeros.mem_iff p
  rw [refCount?_setCount]
  by_cases same : p = object
  · simp [same]
  · rwa [if_neg same]

theorem retain_balanced {count : Nat} (balanced : h.Balanced held [])
    (here : h.refCount? object = some count) :
    (h.setCount object (count + 1)).Balanced
      (fun p => if p = object then held p + 1 else held p) [] := by
  constructor
  · intro p n hp
    rw [balanced.raise here p n hp, inDegree_setCount, List.count_nil]
    by_cases same : p = object <;> simp [same]
  · intro p hp
    rw [inDegree_setCount] at hp
    rw [contains_setCount]
    by_cases same : p = object
    · rw [same]
      exact contains_of_refCount? here
    · rw [if_neg same] at hp
      exact balanced.live p hp

/-- The heap after a reference was stored, with the target counted already. -/
def linked (h : Heap) (source target : ObjectId) (count : Nat) : Heap :=
  (h.setCount target (count + 1)).modify source fun o => { o with edges := o.edges.push target }

theorem inDegree_linked (count : Nat) (live : h.contains source) (p : ObjectId) :
    (h.linked source target count).inDegree p = h.inDegree p + if p = target then 1 else 0 := by
  obtain ⟨o, ho⟩ := contains_iff.1 ((contains_setCount h target source (count + 1)).trans live)
  have law := inDegree_add_count (k := h.linked source target count)
    (h := h.setCount target (count + 1)) (by simp [linked])
    (fun q (other : q ≠ source) => edges_modify_of_ne _ other) p
  rw [linked, edges_modify_self _ ho, ← linked, edges_of_get? ho, inDegree_setCount] at law
  simp only [Array.toList_push, List.count_append, List.count_singleton, beq_iff_eq] at law
  simp only [eq_comm (a := p)]
  omega

theorem link_balanced {count : Nat} (balanced : h.Balanced held [])
    (live : h.contains source) (here : h.refCount? target = some count) :
    (h.linked source target count).Balanced held [] := by
  constructor
  · intro p n hp
    rw [linked, refCount?_modify fun _ => by rfl] at hp
    rw [balanced.raise here p n hp, inDegree_linked count live, List.count_nil]
    omega
  · intro p hp
    rw [inDegree_linked count live] at hp
    rw [linked, contains_modify, contains_setCount]
    by_cases same : p = target
    · rw [same]
      exact contains_of_refCount? here
    · rw [if_neg same] at hp
      exact balanced.live p hp

theorem link_unreferenced (zeros : h.Unreferenced []) (count : Nat) :
    (h.linked source target count).Unreferenced [] := by
  refine ⟨List.nodup_nil, ?_⟩
  intro p
  rw [linked, refCount?_modify fun _ => by rfl]
  exact (zeros.raise target).mem_iff p

/-! ### Letting go of references -/

/-- A reference that a mutator lets go of is due. -/
theorem Balanced.letGo (balanced : h.Balanced held []) (holds : 0 < held object) :
    h.Balanced (fun p => if p = object then held p - 1 else held p) [object] := by
  constructor
  · intro p count hp
    have law := balanced.counted p count hp
    rw [List.count_nil] at law
    by_cases same : p = object
    · subst same
      rw [if_pos rfl, List.count_singleton_self]
      omega
    · rw [if_neg same, List.count_singleton, if_neg (by simpa using Ne.symm same)]
      exact law
  · intro p hp
    refine balanced.live p ?_
    split at hp <;> omega

/-- A release that succeeds drops one reference to a live object. -/
theorem release_eq_ok {freeing : Freeing} (run : h.release object = .ok freeing) :
    h.contains object ∧ h.discard [object] = .ok freeing := by
  rw [release] at run
  split at run
  · exact ⟨‹_›, mapError_eq_ok_iff.1 run⟩
  · contradiction

theorem release_balanced (balanced : h.Balanced held []) (zeros : h.Unreferenced [])
    (holds : 0 < held object) :
    ∃ freeing, h.release object = .ok freeing ∧
      freeing.heap.Balanced (fun p => if p = object then held p - 1 else held p) [] ∧
      freeing.heap.Unreferenced [] := by
  obtain ⟨freeing, done, result⟩ := discard_balanced (balanced.letGo holds) zeros
  have live : h.contains object := balanced.live object (by omega)
  refine ⟨freeing, ?_, result⟩
  rw [release, if_pos live, done]
  rfl

/-- The heap after a reference was taken out of an object, with the target still
    counted. -/
def unlinked (h : Heap) (source target : ObjectId) : Heap :=
  h.modify source fun o => { o with edges := o.edges.erase target }

theorem edges_unlinked {o : Object} (here : h.get? source = some o) :
    (h.unlinked source target).edges source = (h.edges source).erase target := by
  obtain ⟨count, ⟨references⟩⟩ := o
  rw [unlinked, edges_modify_self _ here, edges_of_get? here]
  simp

/-- An unlinking that succeeds takes out a reference and drops it. -/
theorem unlink_eq_ok {freeing : Freeing} (run : h.unlink source target = .ok freeing) :
    target ∈ h.edges source ∧ (h.unlinked source target).discard [target] = .ok freeing := by
  rw [unlink] at run
  split at run
  · contradiction
  · rename_i o here
    split at run
    · rename_i refers
      split at run
      · exact ⟨by rwa [edges_of_get? here, ← Array.mem_def], mapError_eq_ok_iff.1 run⟩
      · contradiction
    · contradiction

theorem inDegree_unlinked (refers : target ∈ h.edges source) (p : ObjectId) :
    (h.unlinked source target).inDegree p + [target].count p = h.inDegree p := by
  obtain ⟨o, ho⟩ := contains_iff.1 (contains_of_mem_edges refers)
  have law := inDegree_add_count (k := h.unlinked source target) (h := h)
    (by simp [unlinked]) (fun q (other : q ≠ source) => edges_modify_of_ne _ other) p
  rw [edges_unlinked ho, List.count_erase] at law
  rw [List.count_singleton]
  by_cases same : target = p
  · have pos : 0 < (h.edges source).count p := List.count_pos_iff.2 (same ▸ refers)
    simp only [same, beq_self_eq_true, ↓reduceIte] at law ⊢
    omega
  · simp only [beq_iff_eq, same, ↓reduceIte] at law ⊢
    omega

/-- A reference that is taken out of an object is due. -/
theorem Balanced.takeOut (balanced : h.Balanced held []) (refers : target ∈ h.edges source) :
    (h.unlinked source target).Balanced held [target] := by
  have degree := inDegree_unlinked refers
  constructor
  · intro p count hp
    rw [unlinked, refCount?_modify fun _ => by rfl] at hp
    have law := balanced.counted p count hp
    have := degree p
    rw [List.count_nil] at law
    omega
  · intro p hp
    have := degree p
    rw [unlinked, contains_modify]
    exact balanced.live p (by omega)

theorem unlinked_unreferenced (zeros : h.Unreferenced []) :
    (h.unlinked source target).Unreferenced [] := by
  refine ⟨List.nodup_nil, ?_⟩
  intro p
  rw [unlinked, refCount?_modify fun _ => by rfl]
  exact zeros.mem_iff p

theorem unlink_balanced (balanced : h.Balanced held []) (zeros : h.Unreferenced [])
    (refers : target ∈ h.edges source) :
    ∃ freeing, h.unlink source target = .ok freeing ∧ freeing.heap.Balanced held [] ∧
      freeing.heap.Unreferenced [] := by
  obtain ⟨freeing, done, result⟩ :=
    discard_balanced (balanced.takeOut refers) (unlinked_unreferenced zeros)
  obtain ⟨o, ho⟩ := contains_iff.1 (contains_of_mem_edges refers)
  have live : h.contains target := by
    refine balanced.live target ?_
    have := inDegree_pos_iff.2 ⟨source, refers⟩
    omega
  refine ⟨freeing, ?_, result⟩
  rw [edges_of_get? ho] at refers
  simp only [unlink, ho, if_pos (Array.mem_def.2 refers), if_pos live]
  rw [← unlinked, done]
  rfl

end RefCycle.Heap
