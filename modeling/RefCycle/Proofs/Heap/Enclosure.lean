import RefCycle.Heap.Group
import RefCycle.Proofs.Heap.Balance
import RefCycle.Proofs.Heap.Search
import RefCycle.Proofs.Heap.Survival
/-!
# Sets that only hold themselves

Nothing outside refers into an enclosed set, neither an object nor a mutator. So
no mutator can reach it, and all of it can be erased at once. Garbage is
enclosed, and so is what a group release finds among the members of its group.

## Main definitions

* `Heap.Enclosed` — a set of live objects to which only its members refer.

## Main statements

* `Enclosed.not_reachable` — what is reachable from a held object lies outside.
* `Enclosed.mem_members_garbage` — an enclosed set within a group is found by the search.
* `garbage_enclosed`, `members_garbage_enclosed` — what the searches find is enclosed.
* `releaseGroup_balanced` — a group release keeps the books, for any group.
* `mem_cyclic_of_enclosed` — a group that is enclosed is released as a whole.
-/

namespace RefCycle.Heap

variable {h : Heap} {held : ObjectId → Nat} {p q : ObjectId} {S : ObjectId → Prop}
  {group objects : List ObjectId} {release : GroupRelease}

/-- A set of live objects to which only its members refer. -/
structure Enclosed (h : Heap) (held : ObjectId → Nat) (S : ObjectId → Prop) : Prop where
  live : ∀ p, S p → h.contains p
  unheld : ∀ p, S p → held p = 0
  sealed : h.Sealed S

/-- What can be reached from a held object lies outside of an enclosed set. -/
theorem Enclosed.not_reachable (enclosed : h.Enclosed held S)
    (reach : h.Reachable (fun q => 0 < held q) p) : ¬S p := by
  induction reach with
  | root live isRoot => exact fun inside => Nat.ne_of_gt isRoot (enclosed.unheld _ inside)
  | edge source refers live ih => exact fun inside => ih (enclosed.sealed _ _ inside refers)

/-! ### Garbage is enclosed -/

/-- An object whose count does not exceed its in-degree is not held from outside. -/
theorem Balanced.unheld_of_not_anchored (balanced : h.Balanced held []) (live : h.contains p)
    (loose : ¬h.Anchored p) : held p = 0 := by
  obtain ⟨n, here⟩ := exists_refCount? live
  have law := balanced.counted p _ here
  have le : n ≤ h.inDegree p := Nat.le_of_not_lt fun lt => loose ⟨_, here, lt⟩
  rw [List.count_nil] at law
  omega

theorem garbage_enclosed (balanced : h.Balanced held []) : h.Enclosed held (· ∈ h.garbage) where
  live _ mem := (mem_garbage_iff.1 mem).1
  unheld _ mem :=
    balanced.unheld_of_not_anchored (mem_garbage_iff.1 mem).1 (not_anchored_of_mem_garbage mem)
  sealed _ _ mem refers := mem_garbage_of_refers mem refers

/-! ### The members of a group as a heap of their own -/

theorem get?_restrict (h : Heap) (objects : ObjectSet) (p : ObjectId) :
    (h.restrict objects).get? p = if p ∈ objects then h.get? p else none := by
  simp only [get?, restrict, Array.getElem?_mapIdx]
  split
  · cases h.slots[p.index]? <;> simp [*]
  · cases h.slots[p.index]? <;> simp [*]

theorem get?_members : (h.members group).get? p = if p ∈ group then h.get? p else none := by
  simp only [members, get?_restrict, ObjectSet.mem_ofList, List.mem_filter]
  by_cases mem : p ∈ group
  · by_cases live : h.contains p
    · simp [mem, live]
    · have gone : h.get? p = none := by simpa [contains] using live
      simp [mem, live, gone]
  · simp [mem]

theorem contains_members : (h.members group).contains p ↔ p ∈ group ∧ h.contains p := by
  by_cases mem : p ∈ group <;> simp [contains, get?_members, mem]

theorem refCount?_members (mem : p ∈ group) : (h.members group).refCount? p = h.refCount? p := by
  simp [refCount?, get?_members, mem]

theorem edges_members :
    (h.members group).edges p = if p ∈ group then h.edges p else [] := by
  by_cases mem : p ∈ group <;> simp [edges, get?_members, mem]

theorem size_slots_members : (h.members group).slots.size = h.slots.size := by
  simp [members, restrict]

theorem count_edges_members_le (q p : ObjectId) :
    ((h.members group).edges q).count p ≤ (h.edges q).count p := by
  rw [edges_members]
  split
  · exact le_rfl
  · simp

theorem inDegree_members_le : (h.members group).inDegree p ≤ h.inDegree p :=
  inDegree_le size_slots_members fun q => count_edges_members_le q p

/-- A reference from outside of a group is missing in the heap of its members. -/
theorem inDegree_members_lt (outside : q ∉ group) (refers : p ∈ h.edges q) :
    (h.members group).inDegree p < h.inDegree p := by
  obtain ⟨o, ho⟩ := contains_iff.1 (contains_of_mem_edges refers)
  have missing : ((h.members group).edges q).count p < (h.edges q).count p := by
    rw [edges_members, if_neg outside]
    exact List.count_pos_iff.2 refers
  rw [inDegree_eq_sum, inDegree_eq_sum, size_slots_members]
  exact Finset.sum_lt_sum (fun i _ => count_edges_members_le ⟨i⟩ p)
    ⟨q.index, Finset.mem_range.2 (index_lt_of_get? ho), missing⟩

/-- If all references to an object come from a group, the heap of its members has them. -/
theorem inDegree_members_eq (inside : ∀ q, p ∈ h.edges q → q ∈ group) :
    (h.members group).inDegree p = h.inDegree p := by
  rw [inDegree_eq_sum, inDegree_eq_sum, size_slots_members]
  refine Finset.sum_congr rfl fun i _ => ?_
  rw [edges_members]
  split
  · rfl
  · rename_i outside
    rw [List.count_eq_zero_of_not_mem fun refers => outside (inside _ refers), List.count_nil]

/-- The garbage among the members of a group is enclosed in the whole heap: its
    counts leave no room for references from outside of the group. -/
theorem members_garbage_enclosed (balanced : h.Balanced held []) (group : List ObjectId) :
    h.Enclosed held (· ∈ (h.members group).garbage) := by
  -- Only members were searched, so the count and both in-degrees must agree.
  have exact_degree : ∀ p, p ∈ (h.members group).garbage →
      h.contains p ∧ held p = 0 ∧ (h.members group).inDegree p = h.inDegree p := by
    intro p mem
    obtain ⟨inGroup, live⟩ := contains_members.1 (mem_garbage_iff.1 mem).1
    obtain ⟨n, here⟩ := exists_refCount? live
    have law := balanced.counted p _ here
    have le : n ≤ (h.members group).inDegree p := by
      refine Nat.le_of_not_lt fun lt => not_anchored_of_mem_garbage mem ⟨_, ?_, lt⟩
      rw [refCount?_members inGroup, here]
    have fewer : (h.members group).inDegree p ≤ h.inDegree p := inDegree_members_le
    rw [List.count_nil] at law
    exact ⟨live, by omega, by omega⟩
  refine ⟨fun p mem => (exact_degree p mem).1, fun p mem => (exact_degree p mem).2.1, ?_⟩
  intro p q mem refers
  have inGroup : q ∈ group := by
    by_contra outside
    exact Nat.ne_of_lt (inDegree_members_lt outside refers) (exact_degree p mem).2.2
  refine mem_garbage_of_refers mem ?_
  rwa [edges_members, if_pos inGroup]

/-- An enclosed set that lies within a group is garbage among its members. -/
theorem Enclosed.mem_members_garbage (enclosed : h.Enclosed held S) (balanced : h.Balanced held [])
    (within : ∀ q, S q → q ∈ group) (mem : S p) : p ∈ (h.members group).garbage := by
  refine mem_garbage_iff_lost.2 ⟨contains_members.2 ⟨within p mem, enclosed.live p mem⟩, ?_⟩
  -- The search starts outside of the set, and references do not lead into it.
  suffices away : ∀ q, (h.members group).Reachable (h.members group).Anchored q → ¬S q from
    fun reach => away p reach mem
  intro q reach
  induction reach with
  | @root q live anchored =>
    intro inside
    obtain ⟨count, here, lt⟩ := anchored
    rw [refCount?_members (within q inside)] at here
    rw [inDegree_members_eq fun r refers => within r (enclosed.sealed q r inside refers)] at lt
    have law := balanced.counted q count here
    have unheld := enclosed.unheld q inside
    rw [List.count_nil] at law
    omega
  | @edge q r source refers live ih =>
    intro inside
    rw [edges_members] at refers
    split at refers
    · exact ih (enclosed.sealed r q inside refers)
    · contradiction

/-! ### Erasing a set -/

theorem get?_foldl_erase (objects : List ObjectId) (h : Heap) (p : ObjectId) :
    (objects.foldl erase h).get? p = if p ∈ objects then none else h.get? p := by
  induction objects generalizing h with
  | nil => rfl
  | cons object objects ih =>
    rw [List.foldl_cons, ih, get?_erase]
    by_cases same : p = object <;> simp [same]

theorem size_slots_foldl_erase (objects : List ObjectId) (h : Heap) :
    (objects.foldl erase h).slots.size = h.slots.size := by
  induction objects generalizing h with
  | nil => rfl
  | cons object objects ih => rw [List.foldl_cons, ih, size_slots_erase]

theorem contains_foldl_erase :
    (objects.foldl erase h).contains p ↔ p ∉ objects ∧ h.contains p := by
  by_cases mem : p ∈ objects <;> simp [contains, get?_foldl_erase, mem]

theorem edges_foldl_erase :
    (objects.foldl erase h).edges p = if p ∈ objects then [] else h.edges p := by
  by_cases mem : p ∈ objects <;> simp [edges, get?_foldl_erase, mem]

theorem refCount?_foldl_erase :
    (objects.foldl erase h).refCount? p = if p ∈ objects then none else h.refCount? p := by
  by_cases mem : p ∈ objects <;> simp [refCount?, get?_foldl_erase, mem]

theorem shrinks_foldl_erase (objects : List ObjectId) (h : Heap) :
    Shrinks h (objects.foldl erase h) where
  size := size_slots_foldl_erase objects h
  contains p live := (contains_foldl_erase.1 live).2
  edges p live := by rw [edges_foldl_erase, if_neg (contains_foldl_erase.1 live).1]

/-- Erasing objects takes away what their references added to in-degrees. -/
theorem inDegree_foldl_erase (nodup : objects.Nodup) (h : Heap) (p : ObjectId) :
    (objects.foldl erase h).inDegree p + (objects.flatMap h.edges).count p = h.inDegree p := by
  induction objects generalizing h with
  | nil => rfl
  | cons object objects ih =>
    obtain ⟨new, nodup⟩ := List.nodup_cons.1 nodup
    have others : objects.flatMap (h.erase object).edges = objects.flatMap h.edges := by
      apply List.flatMap_congr
      intro q mem
      rw [edges_erase, if_neg fun eq : q = object => new (eq ▸ mem)]
    have law := ih nodup (h.erase object)
    have first := h.inDegree_erase object p
    rw [others] at law
    rw [List.foldl_cons, List.flatMap_cons, List.count_append]
    omega

/-- An enclosed set can be erased at once; the references of its members are then due. -/
theorem Balanced.eraseAll (balanced : h.Balanced held []) (nodup : objects.Nodup)
    (enclosed : h.Enclosed held (· ∈ objects)) :
    (objects.foldl Heap.erase h).Balanced held (objects.flatMap h.edges) := by
  constructor
  · intro p count hp
    rw [refCount?_foldl_erase] at hp
    split at hp
    · contradiction
    · have law := balanced.counted p count hp
      have degree := inDegree_foldl_erase nodup h p
      rw [List.count_nil] at law
      omega
  · intro p hp
    have degree := inDegree_foldl_erase nodup h p
    refine contains_foldl_erase.2 ⟨fun mem => ?_, balanced.live p (by omega)⟩
    -- A survivor that refers to an erased object would be a member itself.
    have unheld : held p = 0 := enclosed.unheld p mem
    obtain ⟨q, refers⟩ := inDegree_pos_iff.1 (by omega : 0 < (objects.foldl Heap.erase h).inDegree p)
    rw [edges_foldl_erase] at refers
    split at refers
    · contradiction
    · rename_i survivor
      exact survivor (enclosed.sealed p q mem refers)

theorem Unreferenced.eraseAll (zeros : h.Unreferenced []) (objects : List ObjectId) :
    (objects.foldl Heap.erase h).Unreferenced [] := by
  refine ⟨List.nodup_nil, ?_⟩
  intro p
  have old := zeros.mem_iff p
  by_cases mem : p ∈ objects <;> simp_all [refCount?_foldl_erase]

/-! ### Releasing a group -/

section Releasing

variable {order : VisitOrder}

/-- A group release succeeds in two parts: the closed part of the group is erased,
    and its references are dropped. -/
theorem releaseGroup_eq_ok (run : h.releaseGroup group = .ok release) :
    release.cyclic = VisitOrder.visit (h.members group).garbage ∧
    ∃ freeing, (release.cyclic.foldl Heap.erase h).discard (release.cyclic.flatMap h.edges) =
      .ok freeing ∧ release.heap = freeing.heap ∧ release.freed = freeing.freed := by
  simp only [releaseGroup] at run
  split at run
  · contradiction
  · obtain rfl := Except.ok.inj run
    exact ⟨rfl, _, ‹_›, rfl, rfl⟩

/-- A group release keeps the books, whatever the group: repeated, freed and
    unknown objects in it, and members that are in use, do no harm. -/
theorem releaseGroup_balanced [VisitOrder] (balanced : h.Balanced held [])
    (zeros : h.Unreferenced []) (group : List ObjectId) :
    ∃ release, h.releaseGroup group = .ok release ∧ release.heap.Balanced held [] ∧
      release.heap.Unreferenced [] := by
  have nodup := VisitOrder.nodup_visit (garbage_nodup (h.members group))
  have enclosed : h.Enclosed held (· ∈ VisitOrder.visit (h.members group).garbage) := by
    simpa only [VisitOrder.mem_visit] using members_garbage_enclosed balanced group
  obtain ⟨freeing, done, result⟩ :=
    discard_balanced (balanced.eraseAll nodup enclosed) (zeros.eraseAll _)
  exact ⟨_, by rw [releaseGroup, done], result⟩

theorem releaseGroup_shrinks (run : h.releaseGroup group = .ok release) :
    Shrinks h release.heap := by
  obtain ⟨-, freeing, done, eq, -⟩ := releaseGroup_eq_ok run
  rw [eq]
  exact (shrinks_foldl_erase _ h).trans (discard_shrinks done)

theorem not_contains_of_mem_cyclic (run : h.releaseGroup group = .ok release)
    (mem : p ∈ release.cyclic) : ¬release.heap.contains p := by
  obtain ⟨-, freeing, done, eq, -⟩ := releaseGroup_eq_ok run
  rw [eq]
  exact fun live => (contains_foldl_erase.1 ((discard_shrinks done).contains p live)).1 mem

/-- The erased members of a group are its garbage, whatever the order of the visit. -/
theorem mem_cyclic_iff (run : h.releaseGroup group = .ok release) :
    p ∈ release.cyclic ↔ p ∈ (h.members group).garbage := by
  rw [(releaseGroup_eq_ok run).1, VisitOrder.mem_visit]

theorem cyclic_nodup (run : h.releaseGroup group = .ok release) : release.cyclic.Nodup := by
  rw [(releaseGroup_eq_ok run).1]
  exact VisitOrder.nodup_visit (garbage_nodup _)

theorem cyclic_enclosed (balanced : h.Balanced held [])
    (run : h.releaseGroup group = .ok release) : h.Enclosed held (· ∈ release.cyclic) := by
  simpa only [mem_cyclic_iff run] using members_garbage_enclosed balanced group

theorem mem_group_of_mem_cyclic (run : h.releaseGroup group = .ok release)
    (mem : p ∈ release.cyclic) : p ∈ group :=
  (contains_members.1 (mem_garbage_iff.1 ((mem_cyclic_iff run).1 mem)).1).1

/-- Releasing a group outside of a sealed set does not change the set. -/
theorem releaseGroup_frame (sealed : h.Sealed S) (outside : ∀ p ∈ group, ¬S p)
    (run : h.releaseGroup group = .ok release) : ∀ p, S p → release.heap.get? p = h.get? p := by
  obtain ⟨-, freeing, done, eq, -⟩ := releaseGroup_eq_ok run
  have away : ∀ p ∈ release.cyclic, ¬S p := fun p mem =>
    outside p (mem_group_of_mem_cyclic run mem)
  have targets : ∀ t ∈ release.cyclic.flatMap h.edges, ¬S t := by
    intro t ht inside
    obtain ⟨q, mem, refers⟩ := List.mem_flatMap.1 ht
    exact away q mem (sealed t q inside refers)
  intro p inside
  rw [eq, discard_frame (sealed.shrinks (shrinks_foldl_erase _ h)) targets done p inside,
    get?_foldl_erase, if_neg fun mem => away p mem inside]

/-- An enclosed group is released as a whole, since none of its members is held. -/
theorem mem_cyclic_of_enclosed (balanced : h.Balanced held [])
    (enclosed : h.Enclosed held (· ∈ group)) (run : h.releaseGroup group = .ok release)
    (mem : p ∈ group) : p ∈ release.cyclic :=
  (mem_cyclic_iff run).2 (enclosed.mem_members_garbage balanced (fun _ => id) mem)

end Releasing

end RefCycle.Heap
