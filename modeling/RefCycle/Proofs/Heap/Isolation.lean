import RefCycle.Heap.History
import RefCycle.Proofs.Heap.Enclosure
import RefCycle.Proofs.Heap.Step
/-!
# Sets that mutators cannot get at

A call can only get at an object that it names, or at one to which something
that it frees refers. An enclosed set of which a call names no member is
therefore as before when the call is done, down to counts, and still enclosed.

## Main statements

* `Turns.frame`, `Enclosed.perform` — a call leaves an enclosed set as it is if it
  names no member of it.
* `Reachable.survives` — what can be reached from held objects outlives freeing.
-/

namespace RefCycle.Heap

variable {h k : Heap} {call : Call} {effect : Effect} {held : ObjectId → Nat}
  {S : ObjectId → Prop} {p q object source target : ObjectId}

theorem Shrinks.mem_edges (less : Shrinks h k) (refers : p ∈ k.edges q) : p ∈ h.edges q := by
  rwa [less.edges q (contains_of_mem_edges refers)] at refers

theorem mem_edges_unlinked (refers : p ∈ (h.unlinked source target).edges q) : p ∈ h.edges q := by
  by_cases same : q = source
  · subst same
    obtain ⟨o, ho⟩ := contains_iff.1 (contains_of_mem_edges refers)
    rw [unlinked, get?_modify, if_pos rfl] at ho
    obtain ⟨o', here, -⟩ := Option.map_eq_some_iff.1 ho
    rw [edges_unlinked here] at refers
    exact List.mem_of_mem_erase refers
  · rwa [unlinked, edges_modify_of_ne _ same] at refers

theorem mem_edges_linked {count : Nat} (refers : p ∈ (h.linked source target count).edges q) :
    p ∈ h.edges q ∨ p = target := by
  by_cases same : q = source
  · subst same
    obtain ⟨o, ho⟩ := contains_iff.1 (contains_of_mem_edges refers)
    rw [linked, get?_modify, if_pos rfl] at ho
    obtain ⟨o', here, -⟩ := Option.map_eq_some_iff.1 ho
    rw [linked, edges_modify_self _ here, Array.toList_push, List.mem_append, List.mem_singleton,
      ← edges_of_get? here, edges_setCount] at refers
    exact refers
  · rw [linked, edges_modify_of_ne _ same, edges_setCount] at refers
    exact .inl refers

/-- A call adds no reference to an object that it does not name. -/
theorem Turns.mem_edges (turns : h.Turns call effect) (refers : p ∈ effect.heap.edges q) :
    p ∈ h.edges q ∨ p ∈ call.names := by
  cases turns with
  | refused | lacking | detected => exact .inl refers
  | allocated =>
    change p ∈ (h.push _).edges q at refers
    rw [edges_push] at refers
    split at refers
    · contradiction
    · exact .inl refers
  | retained here =>
    rw [edges_setCount] at refers
    exact .inl refers
  | @linked source target count live here =>
    obtain old | rfl := mem_edges_linked refers
    · exact .inl old
    · exact .inr (List.mem_cons_of_mem _ List.mem_cons_self)
  | released live run => exact .inl ((discard_shrinks run).mem_edges refers)
  | unlinked _ run => exact .inl (mem_edges_unlinked ((discard_shrinks run).mem_edges refers))
  | freed run => exact .inl ((releaseGroup_shrinks run).mem_edges refers)

/-- A call does not change an enclosed set of which it names no member. -/
theorem Turns.frame (turns : h.Turns call effect) (enclosed : h.Enclosed held S)
    (away : ∀ p ∈ call.names, ¬S p) : ∀ p, S p → effect.heap.get? p = h.get? p := by
  intro p inside
  have other : ∀ q ∈ call.names, p ≠ q := fun q mem eq => away q mem (eq ▸ inside)
  cases turns with
  | refused | lacking | detected => rfl
  | allocated =>
    obtain ⟨o, ho⟩ := contains_iff.1 (enclosed.live p inside)
    exact (get?_push h _ p).trans (if_neg (Nat.ne_of_lt (index_lt_of_get? ho)))
  | retained here => rw [get?_setCount, if_neg (other _ List.mem_cons_self)]
  | linked live here =>
    rw [Heap.linked, get?_modify, if_neg (other _ List.mem_cons_self), get?_setCount,
      if_neg (other _ (List.mem_cons_of_mem _ List.mem_cons_self))]
  | released live run => exact discard_frame enclosed.sealed away run p inside
  | @unlinked source target freeing refers run =>
    -- Taking the reference out does not touch the set, and neither does dropping it.
    have sealed : (h.unlinked source target).Sealed S :=
      fun p q inside refers => enclosed.sealed p q inside (mem_edges_unlinked refers)
    have targets : ∀ t ∈ [target], ¬S t := fun t mem => away t (List.mem_cons_of_mem _ mem)
    rw [discard_frame sealed targets run p inside, Heap.unlinked, get?_modify,
      if_neg (other _ List.mem_cons_self)]
  | freed run => exact releaseGroup_frame enclosed.sealed away run p inside

/-- A call only changes what is held of the objects that it names or allocates. -/
theorem heldAfter_of_not_mem {order : VisitOrder} {ledger : Ledger}
    (performed : ledger.heap.perform call = .ok effect) (away : p ∉ call.names)
    (old : ledger.heap.contains p) :
    (ledger.after call effect).held p = ledger.held p := by
  have other : ∀ q ∈ call.names, p ≠ q := fun q mem eq => away (eq ▸ mem)
  obtain ⟨o, ho⟩ := contains_iff.1 old
  have within := index_lt_of_get? ho
  simp only [Ledger.after, Ledger.heldAfter]
  split
  · rename_i new answer
    cases performed
    obtain rfl : ledger.heap.allocate.1 = new := Response.allocated.inj answer
    exact if_neg fun eq => Nat.lt_irrefl _ (eq ▸ within)
  · exact if_neg (other _ List.mem_cons_self)
  · exact if_neg (other _ List.mem_cons_self)
  · rfl

/-- An enclosed set stays enclosed under a call that names no member of it. -/
theorem Enclosed.perform {order : VisitOrder} {ledger : Ledger}
    (enclosed : ledger.heap.Enclosed ledger.held S) (away : ∀ p ∈ call.names, ¬S p)
    (performed : ledger.heap.perform call = .ok effect) :
    (ledger.after call effect).heap.Enclosed (ledger.after call effect).held S := by
  have turns := turns_of_perform performed
  constructor
  · intro p inside
    have same : effect.heap.get? p = ledger.heap.get? p := turns.frame enclosed away p inside
    have live := enclosed.live p inside
    rwa [contains, ← same, ← contains] at live
  · intro p inside
    rw [heldAfter_of_not_mem performed (fun mem => away p mem inside) (enclosed.live p inside)]
    exact enclosed.unheld p inside
  · intro p q inside refers
    obtain old | named := turns.mem_edges refers
    · exact enclosed.sealed p q inside old
    · exact absurd inside (away p named)

/-- What can be reached from held objects outlives freeing, as long as the books are
    in order afterwards, and keeps its references. -/
theorem Reachable.survives (less : Shrinks h k) (balanced : k.Balanced held [])
    (reach : h.Reachable (fun q => 0 < held q) p) :
    k.contains p ∧ k.edges p = h.edges p := by
  suffices survives : k.contains p from ⟨survives, less.edges p survives⟩
  induction reach with
  | root live holds => exact balanced.live _ (Nat.add_pos_left holds _)
  | @edge p q source refers live ih =>
    rw [← less.edges p ih] at refers
    exact balanced.live q (Nat.add_pos_right _ (inDegree_pos_iff.2 ⟨p, refers⟩))

end RefCycle.Heap
