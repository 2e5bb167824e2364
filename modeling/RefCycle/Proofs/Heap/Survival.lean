import RefCycle.Proofs.Heap.InDegree
import RefCycle.Heap.Cascade
/-!
# What freeing leaves alone

Freeing removes objects and lowers counts, and that is all: a survivor keeps its
references. Moreover, freeing starts at its targets and follows references, so
it cannot get at objects to which nothing else refers.

## Main definitions

* `Heap.Shrinks` — one heap is what is left of another.
* `Heap.Sealed` — no object outside a set refers into it.

## Main statements

* `cascade_shrinks`, `discard_shrinks` — freeing leaves a part of the heap.
* `cascade_frame`, `discard_frame` — freeing from outside of a sealed set does
  not change it.
-/

namespace RefCycle.Heap

variable {h k l : Heap} {p q source target : ObjectId} {S : ObjectId → Prop}

/-- One heap is what is left of another: no new objects, and no new references. -/
structure Shrinks (h k : Heap) : Prop where
  size : k.slots.size = h.slots.size
  contains : ∀ p, k.contains p → h.contains p
  edges : ∀ p, k.contains p → k.edges p = h.edges p

theorem Shrinks.refl (h : Heap) : Shrinks h h :=
  ⟨rfl, fun _ live => live, fun _ _ => rfl⟩

theorem Shrinks.trans (first : Shrinks h k) (second : Shrinks k l) : Shrinks h l where
  size := second.size.trans first.size
  contains p live := first.contains p (second.contains p live)
  edges p live := (second.edges p live).trans (first.edges p (second.contains p live))

theorem Shrinks.inDegree_le (less : Shrinks h k) (p : ObjectId) : k.inDegree p ≤ h.inDegree p := by
  apply Heap.inDegree_le less.size
  intro q
  by_cases live : k.contains q
  · rw [less.edges q live]
  · simp [edges_of_not_contains live]

theorem shrinks_setCount (h : Heap) (target : ObjectId) (count : Nat) :
    Shrinks h (h.setCount target count) :=
  ⟨by simp, fun _ => by simp, fun _ _ => by simp⟩

theorem shrinks_erase (h : Heap) (source : ObjectId) : Shrinks h (h.erase source) where
  size := size_slots_erase h source
  contains p live := (contains_erase.1 live).2
  edges p live := by rw [edges_erase, if_neg (contains_erase.1 live).1]

theorem dropReferences_shrinks {dead stack targets : List ObjectId}
    (run : h.dropReferences dead targets = .ok (k, stack)) : Shrinks h k := by
  fun_induction dropReferences h dead targets with
  | case1 h dead =>
    cases run
    exact .refl _
  | case2 h dead target targets gone ih => exact ih run
  | case3 => contradiction
  | case4 h dead target targets count here ih => exact (shrinks_setCount h target count).trans (ih run)

theorem cascade_shrinks {dead freedRev : List ObjectId} {freeing : Freeing}
    (run : h.cascade dead freedRev = .ok freeing) : Shrinks h freeing.heap := by
  fun_induction cascade h dead freedRev with
  | case1 h freedRev =>
    cases run
    exact .refl _
  | case2 h freedRev object rest gone ih => exact ih run
  | case3 => contradiction
  | case4 => contradiction
  | case5 h freedRev object rest o live zero next stack dropped ih =>
    exact (shrinks_erase h object).trans ((dropReferences_shrinks dropped).trans (ih run))

/-- Freeing from a heap succeeds in two parts: dropping what is due, and the cascade. -/
theorem discard_eq_ok {targets : List ObjectId} {freeing : Freeing}
    (run : h.discard targets = .ok freeing) :
    ∃ k dead, h.dropReferences [] targets = .ok (k, dead) ∧ k.cascade dead [] = .ok freeing := by
  rw [discard] at run
  split at run
  · contradiction
  · exact ⟨_, _, ‹_›, run⟩

theorem discard_shrinks {targets : List ObjectId} {freeing : Freeing}
    (run : h.discard targets = .ok freeing) : Shrinks h freeing.heap := by
  obtain ⟨k, dead, dropped, freed⟩ := discard_eq_ok run
  exact (dropReferences_shrinks dropped).trans (cascade_shrinks freed)

/-- No object outside a set refers into it. -/
def Sealed (h : Heap) (S : ObjectId → Prop) : Prop :=
  ∀ p q, S p → p ∈ h.edges q → S q

theorem Sealed.shrinks (sealed : Sealed h S) (less : Shrinks h k) : Sealed k S := by
  intro p q inside refers
  rw [less.edges q (contains_of_mem_edges refers)] at refers
  exact sealed p q inside refers

theorem dropReferences_frame {dead stack targets : List ObjectId}
    (outside : ∀ t ∈ targets, ¬S t) (rest : ∀ d ∈ dead, ¬S d)
    (run : h.dropReferences dead targets = .ok (k, stack)) :
    (∀ p, S p → k.get? p = h.get? p) ∧ ∀ d ∈ stack, ¬S d := by
  fun_induction dropReferences h dead targets with
  | case1 h dead =>
    cases run
    exact ⟨fun _ _ => rfl, rest⟩
  | case2 h dead target targets gone ih =>
    exact ih (fun t ht => outside t (List.mem_cons_of_mem _ ht)) rest run
  | case3 => contradiction
  | case4 h dead target targets count here ih =>
    have away : ¬S target := outside target List.mem_cons_self
    have grown : ∀ d ∈ (if count = 0 then target :: dead else dead), ¬S d := by
      intro d hd
      split at hd
      · rcases List.mem_cons.1 hd with rfl | hd
        · exact away
        · exact rest d hd
      · exact rest d hd
    obtain ⟨same, fresh⟩ := ih (fun t ht => outside t (List.mem_cons_of_mem _ ht)) grown run
    refine ⟨fun p inside => ?_, fresh⟩
    have other : p ≠ target := fun eq => away (eq ▸ inside)
    rw [same p inside, get?_setCount, if_neg other]

/-- Freeing objects outside of a sealed set does not change the set. -/
theorem cascade_frame {dead freedRev : List ObjectId} {freeing : Freeing}
    (sealed : Sealed h S) (outside : ∀ d ∈ dead, ¬S d)
    (run : h.cascade dead freedRev = .ok freeing) :
    ∀ p, S p → freeing.heap.get? p = h.get? p := by
  fun_induction cascade h dead freedRev with
  | case1 h freedRev =>
    cases run
    exact fun _ _ => rfl
  | case2 h freedRev object rest gone ih =>
    exact ih sealed (fun d hd => outside d (List.mem_cons_of_mem _ hd)) run
  | case3 => contradiction
  | case4 => contradiction
  | case5 h freedRev object rest o live zero next stack dropped ih =>
    have away : ¬S object := outside object List.mem_cons_self
    have targets : ∀ t ∈ o.edges.toList, ¬S t := by
      intro t ht inside
      rw [← edges_of_get? live] at ht
      exact away (sealed t object inside ht)
    obtain ⟨same, fresh⟩ := dropReferences_frame targets
      (fun d hd => outside d (List.mem_cons_of_mem _ hd)) dropped
    have less := (shrinks_erase h object).trans (dropReferences_shrinks dropped)
    -- The stack stays outside, and so does what the freed object referred to.
    intro p inside
    have other : p ≠ object := fun eq => away (eq ▸ inside)
    rw [ih (sealed.shrinks less) fresh run p inside, same p inside, get?_erase, if_neg other]

/-- Dropping references to objects outside of a sealed set does not change the set. -/
theorem discard_frame {targets : List ObjectId} {freeing : Freeing} (sealed : Sealed h S)
    (outside : ∀ t ∈ targets, ¬S t) (run : h.discard targets = .ok freeing) :
    ∀ p, S p → freeing.heap.get? p = h.get? p := by
  obtain ⟨k, dead, dropped, freed⟩ := discard_eq_ok run
  obtain ⟨same, fresh⟩ := dropReferences_frame outside (by simp) dropped
  intro p inside
  rw [cascade_frame (sealed.shrinks (dropReferences_shrinks dropped)) fresh freed p inside,
    same p inside]

end RefCycle.Heap
