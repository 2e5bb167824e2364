import Mathlib
import RefCycle.Proofs.Heap.Accounting
import RefCycle.Proofs.Heap.Shedding
/-!
# Dropping one reference

A mutator lets go of a reference, or a reference is taken out of an object. That is one
reference less to the target, and if it was the last one, the target is freed with
everything that this leaves unreferenced: the least set that contains the target and
absorbs whatever only its members refer to. The stack of the cascade decides in which order
its members go, and nothing else.

## Main definitions

* `Heap.lowered` — a reference is dropped, and nothing is freed for it yet.
* `Heap.Drops` — the effect of dropping a reference.

## Main statements

* `cascade_sheds` — a cascade takes the least absorbing set.
* `Balanced.drops` — what is left when one reference was due.
* `Ledger.letting_go_exact` — what a release and an unlinking do.
-/

namespace RefCycle.Heap

variable {h : Heap} {held : ObjectId → Nat} {p source target : ObjectId} {S : Finset ObjectId}
  {dead : List ObjectId} {count : Nat}

/-- The heap after a reference to an object was dropped, before anything is freed. -/
def lowered (h : Heap) (target : ObjectId) : Heap :=
  h.modify target fun o => { o with refCount := o.refCount - 1 }

@[simp]
theorem contains_lowered : (h.lowered target).contains p = h.contains p :=
  contains_modify _

@[simp]
theorem edges_lowered : (h.lowered target).edges p = h.edges p := by
  by_cases same : p = target
  · rw [edges, edges, lowered, get?_modify, if_pos same]
    cases h.get? p <;> rfl
  · exact edges_modify_of_ne _ same

theorem lowered_eq_setCount (here : h.refCount? target = some (count + 1)) :
    h.lowered target = h.setCount target count := by
  obtain ⟨o, ho, eq⟩ := Option.map_eq_some_iff.1 here
  refine ext_get? (by simp [lowered]) fun p => ?_
  rw [lowered, get?_modify, get?_setCount]
  by_cases same : p = target
  · rw [if_pos same, if_pos same, same, ho, Option.map_some, Option.map_some, eq,
      Nat.add_sub_cancel]
  · rw [if_neg same, if_neg same]

theorem shrinks_lowered (h : Heap) (target : ObjectId) : Shrinks (h.lowered target) h where
  size := (size_slots_modify ..).symm
  contains p live := by rwa [contains_lowered]
  edges p _ := edges_lowered.symm

/-! ### Cascades -/

/-- What waits to be freed is in every absorbing set, as nothing refers to it. -/
theorem Unreferenced.mem_absorbing (zeros : h.Unreferenced dead) (balanced : h.Balanced held [])
    (absorbing : h.Absorbing S) (mem : p ∈ dead) : p ∈ S := by
  have zero := (zeros.mem_iff p).1 mem
  have law := balanced.counted p 0 zero
  have within := h.referencesFrom_le_inDegree S p
  have unreferenced : h.referencesFrom S p = 0 := by omega
  exact absorbing p (unreferenced ▸ zero)

/-- A cascade takes the least set that absorbs whatever only its members refer to. -/
theorem cascade_sheds (balanced : h.Balanced held []) (zeros : h.Unreferenced dead) :
    ∃ (freeing : Freeing) (F : Finset ObjectId), h.cascade dead [] = .ok freeing ∧
      IsLeast {S : Finset ObjectId | h.Absorbing S} F ∧ Sheds h freeing.heap F ∧
      F.card = freeing.freed.length := by
  obtain ⟨freeing, run, balanced', zeros'⟩ := cascade_balanced balanced zeros []
  obtain ⟨freed, eq, removes⟩ := cascade_removes run
  have less := cascade_shrinks run
  refine ⟨freeing, freed.toFinset, run, ⟨removes.absorbing less balanced balanced' zeros', ?_⟩,
    removes.sheds less balanced balanced', ?_⟩
  · intro S absorbing p mem
    rw [List.mem_toFinset] at mem
    have within := cascade_within absorbing balanced (.refl h) balanced zeros
      (fun q live gone => absurd live gone) run
    exact within p (removes.live p mem) fun alive => ((removes.remains_iff p).1 alive).2 mem
  · rw [List.toFinset_card_of_nodup removes.nodup, eq]
    rfl

/-! ### One reference -/

theorem dropReferences_singleton (here : h.refCount? target = some (count + 1)) :
    h.dropReferences [] [target] =
      .ok (h.lowered target, if count = 0 then [target] else []) := by
  simp only [dropReferences, here, lowered_eq_setCount here]

theorem Balanced.lowered (balanced : h.Balanced held [target])
    (here : h.refCount? target = some (count + 1)) : (h.lowered target).Balanced held [] := by
  rw [lowered_eq_setCount here]
  exact balanced.drop here

/-- A reference that is due is counted. -/
theorem Balanced.exists_count (balanced : h.Balanced held [target]) (live : h.contains target) :
    ∃ count, h.refCount? target = some (count + 1) := by
  obtain ⟨n, here⟩ := exists_refCount? live
  have law := balanced.counted target _ here
  rw [List.count_singleton_self] at law
  refine ⟨n - 1, here.trans (congrArg some ?_)⟩
  omega

/-- The effect of dropping a reference to an object. If the object has another one, its
    count is all that changes. If not, it is freed with what that leaves unreferenced, and
    the survivors lose from their counts what the freed objects referred to. -/
structure Drops (h : Heap) (target : ObjectId) (effect : Effect) : Prop where
  counted : ∃ count, h.refCount? target = some (count + 1)
  kept : ∀ count, h.refCount? target = some (count + 1) → 0 < count →
    effect.response = .freed 0 ∧ effect.heap = h.lowered target
  freed : h.refCount? target = some 1 →
    ∃ F : Finset ObjectId,
      IsLeast {S : Finset ObjectId | target ∈ S ∧ (h.lowered target).Absorbing S} F ∧
      effect.response = .freed F.card ∧ (h.lowered target).Sheds effect.heap F

/-- If one reference is due, then this is what discarding it does. -/
theorem Balanced.drops {freeing : Freeing} (balanced : h.Balanced held [target])
    (zeros : h.Unreferenced []) (live : h.contains target)
    (run : h.discard [target] = .ok freeing) :
    h.Drops target ⟨.freed freeing.freed.length, freeing.heap, freeing.records⟩ := by
  obtain ⟨count, counted⟩ := balanced.exists_count live
  have settled := balanced.lowered counted
  have stacked : (h.lowered target).Unreferenced (if count = 0 then [target] else []) := by
    rw [lowered_eq_setCount counted]
    exact zeros.drop counted
  rw [discard, dropReferences_singleton counted] at run
  refine ⟨⟨count, counted⟩, ?_, ?_⟩
  · intro other here more
    obtain rfl : count = other := by
      rw [counted, Option.some.injEq] at here
      omega
    -- Nothing is stacked, so the cascade ends at once.
    simp only [if_neg (Nat.ne_of_gt more), cascade] at run
    cases run
    exact ⟨rfl, rfl⟩
  · intro here
    obtain rfl : count = 0 := by
      rw [counted, Option.some.injEq] at here
      omega
    obtain ⟨freeing', F, run', least, sheds, card⟩ := cascade_sheds settled stacked
    obtain rfl := Except.ok.inj (run'.symm.trans run)
    have first : ∀ S, (h.lowered target).Absorbing S → target ∈ S := fun S absorbing =>
      stacked.mem_absorbing settled absorbing List.mem_cons_self
    exact ⟨F, ⟨⟨first F least.1, least.1⟩, fun S mem => least.2 mem.2⟩, card ▸ rfl, sheds⟩

namespace Ledger

variable {ledger : Ledger}

/-- What it comes to that a reference is let go of.

    A mutator releases a reference that it holds, or the first reference to a target is
    taken out of the references of a source, where the others stay in order. Either has the
    effect of dropping one reference; whatever survives it has the references that it had. -/
theorem letting_go_exact [VisitOrder] (history : ledger.Disciplined) :
    (∀ object, 0 < ledger.held object →
      ∃ effect, ledger.heap.perform (.release object) = .ok effect ∧
        ledger.heap.Drops object effect ∧
        ∀ p, effect.heap.contains p → effect.heap.edges p = ledger.heap.edges p) ∧
    ∀ source target, target ∈ ledger.heap.edges source →
      ∃ effect, ledger.heap.perform (.unlink source target) = .ok effect ∧
        (ledger.heap.unlinked source target).Drops target effect ∧
        ∀ p, effect.heap.contains p → effect.heap.edges p =
          if p = source then (ledger.heap.edges source).erase target else ledger.heap.edges p := by
  obtain ⟨balanced, zeros, -, -⟩ := history.sound
  constructor
  · intro object holds
    obtain ⟨freeing, done, -⟩ := release_balanced balanced zeros holds
    obtain ⟨live, run⟩ := release_eq_ok done
    have drops := (balanced.letGo holds).drops zeros live run
    exact ⟨_, by rw [perform, done, Effect.ofFreeing], drops, (discard_shrinks run).edges⟩
  · intro source target refers
    obtain ⟨freeing, done, -⟩ := unlink_balanced balanced zeros refers
    obtain ⟨-, run⟩ := unlink_eq_ok done
    obtain ⟨o, ho⟩ := contains_iff.1 (contains_of_mem_edges refers)
    have live : (ledger.heap.unlinked source target).contains target := by
      have pos := inDegree_pos_iff.2 ⟨source, refers⟩
      rw [unlinked, contains_modify]
      exact balanced.live target (by omega)
    have drops := (balanced.takeOut refers).drops (unlinked_unreferenced zeros) live run
    refine ⟨_, by rw [perform, done, Effect.ofFreeing], drops, fun p survives => ?_⟩
    rw [(discard_shrinks run).edges p survives]
    split
    · rename_i same
      rw [same, edges_unlinked ho]
    · exact edges_modify_of_ne _ ‹_›

attribute [local instance] VisitOrder.ascending

/-- Two objects that nobody holds refer to each other, and both refer to a third, one of
    them twice. When the reference that the second holds to the first is taken out, both
    go, the second as well, although its reference was taken out; the third loses three
    references and keeps the one that is held. To release that one instead frees nothing. -/
theorem letting_go_exact_last_reference :
    ∃ (ledger : Ledger) (F : Finset ObjectId) (effect : Effect), ledger.Disciplined ∧
      ledger.heap = ⟨#[some ⟨1, #[⟨1⟩, ⟨2⟩]⟩, some ⟨1, #[⟨2⟩, ⟨0⟩, ⟨2⟩]⟩, some ⟨4, #[]⟩]⟩ ∧
      ledger.heap.perform (.unlink ⟨1⟩ ⟨0⟩) = .ok effect ∧
      IsLeast {S : Finset ObjectId | ⟨0⟩ ∈ S ∧
        ((ledger.heap.unlinked ⟨1⟩ ⟨0⟩).lowered ⟨0⟩).Absorbing S} F ∧
      effect.response = .freed F.card ∧ F.card = 2 ∧
      effect.heap = ⟨#[none, none, some ⟨1, #[]⟩]⟩ ∧
      ∃ other, ledger.heap.perform (.release ⟨2⟩) = .ok other ∧ other.response = .freed 0 := by
  let calls : List Call :=
    [.allocate, .allocate, .allocate, .link ⟨0⟩ ⟨1⟩, .link ⟨0⟩ ⟨2⟩, .link ⟨1⟩ ⟨2⟩, .link ⟨1⟩ ⟨0⟩,
      .link ⟨1⟩ ⟨2⟩, .release ⟨0⟩, .release ⟨1⟩]
  let graph : Heap := ⟨#[some ⟨1, #[⟨1⟩, ⟨2⟩]⟩, some ⟨1, #[⟨2⟩, ⟨0⟩, ⟨2⟩]⟩, some ⟨4, #[]⟩]⟩
  have view : (empty.play calls).map (fun ledger => (ledger.heap, ledger.held ⟨2⟩)) =
      some (graph, 1) := by cbv
  have after : (graph.perform (.unlink ⟨1⟩ ⟨0⟩)).map (fun e => (e.response, e.heap)) =
      .ok (.freed 2, ⟨#[none, none, some ⟨1, #[]⟩]⟩) := by cbv
  obtain ⟨ledger, played, eq⟩ := Option.map_eq_some_iff.1 view
  obtain ⟨heap, holds⟩ : _ ∧ _ := by simpa only [Prod.mk.injEq] using eq
  have history := Disciplined.empty.play played
  have refers : ⟨0⟩ ∈ ledger.heap.edges ⟨1⟩ := by
    rw [heap]
    decide
  have last : (ledger.heap.unlinked ⟨1⟩ ⟨0⟩).refCount? ⟨0⟩ = some 1 := by
    rw [heap]
    rfl
  have more : ledger.heap.refCount? ⟨2⟩ = some (3 + 1) := by
    rw [heap]
    rfl
  obtain ⟨releases, unlinks⟩ := letting_go_exact history
  obtain ⟨effect, performed, drops, -⟩ := unlinks ⟨1⟩ ⟨0⟩ refers
  obtain ⟨F, least, response, -⟩ := drops.freed last
  obtain ⟨other, released, kept, -⟩ := releases ⟨2⟩ (holds ▸ Nat.one_pos)
  rw [← heap, performed] at after
  obtain ⟨answer, left⟩ : _ ∧ _ := by simpa only [Prod.mk.injEq] using Except.ok.inj after
  exact ⟨ledger, F, effect, history, heap, performed, least, response,
    Response.freed.inj (response.symm.trans answer), left, other, released,
    (kept.kept 3 more (by decide)).1⟩

end Ledger

end RefCycle.Heap
