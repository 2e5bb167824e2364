import Mathlib
import RefCycle.Proofs.Heap.Accounting
/-!
# Sets that keep themselves alive

Counting references never frees an object to which another one refers. So a set in which
every member has a reference from a member stays, as long as nobody takes these
references out and the set is not released as a group; this is what garbage does, and
why it takes a collector to get rid of it.

## Main definitions

* `Heap.Sustained` — live objects to each of which a member of the set refers.
* `Heap.Keeps` — a set is sustained, and has the references that it had.
* `Call.Spares` — a call takes no references out of a set.

## Main statements

* `cascade_sustains`, `discard_sustains` — freeing by count leaves a sustained set alone.
* `Turns.keeps`, `Ledger.play_keeps` — sparing calls leave it with its references.
-/

namespace RefCycle.Heap

variable {h k l : Heap} {held : ObjectId → Nat} {S : ObjectId → Prop}
  {p object source target : ObjectId} {freeing : Freeing} {call : Call} {effect : Effect}

/-- A set of live objects to each of which a member refers. -/
structure Sustained (h : Heap) (S : ObjectId → Prop) : Prop where
  live : ∀ p, S p → h.contains p
  referred : ∀ p, S p → ∃ q, S q ∧ p ∈ h.edges q

/-- A set is sustained, and each member has the references that it had, and maybe more. -/
structure Keeps (h k : Heap) (S : ObjectId → Prop) : Prop where
  sustained : k.Sustained S
  edges : ∀ p, S p → (h.edges p).Sublist (k.edges p)

theorem Keeps.trans (first : Keeps h k S) (second : Keeps k l S) : Keeps h l S where
  sustained := second.sustained
  edges p inside := (first.edges p inside).trans (second.edges p inside)

/-- A set stays sustained if its members stay and have the references that they had. -/
theorem Sustained.keeps (sustained : h.Sustained S) (live : ∀ p, S p → k.contains p)
    (edges : ∀ p, S p → (h.edges p).Sublist (k.edges p)) : Keeps h k S := by
  refine ⟨⟨live, fun p inside => ?_⟩, edges⟩
  obtain ⟨q, member, refers⟩ := sustained.referred p inside
  exact ⟨q, member, (edges q member).subset refers⟩

theorem Sustained.shrinks (sustained : h.Sustained S) (less : Shrinks h k)
    (live : ∀ p, S p → k.contains p) : Keeps h k S := by
  refine sustained.keeps live fun p inside => ?_
  rw [less.edges p (live p inside)]

theorem Sustained.erase (sustained : h.Sustained S) (outside : ¬S object) :
    (h.erase object).Sustained S := by
  refine (sustained.shrinks (shrinks_erase h object) fun p inside => ?_).sustained
  exact contains_erase.2 ⟨fun same => outside (same ▸ inside), sustained.live p inside⟩

theorem Sustained.drop {dead stack targets : List ObjectId} (sustained : h.Sustained S)
    (run : h.dropReferences dead targets = .ok (k, stack)) : k.Sustained S := by
  refine (sustained.shrinks (dropReferences_shrinks run) fun p inside => ?_).sustained
  rw [(contains_dropReferences run).2]
  exact sustained.live p inside

/-- Freeing by count leaves a sustained set alone. -/
theorem cascade_sustains {dead freedRev : List ObjectId} (sustained : h.Sustained S)
    (balanced : h.Balanced held []) (zeros : h.Unreferenced dead)
    (run : h.cascade dead freedRev = .ok freeing) : freeing.heap.Sustained S := by
  fun_induction cascade h dead freedRev with
  | case1 h freedRev =>
    cases run
    exact sustained
  | case2 h freedRev object rest gone ih => exact absurd gone zeros.get?_ne_none
  | case3 => contradiction
  | case4 => contradiction
  | case5 h freedRev object rest o live zero next stack dropped ih =>
    have unreferenced : o.refCount = 0 := by simpa using zero
    -- A member has a reference, so it is not what is freed next.
    have outside : ¬S object := by
      intro inside
      obtain ⟨q, -, refers⟩ := sustained.referred object inside
      have pos := inDegree_pos_iff.2 ⟨q, refers⟩
      have law := balanced.counted object _ (refCount?_of_get? live)
      omega
    obtain ⟨next', stack', done, balanced', zeros'⟩ :=
      dropReferences_balanced (balanced.erase live unreferenced) zeros.erase
    obtain ⟨rfl, rfl⟩ := Prod.mk.inj (Except.ok.inj (done.symm.trans dropped))
    exact ih ((sustained.erase outside).drop dropped) balanced' zeros' run

theorem discard_sustains {due : List ObjectId} (sustained : h.Sustained S)
    (balanced : h.Balanced held due) (zeros : h.Unreferenced [])
    (run : h.discard due = .ok freeing) : Keeps h freeing.heap S := by
  obtain ⟨next, dead, dropped, freed⟩ := discard_eq_ok run
  obtain ⟨next', dead', done, balanced', zeros'⟩ := dropReferences_balanced balanced zeros
  obtain ⟨rfl, rfl⟩ := Prod.mk.inj (Except.ok.inj (done.symm.trans dropped))
  have left := cascade_sustains (sustained.drop dropped) balanced' zeros' freed
  exact sustained.shrinks (discard_shrinks run) left.live

/-! ### Calls -/

/-- A call takes no references out of the objects in a set, nor the objects themselves. -/
def Call.Spares (S : ObjectId → Prop) : Call → Prop
  | .unlink source _ => ¬S source
  | .releaseGroup group => ∀ object ∈ group, ¬S object
  | .allocate | .retain _ | .release _ | .link _ _ | .detect => True

theorem edges_sublist_linked (count : Nat) :
    (h.edges p).Sublist ((h.linked source target count).edges p) := by
  by_cases same : p = source
  · subst same
    cases here : (h.setCount target (count + 1)).get? p with
    | none =>
      have dead : ¬h.contains p := by
        rw [← contains_setCount h target p (count + 1), contains, here]
        decide
      rw [edges_of_not_contains dead]
      exact List.nil_sublist _
    | some o =>
      rw [linked, edges_modify_self _ here, Array.toList_push, ← edges_of_get? here, edges_setCount]
      exact List.sublist_append_left _ _
  · rw [linked, edges_modify_of_ne _ same, edges_setCount]

/-- A sustained set keeps its references under a call that spares it. -/
theorem Turns.keeps {ledger : Ledger} (turns : ledger.heap.Turns call effect)
    (sound : ledger.Sound) (allowed : ledger.Allows call)
    (sustained : ledger.heap.Sustained S) (spares : call.Spares S) :
    Keeps ledger.heap effect.heap S := by
  have same : Keeps ledger.heap ledger.heap S := ⟨sustained, fun _ _ => List.Sublist.refl _⟩
  cases turns with
  | refused | lacking | detected => exact same
  | allocated =>
    have old : ∀ p, S p → p.index ≠ ledger.heap.slots.size := by
      intro p inside
      obtain ⟨o, here⟩ := contains_iff.1 (sustained.live p inside)
      exact Nat.ne_of_lt (index_lt_of_get? here)
    refine sustained.keeps (fun p inside => ?_) fun p inside => ?_
    · exact (contains_push _).2 (.inr (sustained.live p inside))
    · rw [show ledger.heap.allocate.2.edges p = _ from edges_push _, if_neg (old p inside)]
  | retained =>
    refine sustained.keeps (fun p inside => ?_) fun p _ => ?_
    · rw [contains_setCount]
      exact sustained.live p inside
    · rw [edges_setCount]
  | linked =>
    refine sustained.keeps (fun p inside => ?_) fun p _ => edges_sublist_linked _
    rw [Heap.linked, contains_modify, contains_setCount]
    exact sustained.live p inside
  | released live run =>
    exact discard_sustains sustained (sound.balanced.letGo allowed) sound.referenced run
  | @unlinked source target freeing refers run =>
    have kept : Keeps ledger.heap (ledger.heap.unlinked source target) S := by
      refine sustained.keeps (fun p inside => ?_) fun p inside => ?_
      · rw [Heap.unlinked, contains_modify]
        exact sustained.live p inside
      · have other : p ≠ source := by
          rintro rfl
          exact spares inside
        rw [Heap.unlinked, edges_modify_of_ne _ other]
    exact kept.trans (discard_sustains kept.sustained (sound.balanced.takeOut refers)
      (unlinked_unreferenced sound.referenced) run)
  | @freed order group release run =>
    obtain ⟨-, freeing, done, eq, -⟩ := releaseGroup_eq_ok run
    have away : ∀ p, S p → p ∉ release.cyclic := fun p inside mem =>
      spares p (mem_group_of_mem_cyclic run mem) inside
    have kept : Keeps ledger.heap (release.cyclic.foldl Heap.erase ledger.heap) S :=
      sustained.shrinks (shrinks_foldl_erase _ _) fun p inside =>
        contains_foldl_erase.2 ⟨away p inside, sustained.live p inside⟩
    have balanced := sound.balanced.eraseAll (cyclic_nodup run) (cyclic_enclosed sound.balanced run)
    rw [eq]
    exact kept.trans (discard_sustains kept.sustained balanced (sound.referenced.eraseAll _) done)

namespace Ledger

/-- A sustained set keeps its references under any number of calls that spare it. -/
theorem play_keeps {order : VisitOrder} {ledger next : Ledger} {calls : List Call}
    (sound : ledger.Sound) (sustained : ledger.heap.Sustained S)
    (spares : ∀ call ∈ calls, call.Spares S)
    (played : ledger.play calls = some next) : Keeps ledger.heap next.heap S := by
  induction calls generalizing ledger with
  | nil =>
    cases played
    exact ⟨sustained, fun _ _ => List.Sublist.refl _⟩
  | cons call calls ih =>
    rw [Ledger.play] at played
    split at played
    · rename_i allowed
      split at played
      · contradiction
      · rename_i effect performed
        have turns := turns_of_perform performed
        have kept := turns.keeps sound allowed sustained (spares call List.mem_cons_self)
        exact kept.trans (ih (sound.turns allowed turns) kept.sustained
          (fun other mem => spares other (List.mem_cons_of_mem _ mem)) played)
    · contradiction

end Ledger

end RefCycle.Heap
