import Mathlib
import RefCycle.Proofs.Collector.Conservation
import RefCycle.Proofs.Collector.Round
import RefCycle.Proofs.Heap.GroupRelease
/-!
# What becomes of disqualified candidates

A pass does not hand over a candidate whose count has changed. But what it hands over is
freed with everything that nothing else keeps alive, and a disqualified candidate may be
part of that: it goes if no mutator holds it and all that refers to it goes.

## Main definitions

* `Heap.Takes` — what a pass takes, by the candidates that it confirmed.

## Main statements

* `Tried.takes` — a pass takes a greatest set of confirmed candidates, and a least set with it.
* `Shared.disqualified_survival` — which disqualified candidates a pass leaves alone.
* `Shared.not_kept_of_disqualified` — it does not leave all of them alone.
-/

namespace RefCycle

namespace Heap

variable {h : Heap}

/-- Of the live confirmed candidates the greatest set whose counts are made of references
    among its members is taken, and with it the least set that has every object to which
    only its members refer. -/
structure Takes (h k : Heap) (confirmed : List ObjectId) (C F : Finset ObjectId) : Prop where
  greatest : IsGreatest
    {S : Finset ObjectId | (∀ p ∈ S, p ∈ confirmed ∧ h.contains p) ∧ h.SelfContained S} C
  least : IsLeast {S : Finset ObjectId | C ⊆ S ∧ h.Absorbing S} F
  sheds : h.Sheds k F

/-- Where every object has a reference, none is to be absorbed by the empty set. -/
theorem Unreferenced.absorbing_empty (zeros : h.Unreferenced []) : h.Absorbing ∅ :=
  fun _ uncounted => absurd rfl (zeros.count_ne_zero uncounted)

theorem sheds_empty (h : Heap) : h.Sheds h ∅ :=
  ⟨rfl, by simp, by simp, fun _ _ => rfl, by simp [referencesFrom]⟩

/-- If nothing is confirmed, nothing is taken. -/
theorem Unreferenced.takes_nothing (zeros : h.Unreferenced []) : Takes h h [] ∅ ∅ := by
  refine ⟨⟨⟨by simp, fun p mem => absurd mem (Finset.notMem_empty p)⟩, ?_⟩, ⟨⟨?_, ?_⟩, ?_⟩,
    sheds_empty h⟩
  · rintro S ⟨within, -⟩ p mem
    exact absurd (within p mem).1 List.not_mem_nil
  · exact Finset.empty_subset _
  · exact zeros.absorbing_empty
  · exact fun S _ => Finset.empty_subset S

end Heap

namespace CollectedHeap

variable {h k : Heap} {held : ObjectId → Nat} {snapshot : Snapshot}
  {questions : List Consultation}

/-- A pass takes what only confirmed candidates keep alive. -/
theorem Tried.takes {order : VisitOrder} (tried : Tried h (some snapshot) questions k)
    (balanced : h.Balanced held []) (zeros : h.Unreferenced []) :
    ∃ C F, Heap.Takes h k (snapshot.trialDelete h.refCount?).confirmed C F := by
  cases tried with
  | kept unconfirmed =>
    have unconfirmed : (snapshot.trialDelete h.refCount?).confirmed = [] := unconfirmed
    rw [unconfirmed]
    exact ⟨∅, ∅, zeros.takes_nothing⟩
  | @released _ group reclamation confirmed nonempty run =>
    have confirmed : (snapshot.trialDelete h.refCount?).confirmed = group := confirmed
    obtain ⟨release, run, eq⟩ := releaseGroup_eq_ok run
    obtain ⟨F, least, sheds, -⟩ := Heap.releaseGroup_sheds balanced zeros run
    rw [confirmed, eq]
    exact ⟨_, F, Heap.isGreatest_members_garbage balanced group, least, sheds⟩

end CollectedHeap

namespace Shared

variable {shared : Shared} {lost : Nat} {snapshot : Snapshot} {part : Collector.Section}
  {outcome : Outcome (CollectedHeap Heap) (Except Misuse (Option Passage))}

/-- What becomes of disqualified candidates.

    Whatever workers do, and as long as mutators release only what they hold: a section
    leaves the heap and the pending snapshot as they are, or a pass over the snapshot takes
    the greatest set of confirmed candidates that only refer to each other, and the least
    set of objects that nothing but the taken ones refers to. A disqualified candidate is
    left alone exactly if it is not in the latter, which is so exactly if a mutator holds
    it or something that is left refers to it. What mutators can reach is left as it is. -/
theorem disqualified_survival [VisitOrder] (course : Course lost shared)
    (pending : shared.collector.snapshot = some snapshot)
    (run : shared.state.run part = .ok outcome) :
    (outcome.state.heap = shared.ledger.heap ∧
      outcome.state.collector.snapshot = some snapshot) ∨
    ∃ C F : Finset ObjectId,
      Heap.Takes shared.ledger.heap outcome.state.heap
        (snapshot.trialDelete shared.ledger.heap.refCount?).confirmed C F ∧
      (∀ p ∈ (snapshot.trialDelete shared.ledger.heap.refCount?).disqualified,
        shared.ledger.heap.contains p →
          (outcome.state.heap.contains p ↔ p ∉ F) ∧
          (p ∉ F ↔ 0 < shared.ledger.held p ∨
            ∃ q, outcome.state.heap.contains q ∧ p ∈ shared.ledger.heap.edges q)) ∧
      ∀ p, shared.InReach p → outcome.state.heap.contains p ∧
        outcome.state.heap.edges p = shared.ledger.heap.edges p := by
  have sound := course.sound.1
  have turns := CollectedHeap.turns_of_run run
  have handled := turns.handled course.reached.agrees
  obtain ⟨less, balanced, zeros⟩ := turns.released.kept sound.balanced sound.referenced
  have spared : ∀ p, shared.InReach p → outcome.state.heap.contains p ∧
      outcome.state.heap.edges p = shared.ledger.heap.edges p :=
    fun p reach => reach.survives less balanced
  suffices taken : (outcome.state.heap = shared.ledger.heap ∧
      outcome.state.collector.snapshot = some snapshot) ∨
      ∃ C F, Heap.Takes shared.ledger.heap outcome.state.heap
        (snapshot.trialDelete shared.ledger.heap.refCount?).confirmed C F by
    refine taken.imp_right ?_
    rintro ⟨C, F, takes⟩
    refine ⟨C, F, takes, fun p _ live => ?_, spared⟩
    have left : outcome.state.heap.contains p ↔ p ∉ F :=
      (takes.sheds.remains_iff p).trans (and_iff_right live)
    exact ⟨left, left.symm.trans (less.survives_iff balanced zeros)⟩
  have here : shared.state.collector.snapshot = some snapshot := pending
  rw [here] at handled
  generalize Trace.consultations outcome.trace = asked at handled
  cases handled with
  | left same kept => exact .inl ⟨same, kept⟩
  | passed tried | replaced tried => exact .inr (tried.takes sound.balanced sound.referenced)

attribute [local instance] VisitOrder.ascending

/-- An orphaned pair and two objects that hang off it are captured. Then one of these gets
    another reference from the pair, and a mutator gets hold of the other. The pass takes
    the pair and the former, and leaves the latter. -/
theorem course_diverged :
    ∃ (shared : Shared) (snapshot : Snapshot)
      (outcome : Outcome (CollectedHeap Heap) (Except Misuse (Option Passage))),
      Course 0 shared ∧ shared.collector.snapshot = some snapshot ∧
      snapshot.trialDelete shared.ledger.heap.refCount? = ⟨[⟨0⟩, ⟨1⟩], [⟨2⟩, ⟨3⟩]⟩ ∧
      shared.ledger.heap = ⟨#[some ⟨1, #[⟨1⟩, ⟨2⟩]⟩, some ⟨1, #[⟨0⟩, ⟨2⟩, ⟨2⟩, ⟨3⟩]⟩,
        some ⟨3, #[]⟩, some ⟨2, #[]⟩]⟩ ∧
      0 < shared.ledger.held ⟨3⟩ ∧ shared.state.run .collect = .ok outcome ∧
      outcome.state.heap = ⟨#[none, none, none, some ⟨1, #[]⟩]⟩ := by
  let calls : List Heap.Call :=
    [.allocate, .allocate, .allocate, .allocate, .link ⟨0⟩ ⟨1⟩, .link ⟨1⟩ ⟨0⟩, .link ⟨1⟩ ⟨2⟩,
      .link ⟨1⟩ ⟨2⟩, .link ⟨1⟩ ⟨3⟩, .release ⟨0⟩, .release ⟨1⟩, .release ⟨2⟩, .release ⟨3⟩]
  let worker : WorkerId := ⟨1, by decide⟩
  let parts : List Collector.Section := [.addWorker worker, .schedule, .arrive worker .zero]
  let graph : Heap := ⟨#[some ⟨1, #[⟨1⟩]⟩, some ⟨1, #[⟨0⟩, ⟨2⟩, ⟨2⟩, ⟨3⟩]⟩, some ⟨2, #[]⟩,
    some ⟨1, #[]⟩]⟩
  let linked : Heap := ⟨#[some ⟨1, #[⟨1⟩, ⟨2⟩]⟩, some ⟨1, #[⟨0⟩, ⟨2⟩, ⟨2⟩, ⟨3⟩]⟩,
    some ⟨3, #[]⟩, some ⟨1, #[]⟩]⟩
  let retained : Heap := ⟨#[some ⟨1, #[⟨1⟩, ⟨2⟩]⟩, some ⟨1, #[⟨0⟩, ⟨2⟩, ⟨2⟩, ⟨3⟩]⟩,
    some ⟨3, #[]⟩, some ⟨2, #[]⟩]⟩
  have view : ((Heap.Ledger.empty.play calls).bind fun ledger =>
      (Shared.mk ledger (.create .default .zero)).play parts).map (fun shared =>
        (shared.ledger.heap, shared.state.gate,
          shared.collector.snapshot.map (·.trialDelete retained.refCount?),
          Except.map (fun outcome => outcome.state.heap)
            (CollectedHeap.run ⟨retained, shared.collector⟩ .collect))) =
      some (graph, ⟨1, 0, false, [], 1⟩, some ⟨[⟨0⟩, ⟨1⟩], [⟨2⟩, ⟨3⟩]⟩,
        .ok ⟨#[none, none, none, some ⟨1, #[]⟩]⟩) := by cbv
  obtain ⟨shared, played, eq⟩ := Option.map_eq_some_iff.1 view
  obtain ⟨ledger, called, ran⟩ := Option.bind_eq_some_iff.1 played
  obtain ⟨heap, gate, trial, collects⟩ : _ ∧ _ ∧ _ ∧ _ := by simpa only [Prod.mk.injEq] using eq
  obtain ⟨lost, course⟩ := (Course.created (Heap.Ledger.Disciplined.empty.play called) .default
    .zero).play ran
  have course : Course 0 shared := course.none_lost
    ((congrArg Gate.arrivals gate).trans (congrArg (List.length ∘ Gate.parked) gate).symm)
  have performed : graph.perform (.link ⟨0⟩ ⟨2⟩) = .ok ⟨.done, linked, []⟩ := by cbv
  have performed' : linked.perform (.retain ⟨3⟩) = .ok ⟨.done, retained, []⟩ := by cbv
  rw [← heap] at performed
  let final := (shared.afterCall (.link ⟨0⟩ ⟨2⟩) ⟨.done, linked, []⟩).afterCall (.retain ⟨3⟩)
    ⟨.done, retained, []⟩
  have later : Course 0 final :=
    (course.called (.link ⟨0⟩ ⟨2⟩) trivial performed).called (.retain ⟨3⟩) trivial performed'
  have state : final.state = ⟨retained, shared.collector⟩ := rfl
  have holds : 0 < final.ledger.held ⟨3⟩ := Nat.succ_pos (shared.ledger.held ⟨3⟩)
  obtain ⟨snapshot, pending, trial⟩ := Option.map_eq_some_iff.1 trial
  cases run : CollectedHeap.run ⟨retained, shared.collector⟩ .collect with
  | error fault => simp [run, Except.map] at collects
  | ok outcome =>
    rw [run] at collects
    exact ⟨final, snapshot, outcome, later, pending, trial, rfl, holds, state ▸ run,
      Except.ok.inj collects⟩

/-- The object that a mutator got hold of is left, as it was disqualified and is held. -/
theorem disqualified_survival_retained :
    ∃ (shared : Shared) (snapshot : Snapshot)
      (outcome : Outcome (CollectedHeap Heap) (Except Misuse (Option Passage))),
      Course 0 shared ∧ shared.collector.snapshot = some snapshot ∧
      shared.state.run .collect = .ok outcome ∧
      ⟨3⟩ ∈ (snapshot.trialDelete shared.ledger.heap.refCount?).disqualified ∧
      outcome.state.heap.contains ⟨3⟩ := by
  obtain ⟨shared, snapshot, outcome, course, pending, trial, heap, holds, run, -⟩ := course_diverged
  have mem : ⟨3⟩ ∈ (snapshot.trialDelete shared.ledger.heap.refCount?).disqualified := by
    rw [trial]
    decide
  have live : shared.ledger.heap.contains ⟨3⟩ := by
    rw [heap]
    rfl
  refine ⟨shared, snapshot, outcome, course, pending, run, mem, ?_⟩
  obtain ⟨same, -⟩ | ⟨C, F, -, survives, -⟩ := disqualified_survival course pending run
  · rwa [same]
  · obtain ⟨left, spared⟩ := survives ⟨3⟩ mem live
    exact left.2 (spared.2 (.inl holds))

/-- A pass does not leave all disqualified candidates alone: the object that got another
    reference goes with the pair, though its count has changed. -/
theorem not_kept_of_disqualified :
    ¬∀ (lost : Nat) (shared : Shared) (snapshot : Snapshot)
      (outcome : Outcome (CollectedHeap Heap) (Except Misuse (Option Passage))),
      Course lost shared → shared.collector.snapshot = some snapshot →
      shared.state.run .collect = .ok outcome →
      ∀ p ∈ (snapshot.trialDelete shared.ledger.heap.refCount?).disqualified,
        shared.ledger.heap.contains p → outcome.state.heap.contains p := by
  intro law
  obtain ⟨shared, snapshot, outcome, course, pending, trial, heap, -, run, left⟩ := course_diverged
  have kept := law 0 shared snapshot outcome course pending run ⟨2⟩
  rw [trial, heap, left] at kept
  exact absurd (kept (by decide) rfl) (by decide)

end Shared

end RefCycle
