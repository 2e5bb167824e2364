import RefCycle.Collector.Sharing
/-!
# Courses

Which states of a collector come about when workers keep to no rules: sections of
calls run in any order, and arrivals may be lost to misuse. What mutators do to the
heap in between is left open, or they only have to release what they hold.

## Main definitions

* `CollectedHeap.Enabled` — only a call that waits comes to the barrier again.
* `CollectedHeap.Reached` — any sections ran, and the heap changed in any way.
* `Collector.lostArrivals` — whether an arrival stays counted for ever.
* `Shared.Course` — disciplined calls and any sections ran, and so many arrivals were lost.

## Main statements

* `Shared.Course.reached` — the collector of a course is reached.
* `Shared.Course.play` — playing sections goes on with a course.
-/

namespace RefCycle

/-- How many arrivals a rendezvous call leaves counted for ever, by its answer. -/
def Collector.lostArrivals {α : Type} : Except Misuse α → Nat
  | .error (.unregisteredArrival _) => 1
  | _ => 0

namespace CollectedHeap

variable {H : Type} [Reclaimable H]

/-- Any section may run, except that only a call which waits comes to the barrier again. -/
def Enabled (s : CollectedHeap H) (part : Collector.Section) : Prop :=
  ∀ worker, part = .resume worker → worker ∈ s.collector.parked

/-- A state comes about from a new collector by any enabled sections, between which
    the heap may change in any way. -/
inductive Reached : CollectedHeap H → Prop where
  | created (heap : H) (config : Config) (now : Instant) :
      Reached (create heap config now).state
  | ran {s : CollectedHeap H}
      {outcome : Outcome (CollectedHeap H) (Except Misuse (Option Passage))}
      (history : Reached s) (part : Collector.Section) (enabled : s.Enabled part)
      (performed : s.run part = .ok outcome) : Reached outcome.state
  | mutated {s : CollectedHeap H} (history : Reached s) (heap : H) : Reached { s with heap }

end CollectedHeap

namespace Shared

/-- Disciplined calls and enabled sections ran in some order, and so many arrivals
    were lost. Mutators may name any object, also while a snapshot is pending. -/
inductive Course [VisitOrder] : Nat → Shared → Prop where
  | created {ledger : Heap.Ledger} (history : ledger.Disciplined) (config : Config)
      (now : Instant) : Course 0 ⟨ledger, .create config now⟩
  | called {lost : Nat} {shared : Shared} {effect : Heap.Effect} (course : Course lost shared)
      (call : Heap.Call) (allowed : shared.ledger.Allows call)
      (performed : shared.ledger.heap.perform call = .ok effect) :
      Course lost (shared.afterCall call effect)
  | ran {lost : Nat} {shared : Shared}
      {outcome : Outcome (CollectedHeap Heap) (Except Misuse (Option Passage))}
      (course : Course lost shared) (part : Collector.Section)
      (enabled : shared.state.Enabled part) (performed : shared.state.run part = .ok outcome) :
      Course (lost + Collector.lostArrivals outcome.answer) (shared.afterSection outcome.state)

/-- The collector of a course is reached, as mutators may do anything there. -/
theorem Course.reached [VisitOrder] {lost : Nat} {shared : Shared} (course : Course lost shared) :
    shared.state.Reached := by
  induction course with
  | created history config now => exact .created _ config now
  | called course call allowed performed ih => exact ih.mutated _
  | ran course part enabled performed ih => exact ih.ran part enabled performed

/-- Playing sections goes on with a course. -/
theorem Course.play [VisitOrder] {lost : Nat} {shared next : Shared}
    {parts : List Collector.Section} (course : Course lost shared)
    (played : shared.play parts = some next) : ∃ more, Course (lost + more) next := by
  induction parts generalizing lost shared with
  | nil =>
    cases played
    exact ⟨0, course⟩
  | cons part parts ih =>
    rw [Shared.play] at played
    split at played
    · split at played
      · contradiction
      · obtain ⟨more, course⟩ := ih (course.ran part ‹_› ‹_›) played
        exact ⟨_, Nat.add_assoc .. ▸ course⟩
    · contradiction

end Shared

end RefCycle
