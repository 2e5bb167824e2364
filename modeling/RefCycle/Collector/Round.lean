import RefCycle.Collector.Request
/-!
# Rounds

A full collection on request: a rendezvous is scheduled, as many calls come to it
as there are workers, and then the pending snapshot is collected.

## Main definitions

* `Collector.round` — the requests of a round, by the calls that come to its rendezvous.
* `Collector.Returned` — the answers to a round of which all calls have returned.
* `CollectedHeap.performAll`, `CollectedHeap.performRounds` — carry out requests,
  and rounds, one after another.
-/

namespace RefCycle

namespace Collector

/-- The requests of a round. Each call has a worker, and a reading of the clock. -/
def round (callers : List (WorkerId × Instant)) : List Request :=
  .schedule :: (callers.map (fun caller => .rendezvous caller.1 caller.2) ++ [.collect])

/-- The answers to a round of which all calls have returned: those that had to wait did
    so together with the last, which completed the rendezvous. -/
def Returned (callers : List (WorkerId × Instant)) (answers : List (Except Misuse Response)) :
    Prop :=
  ∃ reclaimed, answers =
    .ok .done :: (callers.dropLast.map (fun _ => .ok (.rendezvous ⟨.waiting, []⟩)) ++
      [.ok (.rendezvous ⟨.completed, callers.dropLast.map Prod.fst⟩), .ok (.reclaimed reclaimed)])

end Collector

namespace CollectedHeap

variable {H : Type} [Reclaimable H]

/-- Carries out requests one after another, and answers all of their answers. -/
def performAll (s : CollectedHeap H) :
    List Collector.Request → Attempt (CollectedHeap H) (List (Except Misuse Collector.Response))
  | [] => .done [] s
  | request :: requests =>
    (s.perform request).andThen fun answer s =>
      (s.performAll requests).map fun answers => answer :: answers

/-- Carries out rounds one after another, and answers the answers to each of them. -/
def performRounds (s : CollectedHeap H) :
    List (List (WorkerId × Instant)) →
      Attempt (CollectedHeap H) (List (List (Except Misuse Collector.Response)))
  | [] => .done [] s
  | callers :: rounds =>
    (s.performAll (Collector.round callers)).andThen fun answers s =>
      (s.performRounds rounds).map fun rest => answers :: rest

end CollectedHeap

end RefCycle
