import RefCycle.Collector.State
/-!
# Collection passes

A pass consumes the pending snapshot: it looks up the count of each candidate,
releases those whose counts are unchanged as one group, and leaves the others
alone. Without a snapshot there is nothing to do.

## Main definitions

* `CollectedHeap.releaseConfirmed` — releases a group, unless it is empty.
* `CollectedHeap.consume` — a pass over a given snapshot.
* `CollectedHeap.collect` — a pass over the pending snapshot, if there is one.
-/

namespace RefCycle.CollectedHeap

variable {H : Type} [Reclaimable H]

/-- Releases the confirmed candidates as one group. The heap is not asked for an
    empty group. -/
def releaseConfirmed (heap : H) (confirmed : List ObjectId) : Attempt H Nat :=
  if confirmed = [] then .done 0 heap
  else
    match Reclaimable.releaseGroup heap confirmed with
    | .error fault => .error fault
    | .ok release =>
      .ok
        { answer := release.reclaimed
          state := release.heap
          trace := .consulted (.releaseGroup confirmed release.reclaimed) ::
            release.records.map .heap }

/-- The question for the count of an object, with the answer of a heap. -/
def countOf (heap : H) (object : ObjectId) : Event :=
  .consulted (.count object (Reclaimable.refCount? heap object))

/-- Consumes a snapshot, and answers how many objects were reclaimed. -/
def consume (s : CollectedHeap H) (snapshot : Snapshot) :
    Except Fault (Outcome (CollectedHeap H) Nat) := do
  let trial := snapshot.trialDelete (Reclaimable.refCount? s.heap)
  let release ← releaseConfirmed s.heap trial.confirmed
  let statistics ← s.collector.statistics.record
    { Statistics.zero with
      collections := 1
      reclaimed := release.answer
      disqualified := trial.disqualified.length }
  return {
    answer := release.answer
    state :=
      { heap := release.state
        collector :=
          { s.collector with
            snapshot := none
            pending := { s.collector.pending with collection := false }
            statistics } }
    trace :=
      snapshot.roots.map (countOf s.heap) ++
      trial.disqualified.map (fun object => .collector (.changed object)) ++
      release.trace ++
      [.collector (.collected snapshot.len trial.confirmed.length trial.disqualified.length
        release.answer)] }

/-- Consumes the pending snapshot, if there is one, and answers how many objects
    were reclaimed. -/
def collect (s : CollectedHeap H) : Attempt (CollectedHeap H) Nat :=
  match s.collector.snapshot with
  | none => .done 0 s
  | some snapshot => s.consume snapshot

end RefCycle.CollectedHeap
