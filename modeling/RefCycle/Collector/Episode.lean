import RefCycle.Collector.Pass
/-!
# Episodes

An episode is what happens while every worker is stopped at a rendezvous: the
pending snapshot is consumed, if a collection is wanted, and then the heap is
scanned for new candidates, if a scan is wanted. The order matters, because a
scan only takes place where no snapshot is pending.

## Main definitions

* `CollectedHeap.scan` — runs the detector and captures what it finds.
* `CollectedHeap.runEpisode` — one episode.
-/

namespace RefCycle.CollectedHeap

variable {H : Type} [Reclaimable H]

/-- Counts and announces an episode. -/
def openEpisode (s : CollectedHeap H) : Except Fault (Outcome (CollectedHeap H) Unit) := do
  let statistics ← s.collector.statistics.record { Statistics.zero with episodes := 1 }
  return {
    answer := ()
    state := s.modifyCollector ({ · with statistics })
    trace := [.collector (.episode s.collector.workers.alive s.collector.pending)] }

/-- Consumes the pending snapshot, if a collection is wanted. -/
def collectIfPending (s : CollectedHeap H) : Attempt (CollectedHeap H) Unit :=
  if s.collector.pending.collection then s.collect.map fun _ => () else .done () s

/-- Runs the detector. Candidates that still have a count become the pending
    snapshot; if there are none, the scan was empty. -/
def scan (s : CollectedHeap H) : Except Fault (Outcome (CollectedHeap H) Unit) := do
  let detection := Reclaimable.detect s.heap
  let candidates := detection.candidates.getD []
  let asked := detection.records.map .heap ++
    .consulted (.detect detection.candidates) :: candidates.map (countOf s.heap)
  match Snapshot.capture (Reclaimable.refCount? s.heap) candidates with
  | some snapshot =>
    let statistics ← s.collector.statistics.record { Statistics.zero with scans := 1 }
    return {
      answer := ()
      state := s.modifyCollector fun c =>
        { c with
          snapshot := some snapshot
          pending := { c.pending with scan := false, collection := true }
          statistics }
      trace := asked ++ [.collector (.captured snapshot.len)] }
  | none =>
    let statistics ← s.collector.statistics.record
      { Statistics.zero with scans := 1, emptyScans := 1 }
    return {
      answer := ()
      state := s.modifyCollector fun c =>
        { c with pending := { c.pending with scan := false }, statistics }
      trace := asked ++ [.collector .foundNothing] }

/-- Runs the detector, if a scan is wanted and no snapshot is pending. -/
def scanIfPending (s : CollectedHeap H) : Attempt (CollectedHeap H) Unit :=
  if s.collector.pending.scan ∧ s.collector.snapshot.isNone then s.scan else .done () s

/-- Does the work for which all workers were stopped. -/
def runEpisode (s : CollectedHeap H) : Attempt (CollectedHeap H) Unit :=
  Attempt.andThen s.openEpisode fun _ s => s.collectIfPending.andThen fun _ s => s.scanIfPending

end RefCycle.CollectedHeap
