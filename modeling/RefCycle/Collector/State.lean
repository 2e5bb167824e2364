import RefCycle.Outcome
import RefCycle.Scheduler
import RefCycle.Snapshot
import RefCycle.Workers
import RefCycle.Reclaimable
/-!
# The state of a collector

A collector watches over the workers that share a heap. It counts them, counts
those that have arrived at a rendezvous, and remembers what it has decided to do
and what its last scan captured. A call that waits at a rendezvous for others is
kept in the state, in the order of arrival, until it returns.

## Main definitions

* `RefCycle.Collector` — the state.
* `RefCycle.CollectedHeap` — a collector together with its heap; the operations
  of a collector are operations on this pair.
* `CollectedHeap.modifyCollector`, `CollectedHeap.setPending` — elementary updates.

## Design notes

Every operation runs under one lock, from its start to its end or to the moment
when it waits. Waiting gives up the lock; so between operations, the calls that
are at a rendezvous are exactly those that wait there, and `parked` lists them.
-/

namespace RefCycle

/-- The state of a collector. -/
structure Collector where
  config : Config
  workers : Workers
  /-- The number of calls that have arrived at a rendezvous and not left it. -/
  arrivals : Nat
  pending : PendingWork
  scheduler : Scheduler
  /-- What the last scan captured, until a pass consumes it. -/
  snapshot : Option Snapshot
  statistics : Statistics
  /-- The workers whose calls wait at the rendezvous, in the order of arrival. -/
  parked : List WorkerId

/-- A collector that has not done anything, created at a given time. -/
def Collector.create (config : Config) (now : Instant) : Collector where
  config := config
  workers := .none
  arrivals := 0
  pending := .empty
  scheduler := .create config now
  snapshot := none
  statistics := .zero
  parked := []

/-- A heap and the collector that reclaims cycles from it. -/
structure CollectedHeap (H : Type) where
  heap : H
  collector : Collector

namespace CollectedHeap

variable {H : Type}

/-- Changes the collector and leaves the heap. -/
def modifyCollector (s : CollectedHeap H) (f : Collector → Collector) : CollectedHeap H :=
  { s with collector := f s.collector }

def setPending (s : CollectedHeap H) (pending : PendingWork) : CollectedHeap H :=
  s.modifyCollector ({ · with pending })

end CollectedHeap

end RefCycle
