import RefCycle.Collector.Barrier
/-!
# Operations of a collector

The operations that workers call. Each is taken with all of its consequences:
when it wakes the calls that wait at a rendezvous, it ends only after each of
them has come to the barrier once more, in the order of arrival.

## Main definitions

* `CollectedHeap.create` — a new collector for a heap.
* `CollectedHeap.addWorker`, `CollectedHeap.removeWorker` — registration.
* `CollectedHeap.schedule` — requests a rendezvous.
* `CollectedHeap.rendezvous` — a safepoint.
* `CollectedHeap.collect` is the remaining operation.
-/

namespace RefCycle

/-- What became of a call to a rendezvous. -/
structure Rendezvous where
  passage : Passage
  /-- The earlier calls that waited and have returned with it. -/
  released : List WorkerId
  deriving DecidableEq

namespace CollectedHeap

variable {H : Type} [Reclaimable H]

def create (heap : H) (config : Config) (now : Instant) : Outcome (CollectedHeap H) Unit where
  answer := ()
  state := ⟨heap, .create config now⟩
  trace := [.collector (.created config)]

/-- Lets waiting calls come to the barrier in a given order, and answers which of
    them have returned. -/
def wake : List WorkerId → CollectedHeap H → Attempt (CollectedHeap H) (List WorkerId)
  | [], s => .done [] s
  | worker :: workers, s =>
    (s.resume worker).andThen fun passage s =>
      (wake workers s).map fun released =>
        if passage = .waiting then released else worker :: released

def addWorker (worker : WorkerId) (s : CollectedHeap H) : Outcome (CollectedHeap H) Unit :=
  let workers := s.collector.workers.add worker
  { answer := ()
    state := s.modifyCollector ({ · with workers })
    trace :=
      (if s.collector.workers.first.isNone then [.collector (.firstWorker worker)] else []) ++
      [.collector (.added worker workers.alive)] }

/-- Takes a worker off the register, after a pass over the pending snapshot. -/
def deregister (worker : WorkerId) (s : CollectedHeap H) :
    Attempt (CollectedHeap H) (Except Misuse Unit) :=
  s.collect.andThen fun _ s =>
    match s.collector.workers.alive with
    | 0 => .done (.error (.noWorkerToRemove worker)) s
    | alive + 1 =>
      .ok
        { answer := .ok ()
          state := s.modifyCollector fun c => { c with workers := { c.workers with alive } }
          trace := [.collector (.removed worker alive)] }

/-- Removes a worker and wakes all calls that wait, as the barrier may have been
    waiting for this worker. Answers which calls have returned. -/
def removeWorker (worker : WorkerId) (s : CollectedHeap H) :
    Attempt (CollectedHeap H) (Except Misuse (List WorkerId)) :=
  (s.deregister worker).andThen fun answer s =>
    match answer with
    | .error misuse => .done (.error misuse) s
    | .ok () => (wake s.collector.parked s).map .ok

/-- Requests that the next rendezvous stops all workers, to scan or, if a
    snapshot is pending, to collect it. -/
def schedule (s : CollectedHeap H) : Outcome (CollectedHeap H) Unit :=
  let requested := { s.collector.pending with rendezvous := true }
  let pending :=
    if s.collector.snapshot.isNone then { requested with scan := true }
    else { requested with collection := true }
  { answer := ()
    state := s.setPending pending
    trace := [.collector (.scheduled pending)] }

/-- A safepoint of a worker, where the clock says `now` if it is read. A call that
    completes a rendezvous wakes all calls that wait. -/
def rendezvous (worker : WorkerId) (now : Instant) (s : CollectedHeap H) :
    Attempt (CollectedHeap H) (Except Misuse Rendezvous) :=
  (s.arrive worker now).andThen fun answer s =>
    match answer with
    | .error misuse => .done (.error misuse) s
    | .ok .completed => (wake s.collector.parked s).map fun released => .ok ⟨.completed, released⟩
    | .ok passage => .done (.ok ⟨passage, []⟩) s

end CollectedHeap

end RefCycle
