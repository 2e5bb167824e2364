import RefCycle.Collector.Episode
import RefCycle.Misuse
/-!
# The barrier

A call to a rendezvous runs in sections, between which other calls may run. Its
first section counts its arrival, lets the scheduler and a pending collection
have their turn, and comes to the barrier; a call that waits there comes to the
barrier again in each section that follows. At the barrier a call

* passes if no rendezvous is requested any more,
* waits if one is requested and not everyone has arrived,
* runs the episode if everyone has arrived, clears the request, and passes.

## Main definitions

* `RefCycle.Passage` — which of the three happened.
* `CollectedHeap.barrier` — coming to the barrier.
* `CollectedHeap.arrive`, `CollectedHeap.resume` — the first section of a call,
  and each later one.
-/

namespace RefCycle

/-- What happened to a call that came to the barrier. -/
inductive Passage where
  /-- Nothing was requested, and the call has returned. -/
  | passed
  /-- The call has run the episode and returned; all that wait are to be woken. -/
  | completed
  | waiting
  deriving DecidableEq

namespace CollectedHeap

variable {H : Type} [Reclaimable H]

def leave (passage : Passage) (s : CollectedHeap H) : Attempt (CollectedHeap H) Passage :=
  match s.collector.arrivals with
  | 0 => .error .arrivalUnderflow
  | arrivals + 1 => .done passage (s.modifyCollector ({ · with arrivals }))

def park (worker : WorkerId) (s : CollectedHeap H) : Attempt (CollectedHeap H) Passage :=
  .ok
    { answer := .waiting
      state := s.modifyCollector fun c => { c with parked := c.parked ++ [worker] }
      trace :=
        [.collector (.waiting worker s.collector.arrivals s.collector.workers.alive)] }

/-- Comes to the barrier with all arrivals counted. -/
def barrier (worker : WorkerId) (s : CollectedHeap H) : Attempt (CollectedHeap H) Passage :=
  if s.collector.pending.rendezvous then
    if s.collector.arrivals < s.collector.workers.alive then s.park worker
    else
      s.runEpisode.andThen fun _ s =>
        (s.setPending { s.collector.pending with rendezvous := false }).leave .completed
  else
    s.leave .passed

/-- Counts a safepoint. If a scan is due, a rendezvous is requested for it. -/
def countSafepoint (now : Instant) (s : CollectedHeap H) : Attempt (CollectedHeap H) Unit :=
  let (verdict, scheduler) := s.collector.scheduler.advance now
  let counted := s.modifyCollector ({ · with scheduler })
  if verdict = .due then
    .ok
      { answer := ()
        state := counted.setPending
          { s.collector.pending with rendezvous := true, scan := true }
        trace := [.collector (.scanDue scheduler.tick)] }
  else
    .done () counted

/-- Consumes the pending snapshot at a safepoint, if that is not left to a
    rendezvous. The first worker may be spared. -/
def collectAtSafepoint (worker : WorkerId) (s : CollectedHeap H) :
    Attempt (CollectedHeap H) Unit :=
  if s.collector.pending.collection ∧ ¬s.collector.pending.rendezvous then
    if s.collector.config.spareFirstWorker ∧ s.collector.workers.isFirst worker then
      .ok ⟨(), s, [.collector (.spared worker)]⟩
    else
      s.collect.map fun _ => ()
  else
    .done () s

/-- The first section of a rendezvous call, where the clock says `now` if it is
    read. A call that makes more arrivals than there are workers ends there, and
    its arrival stays counted. -/
def arrive (worker : WorkerId) (now : Instant) (s : CollectedHeap H) :
    Attempt (CollectedHeap H) (Except Misuse Passage) :=
  let arrived := s.modifyCollector fun c => { c with arrivals := c.arrivals + 1 }
  if s.collector.workers.alive < arrived.collector.arrivals then
    .done (.error (.unregisteredArrival worker)) arrived
  else
    (arrived.countSafepoint now).andThen fun _ s =>
      (s.collectAtSafepoint worker).andThen fun _ s =>
        (s.barrier worker).map .ok

/-- A later section of a rendezvous call that waits. -/
def resume (worker : WorkerId) (s : CollectedHeap H) : Attempt (CollectedHeap H) Passage :=
  (s.modifyCollector fun c => { c with parked := c.parked.erase worker }).barrier worker

end CollectedHeap

end RefCycle
