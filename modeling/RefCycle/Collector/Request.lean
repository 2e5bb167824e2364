import RefCycle.Collector.Operations
/-!
# Requests to a collector

The operations of a collector as data, and one function that carries out any of
them.

## Main definitions

* `Collector.Request` — a call to a collector.
* `Collector.Response` — its answer.
* `CollectedHeap.perform` — carries out a request.
-/

namespace RefCycle

namespace Collector

/-- A call to a collector. -/
inductive Request where
  | addWorker (worker : WorkerId)
  | removeWorker (worker : WorkerId)
  | schedule
  | collect
  | rendezvous (worker : WorkerId) (now : Instant)
  deriving DecidableEq

/-- The answer to a call. -/
inductive Response where
  | done
  /-- The worker is removed, and the calls of these workers have returned. -/
  | removed (released : List WorkerId)
  | reclaimed (count : Nat)
  | rendezvous (rendezvous : Rendezvous)
  deriving DecidableEq

end Collector

namespace CollectedHeap

variable {H : Type} [Reclaimable H]

def perform (s : CollectedHeap H) :
    Collector.Request → Attempt (CollectedHeap H) (Except Misuse Collector.Response)
  | .addWorker worker => Attempt.map (fun _ => .ok .done) (.ok (s.addWorker worker))
  | .removeWorker worker => (s.removeWorker worker).map (Except.map .removed)
  | .schedule => Attempt.map (fun _ => .ok .done) (.ok s.schedule)
  | .collect => s.collect.map fun count => .ok (.reclaimed count)
  | .rendezvous worker now => (s.rendezvous worker now).map (Except.map .rendezvous)

end CollectedHeap

end RefCycle
