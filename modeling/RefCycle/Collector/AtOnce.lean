import RefCycle.Collector.Operations
/-!
# The barrier in one step

When calls that wait are woken, they take the lock one after another, in an order that
nobody decides, and each looks again whether it may return. The operations of a
collector take them in the order of arrival. Here they are taken in any order; and
beside that stands a rule that settles in one step what becomes of all of them.

## Main definitions

* `RefCycle.WakeOrder` — an order in which calls that wait take the lock.
* `CollectedHeap.removeWorkerBy`, `CollectedHeap.rendezvousBy` — the operations that wake
  calls, where these take the lock in a given order.
* `CollectedHeap.gatherBy` — arrivals one after another.
* `CollectedHeap.meetAtOnce` — the rule.
* `CollectedHeap.removeWorkerAtOnce`, `CollectedHeap.rendezvousAtOnce` — the operations by
  the rule.
-/

namespace RefCycle

/-- An order in which calls that wait take the lock when they are woken: some
    rearrangement of every list of calls. -/
structure WakeOrder where
  arrange : List WorkerId → List WorkerId
  perm (calls : List WorkerId) : (arrange calls).Perm calls

namespace WakeOrder

/-- The order in which the calls arrived. -/
def byArrival : WakeOrder :=
  ⟨id, fun calls => .refl calls⟩

/-- The call that arrived last comes first. -/
def byReversal : WakeOrder :=
  ⟨List.reverse, List.reverse_perm⟩

end WakeOrder

/-- The workers whose calls have returned, where the call of a given worker has been
    made. -/
def Rendezvous.returned (worker : WorkerId) (rendezvous : Rendezvous) : List WorkerId :=
  if rendezvous.passage = .waiting then rendezvous.released else worker :: rendezvous.released

namespace CollectedHeap

variable {H : Type} [Reclaimable H]

/-! ### Woken calls in any order -/

/-- Removes a worker, and the calls that wait come to the barrier in a given order. -/
def removeWorkerBy (order : WakeOrder) (worker : WorkerId) (s : CollectedHeap H) :
    Attempt (CollectedHeap H) (Except Misuse (List WorkerId)) :=
  (s.deregister worker).andThen fun answer s =>
    match answer with
    | .error misuse => .done (.error misuse) s
    | .ok () => (wake (order.arrange s.collector.parked) s).map .ok

/-- What follows when a call has come to the barrier: if it has completed a rendezvous,
    the calls that wait come to the barrier in a given order. -/
def followBy (order : WakeOrder) :
    Except Misuse Passage → CollectedHeap H → Attempt (CollectedHeap H) (Except Misuse Rendezvous)
  | .error misuse, s => .done (.error misuse) s
  | .ok .completed, s =>
    (wake (order.arrange s.collector.parked) s).map fun released => .ok ⟨.completed, released⟩
  | .ok passage, s => .done (.ok ⟨passage, []⟩) s

/-- A safepoint of a worker. If its call completes a rendezvous, the calls that wait
    come to the barrier in a given order. -/
def rendezvousBy (order : WakeOrder) (worker : WorkerId) (now : Instant) (s : CollectedHeap H) :
    Attempt (CollectedHeap H) (Except Misuse Rendezvous) :=
  (s.arrive worker now).andThen (followBy order)

theorem removeWorkerBy_byArrival (worker : WorkerId) (s : CollectedHeap H) :
    s.removeWorkerBy .byArrival worker = s.removeWorker worker :=
  rfl

theorem rendezvousBy_byArrival (worker : WorkerId) (now : Instant) (s : CollectedHeap H) :
    s.rendezvousBy .byArrival worker now = s.rendezvous worker now := by
  unfold rendezvousBy rendezvous
  congr 1
  funext answer t
  match answer with
  | .error misuse => rfl
  | .ok .passed => rfl
  | .ok .waiting => rfl
  | .ok .completed => rfl

/-- Calls arrive one after another, each with its worker and its reading of the clock. -/
def gatherBy (order : WakeOrder) :
    List (WorkerId × Instant) → CollectedHeap H →
      Attempt (CollectedHeap H) (List (Except Misuse Rendezvous))
  | [], s => .done [] s
  | caller :: callers, s =>
    (s.rendezvousBy order caller.1 caller.2).andThen fun answer s =>
      (gatherBy order callers s).map fun answers => answer :: answers

/-! ### All calls at once -/

/-- The request is met, all calls that waited have returned, and so many arrivals
    stay counted. -/
def dispersed (arrivals : Nat) (s : CollectedHeap H) : CollectedHeap H :=
  s.modifyCollector fun c =>
    { c with pending := { c.pending with rendezvous := false }, arrivals, parked := [] }

/-- What becomes of all calls that wait: if a rendezvous is requested and everyone has
    arrived, one episode runs and all return, and take their arrivals with them;
    otherwise all go on waiting. Answers which have returned. -/
def meetAtOnce (s : CollectedHeap H) : Attempt (CollectedHeap H) (List WorkerId) :=
  if s.collector.pending.rendezvous ∧ s.collector.workers.alive ≤ s.collector.arrivals then
    s.runEpisode.andThen fun _ s =>
      .done s.collector.parked
        (s.dispersed (s.collector.arrivals - s.collector.parked.length))
  else .done [] s

/-- Removes a worker, and settles at once what becomes of the calls that wait. -/
def removeWorkerAtOnce (worker : WorkerId) (s : CollectedHeap H) :
    Attempt (CollectedHeap H) (Except Misuse (List WorkerId)) :=
  (s.deregister worker).andThen fun answer s =>
    match answer with
    | .error misuse => .done (.error misuse) s
    | .ok () => s.meetAtOnce.map .ok

/-- A call that has arrived waits with the others if a rendezvous is requested, and
    what becomes of them all is settled at once; otherwise it returns. -/
def joinAtOnce (worker : WorkerId) (s : CollectedHeap H) :
    Attempt (CollectedHeap H) (List WorkerId) :=
  if s.collector.pending.rendezvous then
    (s.modifyCollector fun c => { c with parked := c.parked ++ [worker] }).meetAtOnce
  else (s.leave .passed).map fun _ => [worker]

/-- A safepoint of a worker. Answers which calls have returned, with this one among
    them. -/
def rendezvousAtOnce (worker : WorkerId) (now : Instant) (s : CollectedHeap H) :
    Attempt (CollectedHeap H) (Except Misuse (List WorkerId)) :=
  let arrived := s.modifyCollector fun c => { c with arrivals := c.arrivals + 1 }
  if s.collector.workers.alive < arrived.collector.arrivals then
    .done (.error (.unregisteredArrival worker)) arrived
  else
    (arrived.countSafepoint now).andThen fun _ s =>
      (s.collectAtSafepoint worker).andThen fun _ s => (s.joinAtOnce worker).map .ok

end CollectedHeap

end RefCycle
