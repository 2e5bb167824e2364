import RefCycle.Collector.Interleaving
import RefCycle.Heap.History
import RefCycle.Heap.Reachability
/-!
# Sharing a heap with a collector

Mutators make calls to a heap, and a collector works on it, section by section,
in any order. Mutators let go only of references that they hold; and while a
snapshot is pending, they only get at objects along references, starting from
those that they hold. About workers nothing is assumed.

## Main definitions

* `RefCycle.Shared` — a heap with its books, and the collector.
* `Shared.Allows`, `Shared.Enabled` — the calls and sections that may come next.
* `Shared.Run` — calls and sections in any order, from a new collector on.
* `Shared.play` — runs sections in order.
* `CollectedHeap.Quiet`, `CollectedHeap.Passed` — a section without a pass, and with one.

## Main statements

* `Shared.Run.play` — playing sections goes on with a run.
-/

namespace RefCycle

/-- A heap that mutators share with a collector. -/
structure Shared where
  ledger : Heap.Ledger
  collector : Collector

namespace Shared

def state (shared : Shared) : CollectedHeap Heap :=
  ⟨shared.ledger.heap, shared.collector⟩

/-- Whether an object can be reached from one that a mutator holds. -/
def InReach (shared : Shared) : ObjectId → Prop :=
  shared.ledger.heap.Reachable fun object => 0 < shared.ledger.held object

/-- A mutator may make a call that the books allow; while a snapshot is pending, it
    names only objects that are in reach. -/
def Allows (shared : Shared) (call : Heap.Call) : Prop :=
  shared.ledger.Allows call ∧
    (shared.collector.snapshot ≠ none → ∀ object ∈ call.names, shared.InReach object)

/-- Any section may run, except that only a call which waits comes to the barrier again. -/
def Enabled (shared : Shared) (part : Collector.Section) : Prop :=
  ∀ worker, part = .resume worker → worker ∈ shared.collector.parked

instance (shared : Shared) (part : Collector.Section) : Decidable (shared.Enabled part) :=
  match part with
  | .resume worker => decidable_of_iff (worker ∈ shared.collector.parked)
      ⟨fun waits _ eq => Collector.Section.resume.inj eq ▸ waits, fun enabled => enabled worker rfl⟩
  | .addWorker _ | .removeWorker _ | .schedule | .collect | .arrive _ _ =>
    .isTrue fun _ eq => nomatch eq

def afterCall (shared : Shared) (call : Heap.Call) (effect : Heap.Effect) : Shared :=
  { shared with ledger := shared.ledger.after call effect }

/-- After a section. The collector takes no references and gives none. -/
def afterSection (shared : Shared) (state : CollectedHeap Heap) : Shared :=
  ⟨{ shared.ledger with heap := state.heap }, state.collector⟩

/-- Calls and sections ran in some order. -/
inductive Run : Shared → Prop where
  | created {ledger : Heap.Ledger} (history : ledger.Disciplined) (config : Config)
      (now : Instant) : Run ⟨ledger, .create config now⟩
  | called [VisitOrder] {shared : Shared} {effect : Heap.Effect} (run : Run shared)
      (call : Heap.Call) (allowed : shared.Allows call)
      (performed : shared.ledger.heap.perform call = .ok effect) :
      Run (shared.afterCall call effect)
  | ran [VisitOrder] {shared : Shared}
      {outcome : Outcome (CollectedHeap Heap) (Except Misuse (Option Passage))}
      (run : Run shared) (part : Collector.Section) (enabled : shared.Enabled part)
      (performed : shared.state.run part = .ok outcome) : Run (shared.afterSection outcome.state)

/-- Runs sections in order, as long as each is enabled and meets no fault. -/
def play [VisitOrder] (shared : Shared) : List Collector.Section → Option Shared
  | [] => some shared
  | part :: parts =>
    if shared.Enabled part then
      match shared.state.run part with
      | .error _ => none
      | .ok outcome => (shared.afterSection outcome.state).play parts
    else none

/-- Playing sections goes on with a run. -/
theorem Run.play {order : VisitOrder} {shared next : Shared} {parts : List Collector.Section}
    (run : Run shared) (played : shared.play parts = some next) : Run next := by
  induction parts generalizing shared with
  | nil =>
    cases played
    exact run
  | cons part parts ih =>
    rw [Shared.play] at played
    split at played
    · split at played
      · contradiction
      · exact ih (run.ran part ‹_› ‹_›) played
    · contradiction

end Shared

namespace CollectedHeap

/-- No pass took place: the heap and a pending snapshot are as they were. -/
structure Quiet (s t : CollectedHeap Heap) : Prop where
  heap : t.heap = s.heap
  snapshot : s.collector.snapshot ≠ none → t.collector.snapshot = s.collector.snapshot
  collections : t.collector.statistics.collections = s.collector.statistics.collections
  reclaimed : t.collector.statistics.reclaimed = s.collector.statistics.reclaimed
  disqualified : t.collector.statistics.disqualified = s.collector.statistics.disqualified

/-- One pass took place, over a given snapshot, and all went as it should: each
    candidate had its captured count and was reclaimed, and what mutators can get
    at is untouched. -/
structure Passed (held : ObjectId → Nat) (snapshot : Snapshot) (s t : CollectedHeap Heap) :
    Prop where
  captured : ∀ entry ∈ snapshot.entries, s.heap.refCount? entry.1 = some entry.2
  collections : t.collector.statistics.collections = s.collector.statistics.collections + 1
  /-- At least the candidates were reclaimed. -/
  reclaimed :
    s.collector.statistics.reclaimed + snapshot.len ≤ t.collector.statistics.reclaimed
  disqualified : t.collector.statistics.disqualified = s.collector.statistics.disqualified
  freed : ∀ object ∈ snapshot.roots, ¬t.heap.contains object
  /-- What can be reached from a held object is live and has its references. -/
  spared : ∀ object, s.heap.Reachable (fun q => 0 < held q) object →
    t.heap.contains object ∧ t.heap.edges object = s.heap.edges object

end CollectedHeap

end RefCycle
