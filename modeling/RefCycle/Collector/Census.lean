import RefCycle.Collector.Chronicle
/-!
# Counting objects

An account of the objects of a heap, kept from outside: how many were allocated, and
how many were freed by the word of those who freed them. Mutators make any calls and
sections of a collector run in any order; about neither is anything assumed.

## Main definitions

* `Heap.Effect.freed`, `Trace.freed` — the objects that were reported as freed, in order.
* `RefCycle.Census` — a collected heap with its account.
* `Census.Run` — calls and sections in any order, from an empty heap on.
* `Census.play` — makes calls and runs sections in order.

## Main statements

* `Census.Run.play` — playing calls and sections goes on with a run.

## Design notes

To create a collector does not involve the heap, so nothing is left out by creating it
before the first call.
-/

namespace RefCycle

namespace Heap

/-- How many objects a call allocated. -/
def Response.allocations : Response → Nat
  | .allocated _ => 1
  | .done | .freed _ | .candidates _ | .refused _ => 0

/-- How many objects a call freed, as it answered. -/
def Response.freedCount : Response → Nat
  | .freed count => count
  | .done | .allocated _ | .candidates _ | .refused _ => 0

def Effect.freed (effect : Effect) : List ObjectId :=
  effect.records.filterMap Record.freed?

end Heap

def Trace.freed (trace : Trace) : List ObjectId :=
  trace.filterMap Event.freed?

/-- A collected heap, and what its callers know about the number of its objects. -/
structure Census where
  state : CollectedHeap Heap
  /-- The number of objects that calls allocated. -/
  allocated : Nat
  /-- The sum of the numbers of freed objects that calls answered. -/
  freed : Nat

namespace Census

def create (config : Config) (now : Instant) : Census :=
  ⟨(CollectedHeap.create Heap.empty config now).state, 0, 0⟩

def afterCall (census : Census) (effect : Heap.Effect) : Census where
  state := { census.state with heap := effect.heap }
  allocated := census.allocated + effect.response.allocations
  freed := census.freed + effect.response.freedCount

/-- Any calls were made and any enabled sections ran. What a collector frees is left to
    its own statistics. -/
inductive Run : Census → Prop where
  | created (config : Config) (now : Instant) : Run (create config now)
  | called [VisitOrder] {census : Census} {effect : Heap.Effect} (run : Run census)
      (call : Heap.Call) (performed : census.state.heap.perform call = .ok effect) :
      Run (census.afterCall effect)
  | ran [VisitOrder] {census : Census}
      {outcome : Outcome (CollectedHeap Heap) (Except Misuse (Option Passage))}
      (run : Run census) (part : Collector.Section) (enabled : census.state.Enabled part)
      (performed : census.state.run part = .ok outcome) :
      Run { census with state := outcome.state }

/-- Makes calls and runs sections in order, as long as the latter are enabled and none
    meets a fault. -/
def play [VisitOrder] (census : Census) : List (Heap.Call ⊕ Collector.Section) → Option Census
  | [] => some census
  | .inl call :: steps =>
    match census.state.heap.perform call with
    | .error _ => none
    | .ok effect => (census.afterCall effect).play steps
  | .inr part :: steps =>
    if census.state.Enabled part then
      match census.state.run part with
      | .error _ => none
      | .ok outcome => { census with state := outcome.state : Census }.play steps
    else none

/-- Playing calls and sections goes on with a run. -/
theorem Run.play {order : VisitOrder} {census next : Census}
    {steps : List (Heap.Call ⊕ Collector.Section)} (run : Run census)
    (played : census.play steps = some next) : Run next := by
  induction steps generalizing census with
  | nil =>
    cases played
    exact run
  | cons step steps ih =>
    cases step with
    | inl call =>
      rw [Census.play] at played
      split at played
      · contradiction
      · exact ih (run.called call ‹_›) played
    | inr part =>
      rw [Census.play] at played
      split at played
      · split at played
        · contradiction
        · exact ih (run.ran part ‹_› ‹_›) played
      · contradiction

end Census

end RefCycle
