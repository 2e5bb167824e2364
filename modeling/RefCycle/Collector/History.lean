import RefCycle.Collector.Request
/-!
# Histories of a collector

Which states of a collector and its heap can come about, and by what. Between
two requests, mutators may change the heap in any way; nothing is assumed about
them here, and nothing about the heap beyond the questions it answers.

## Main definitions

* `CollectedHeap.Entry` — a request with the state before it and its outcome.
* `CollectedHeap.History` — a state comes about by requests, which are listed
  with the latest first.
* `CollectedHeap.play` — carries out requests in order.

## Main statements

* `History.play` — playing requests goes on with a history.
-/

namespace RefCycle.CollectedHeap

variable {H : Type} [Reclaimable H]

/-- A request that was carried out. -/
structure Entry (H : Type) where
  before : CollectedHeap H
  request : Collector.Request
  outcome : Outcome (CollectedHeap H) (Except Misuse Collector.Response)

/-- A state comes about by the listed requests, the latest of them first. -/
inductive History : List (Entry H) → CollectedHeap H → Prop where
  | created (heap : H) (config : Config) (now : Instant) :
      History [] (create heap config now).state
  | request {entries : List (Entry H)} {s : CollectedHeap H}
      {outcome : Outcome (CollectedHeap H) (Except Misuse Collector.Response)}
      (history : History entries s) (request : Collector.Request)
      (performed : s.perform request = .ok outcome) :
      History (⟨s, request, outcome⟩ :: entries) outcome.state
  | mutated {entries : List (Entry H)} {s : CollectedHeap H}
      (history : History entries s) (heap : H) : History entries { s with heap }

/-- Whether a request was a call to a rendezvous that broke the rules. Its arrival
    stays counted for ever. -/
def Entry.isLostArrival (entry : Entry H) : Bool :=
  match entry.outcome.answer with
  | .error (.unregisteredArrival _) => true
  | _ => false

/-- Carries out requests in order, as long as none meets a fault, and puts them in
    front of the entries so far. -/
def play (s : CollectedHeap H) (entries : List (Entry H)) :
    List Collector.Request → Option (List (Entry H) × CollectedHeap H)
  | [] => some (entries, s)
  | request :: requests =>
    match s.perform request with
    | .error _ => none
    | .ok outcome => outcome.state.play (⟨s, request, outcome⟩ :: entries) requests

/-- Playing requests goes on with a history. -/
theorem History.play {entries : List (Entry H)} {s : CollectedHeap H}
    {requests : List Collector.Request} {next : List (Entry H) × CollectedHeap H}
    (history : History entries s) (played : s.play entries requests = some next) :
    History next.1 next.2 := by
  induction requests generalizing entries s with
  | nil =>
    cases played
    exact history
  | cons request requests ih =>
    rw [CollectedHeap.play] at played
    split at played
    · contradiction
    · exact ih (history.request request ‹_›) played

end RefCycle.CollectedHeap
