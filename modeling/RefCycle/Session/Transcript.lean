import RefCycle.Event
/-!
# Transcripts

The log lines of one command. Where the order of lines is a matter of chance,
because it depends on which of several waiting calls wakes first or on the
order in which a group is walked through, they are sorted.

## Main definitions

* `Trace.records` — the records of a trace, up to a level of detail.
* `Trace.sortRuns` — sorts runs of records of a kind by their lines.
* `Trace.transcript` — the log lines of a trace.
* `Trace.consultations` — the questions of a trace.
-/

namespace RefCycle.Trace

/-- Whether an event is a record of at most the given detail. -/
def isLogged (level : Level) (event : Event) : Bool :=
  match level, event.level? with
  | _, none => false
  | .trace, some _ => true
  | .debug, some l => l = .debug

def isWaiting : Event → Bool
  | .collector (.waiting _ _ _) => true
  | _ => false

def isFreedCyclic : Event → Bool
  | .heap (.freedCyclic _) => true
  | _ => false

def isFreed : Event → Bool
  | .heap (.freed _) => true
  | event => isFreedCyclic event

/-- The records of a trace, up to a level of detail. -/
def records (level : Level) (trace : Trace) : List Event :=
  trace.filter (isLogged level)

/-- The line of an event; empty if the event is not a record. -/
def lineOf (event : Event) : String :=
  event.line?.getD ""

/-- Sorts each maximal run of events of a kind by their lines. -/
def sortRuns (kind : Event → Bool) (events : List Event) : List Event :=
  (events.splitBy fun a b => kind a && kind b).flatMap fun run =>
    run.mergeSort fun a b => lineOf a ≤ lineOf b

/-- The log lines of a trace, up to a level of detail. Objects that are freed
    lie in order of chance only where a group is freed. -/
def transcript (level : Level) (trace : Trace) : List String :=
  let ordered := sortRuns isWaiting (records level trace)
  let settled := if ordered.any isFreedCyclic then sortRuns isFreed ordered else ordered
  settled.map lineOf

def consultations (trace : Trace) : List Consultation :=
  trace.filterMap Event.consultation?

section

variable {first second : Trace}

@[simp]
theorem consultations_nil : consultations [] = [] :=
  rfl

@[simp]
theorem consultations_append :
    consultations (first ++ second) = consultations first ++ consultations second :=
  List.filterMap_append

@[simp]
theorem consultations_consulted (question : Consultation) :
    consultations (.consulted question :: first) = question :: consultations first :=
  rfl

@[simp]
theorem consultations_collector (record : CollectorRecord) :
    consultations (.collector record :: first) = consultations first :=
  rfl

@[simp]
theorem consultations_heap (records : List Heap.Record) :
    consultations (records.map .heap) = [] := by
  simp [consultations, Event.consultation?]

end

end RefCycle.Trace
