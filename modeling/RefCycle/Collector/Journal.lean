import RefCycle.Collector.Chronicle
/-!
# Journals

What ran on a collector, section by section, with what the scheduler decided in each.
Workers keep to no rules, and the heap may change in between.

## Main definitions

* `CollectedHeap.verdict?` — what the scheduler decides in a section, if it is asked.
* `CollectedHeap.Step` — a section that ran, with the state before it and its outcome.
* `Step.schedules`, `Step.countsSafepoint`, `Step.findsDue`, `Step.reading?` — what it
  asked for, whether it was counted, and what was read from the clock.
* `Step.registered?` — which worker it registered.
* `CollectedHeap.Journal` — the sections that led from one state to another.
* `CollectedHeap.journal` — runs sections in order and keeps a journal.

## Main statements

* `Journal.keep` — running sections goes on with a journal.
* `Journal.reached` — a journal stays among the states that come about.
-/

namespace RefCycle.CollectedHeap

variable {H : Type} [Reclaimable H]

/-- What the scheduler decides in a section. It is only asked when a call arrives at a
    rendezvous that is not one too many. -/
def verdict? (s : CollectedHeap H) : Collector.Section → Option Scheduler.Verdict
  | .arrive _ now =>
    if s.collector.arrivals + 1 ≤ s.collector.workers.alive then
      some (s.collector.scheduler.advance now).1
    else none
  | .addWorker _ | .removeWorker _ | .schedule | .collect | .resume _ => none

/-- A section that ran. -/
structure Step (H : Type) where
  before : CollectedHeap H
  part : Collector.Section
  outcome : Outcome (CollectedHeap H) (Except Misuse (Option Passage))

namespace Step

def schedules (step : Step H) : Bool :=
  step.part = .schedule

def countsSafepoint (step : Step H) : Bool :=
  (step.before.verdict? step.part).isSome

/-- Whether the scheduler requested a rendezvous. -/
def findsDue (step : Step H) : Bool :=
  step.before.verdict? step.part = some .due

/-- What was read from the clock, if it was read. -/
def reading? (step : Step H) : Option Instant :=
  match step.part with
  | .arrive _ now =>
    if (step.before.verdict? step.part).any Scheduler.Verdict.readsClock then some now else none
  | .addWorker _ | .removeWorker _ | .schedule | .collect | .resume _ => none

/-- The worker that was registered, if one was. -/
def registered? (step : Step H) : Option WorkerId :=
  match step.part with
  | .addWorker worker => some worker
  | .removeWorker _ | .schedule | .collect | .arrive _ _ | .resume _ => none

end Step

/-- From a state on, the listed enabled sections ran, the latest of them first, and
    between them the heap changed in any way. -/
inductive Journal (s : CollectedHeap H) : List (Step H) → CollectedHeap H → Prop where
  | start : Journal s [] s
  | ran {steps : List (Step H)} {t : CollectedHeap H}
      {outcome : Outcome (CollectedHeap H) (Except Misuse (Option Passage))}
      (before : Journal s steps t) (part : Collector.Section) (enabled : t.Enabled part)
      (performed : t.run part = .ok outcome) :
      Journal s (⟨t, part, outcome⟩ :: steps) outcome.state
  | mutated {steps : List (Step H)} {t : CollectedHeap H} (before : Journal s steps t)
      (heap : H) : Journal s steps { t with heap }

/-- Runs sections in order, as long as each is enabled and meets no fault, and puts them
    in front of the steps so far. -/
def journal (s : CollectedHeap H) (steps : List (Step H)) :
    List Collector.Section → Option (List (Step H) × CollectedHeap H)
  | [] => some (steps, s)
  | part :: parts =>
    if s.Enabled part then
      match s.run part with
      | .error _ => none
      | .ok outcome => outcome.state.journal (⟨s, part, outcome⟩ :: steps) parts
    else none

/-- Running sections goes on with a journal. -/
theorem Journal.keep {s t : CollectedHeap H} {steps : List (Step H)}
    {parts : List Collector.Section} {next : List (Step H) × CollectedHeap H}
    (before : s.Journal steps t) (kept : t.journal steps parts = some next) :
    s.Journal next.1 next.2 := by
  induction parts generalizing steps t with
  | nil =>
    cases kept
    exact before
  | cons part parts ih =>
    rw [CollectedHeap.journal] at kept
    split at kept
    · split at kept
      · contradiction
      · exact ih (before.ran part ‹_› ‹_›) kept
    · contradiction

theorem Journal.reached {s t : CollectedHeap H} {steps : List (Step H)}
    (journal : s.Journal steps t) (reached : s.Reached) : t.Reached := by
  induction journal with
  | start => exact reached
  | ran before part enabled performed ih => exact ih.ran part enabled performed
  | mutated before heap ih => exact ih.mutated heap

end RefCycle.CollectedHeap
