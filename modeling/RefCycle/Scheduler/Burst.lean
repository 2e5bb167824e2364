import RefCycle.Scheduler
/-!
# Bursts of safepoints

Many safepoints in a row, at even distances in time, with a summary of what the
scheduler decided.

## Main definitions

* `Scheduler.Burst` — how many safepoints, and when.
* `Scheduler.Summary` — which of them were due for a scan, and how often the
  clock was read.
* `Scheduler.perform`, `Scheduler.performAll` — the summaries of bursts.
-/

namespace RefCycle.Scheduler

/-- A run of safepoints. Times are in nanoseconds after second zero. -/
structure Burst where
  start : Nat
  gap : Nat
  times : Nat

/-- What a scheduler decided during a burst. -/
structure Summary where
  /-- The counts at which a scan was due, the latest first. -/
  firedRev : List UInt32
  clockReads : Nat

def Summary.fired (summary : Summary) : List UInt32 :=
  summary.firedRev.reverse

/-- Adds the verdict of one safepoint, with the count at which it was reached. -/
def Summary.add (summary : Summary) (verdict : Verdict) (tick : UInt32) : Summary where
  firedRev := if verdict = .due then tick :: summary.firedRev else summary.firedRev
  clockReads := if verdict.readsClock then summary.clockReads + 1 else summary.clockReads

/-- The instant so many nanoseconds after second zero, if there is one. -/
def instantAt (nanos : Nat) : Except ClockError Instant :=
  (Duration.ofParts? (nanos / 1_000_000_000) (nanos % 1_000_000_000)).bind Instant.zero.after?

/-- The safepoints of a burst, from a given time on. -/
def run (gap : Nat) : Nat → Nat → Summary → Scheduler → Except ClockError (Summary × Scheduler)
  | 0, _, summary, scheduler => .ok (summary, scheduler)
  | times + 1, nanos, summary, scheduler =>
    match instantAt nanos with
    | .error error => .error error
    | .ok now =>
      let (verdict, next) := scheduler.advance now
      run gap times (nanos + gap) (summary.add verdict next.tick) next

/-- The summary of a burst, and the scheduler after it. -/
def perform (scheduler : Scheduler) (burst : Burst) : Except ClockError (Summary × Scheduler) :=
  run burst.gap burst.times burst.start ⟨[], 0⟩ scheduler

/-- The summaries of successive bursts, each with the scheduler after it. -/
def performAll (scheduler : Scheduler) :
    List Burst → Except ClockError (List (Summary × Scheduler))
  | [] => .ok []
  | burst :: bursts => do
    let (summary, next) ← scheduler.perform burst
    let rest ← next.performAll bursts
    return (summary, next) :: rest

end RefCycle.Scheduler
