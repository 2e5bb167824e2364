import RefCycle.Clock.Instant
import RefCycle.Config
/-!
# When to scan

A scheduler counts safepoints and decides at each whether a scan is due: more
than a threshold of safepoints and more than an interval of time must have
passed since the last scan. The clock is read only once the count suffices, so
that most safepoints cost no more than a counter.

## Main definitions

* `RefCycle.Scheduler` — the counter, and the baseline set by the last scan.
* `Scheduler.Verdict` — what a safepoint decided, and whether it read the clock.
* `Scheduler.advance` — one safepoint.

## Design notes

The counter wraps around at 32 bits, and so does its distance from the
baseline; the distance is therefore right as long as fewer than 2^32 safepoints
lie between two scans.
-/

namespace RefCycle

/-- The state that decides when the next scan is due. -/
structure Scheduler where
  /-- The safepoints counted so far. -/
  tick : UInt32
  /-- The count at the last scan. -/
  lastTick : UInt32
  /-- The time of the last scan, or of the start. -/
  lastScan : Instant
  threshold : UInt32
  interval : Duration
  deriving DecidableEq

namespace Scheduler

/-- What a safepoint decided about the next scan. -/
inductive Verdict where
  /-- The threshold is not exceeded; the clock was not read. -/
  | fewTicks
  /-- The clock was read, and the interval is not exceeded. -/
  | early
  | due
  deriving DecidableEq

/-- Whether the clock was read to reach a verdict. -/
def Verdict.readsClock : Verdict → Bool
  | .fewTicks => false
  | .early => true
  | .due => true

/-- A scheduler whose first scan is measured from `start`. -/
def create (config : Config) (start : Instant) : Scheduler where
  tick := 0
  lastTick := 0
  lastScan := start
  threshold := config.tickThreshold
  interval := config.scanInterval

/-- Counts a safepoint and decides whether a scan is due, where the clock, if it
    is read, says `now`. -/
def advance (scheduler : Scheduler) (now : Instant) : Verdict × Scheduler :=
  let counted := { scheduler with tick := scheduler.tick + 1 }
  if counted.tick - scheduler.lastTick ≤ scheduler.threshold then
    (.fewTicks, counted)
  else if (now.since scheduler.lastScan).toNanos ≤ scheduler.interval.toNanos then
    (.early, counted)
  else
    (.due, { counted with lastTick := counted.tick, lastScan := now })

end Scheduler

end RefCycle
