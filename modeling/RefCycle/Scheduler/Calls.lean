import RefCycle.Scheduler
/-!
# Calls to a scheduler

Safepoints one after the other. The clock may read anything at each of them, also an
earlier time than it read before.

## Main definitions

* `Scheduler.Calls` — a configuration, and what the clock reads at each call.
* `Calls.scheduler` — the scheduler after so many calls.
* `Calls.verdict` — what a call decides.
-/

namespace RefCycle.Scheduler

/-- Calls to a new scheduler, counted from one. -/
structure Calls where
  config : Config
  /-- What the clock reads at a call, if it is read; at zero, the time of the start. -/
  clock : Nat → Instant

namespace Calls

/-- The scheduler after so many calls. -/
def scheduler (calls : Calls) : Nat → Scheduler
  | 0 => .create calls.config (calls.clock 0)
  | n + 1 => ((calls.scheduler n).advance (calls.clock (n + 1))).2

/-- What a call decides. -/
def verdict (calls : Calls) (n : Nat) : Verdict :=
  ((calls.scheduler (n - 1)).advance (calls.clock n)).1

end Calls

end RefCycle.Scheduler
