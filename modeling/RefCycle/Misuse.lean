import RefCycle.Identity
/-!
# Misuse of a collector

A call that breaks the rules of its interface is reported to its caller; the
collector itself goes on, and other callers do not notice.

## Main definitions

* `RefCycle.Misuse` — the rules that can be broken.
* `Misuse.message` — what is reported.
-/

namespace RefCycle

/-- A broken rule of the interface. -/
inductive Misuse where
  /-- More workers arrived at a rendezvous than are registered. -/
  | unregisteredArrival (worker : WorkerId)
  | noWorkerToRemove (worker : WorkerId)
  | alreadyInstalled
  | notInstalled
  | missingCollector
  /-- A collector was uninstalled while so many workers were registered. -/
  | workersLeft (alive : Nat)
  deriving DecidableEq

def Misuse.message : Misuse → String
  | .unregisteredArrival worker =>
    worker.text ++ " reached a rendezvous without being registered"
  | .noWorkerToRemove worker =>
    "attempted to remove " ++ worker.text ++ " when no workers are registered"
  | .alreadyInstalled => "the cycle collector must not be initialized twice"
  | .notInstalled => "the cycle collector must be initialized before it is deinitialized"
  | .missingCollector => "the cycle collector must be initialized"
  | .workersLeft alive =>
    "assertion `left == right` failed: the cycle collector was deinitialized with workers " ++
    "still registered\n  left: " ++ toString alive ++ "\n right: 0"

end RefCycle
