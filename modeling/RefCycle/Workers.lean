import RefCycle.Identity
/-!
# Registered workers

A collector needs to know how many workers are alive, and which one was the
first to register; it does not keep a list of them. The first worker stays the
first even after it is gone.

## Main definitions

* `RefCycle.Workers` — the number of live workers and the first of all.
* `Workers.add` — registers a worker.
-/

namespace RefCycle

/-- How many workers are alive, and who was first. -/
structure Workers where
  alive : Nat
  /-- The worker that registered before any other. -/
  first : Option WorkerId
  deriving DecidableEq

namespace Workers

def none : Workers :=
  ⟨0, Option.none⟩

def add (workers : Workers) (worker : WorkerId) : Workers :=
  ⟨workers.alive + 1, workers.first.or (some worker)⟩

def isFirst (workers : Workers) (worker : WorkerId) : Bool :=
  workers.first = some worker

end Workers

end RefCycle
