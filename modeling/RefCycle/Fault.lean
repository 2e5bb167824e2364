import RefCycle.Identity
/-!
# Faults

A fault is a broken assumption: an operation that meets one cannot go on, and
neither can the run which it is part of. Faults are told apart by their causes;
causes which the machine reports alike share a message.

## Main definitions

* `RefCycle.Fault` — the causes.
* `Fault.message` — what is reported.
-/

namespace RefCycle

/-- Why a run cannot go on. -/
inductive Fault where
  /-- A reference was dropped of which the count says that it does not exist. -/
  | countUnderflow (object : ObjectId)
  /-- An object held a reference to an object which is already freed. -/
  | danglingEdge (target : ObjectId)
  /-- An object was about to be freed with references left. -/
  | stillCounted (object : ObjectId) (count : Nat)
  | arrivalUnderflow
  | statisticsOverflow
  deriving DecidableEq

def Fault.message : Fault → String
  | .countUnderflow _ => "attempt to subtract with overflow"
  | .danglingEdge _ => "called `Option::unwrap()` on a `None` value"
  | .stillCounted _ count =>
    "assertion `left == right` failed\n  left: " ++ toString count ++ "\n right: 0"
  | .arrivalUnderflow => "attempt to subtract with overflow"
  | .statisticsOverflow => "attempt to add with overflow"

end RefCycle
