import RefCycle.Identity
/-!
# Snapshots of candidates

While all workers are stopped, a snapshot records each candidate for collection
together with its count. Later, when workers have gone on, the counts are looked
up again: a candidate whose count is unchanged is confirmed, any other is
disqualified and left alone.

## Main definitions

* `RefCycle.Snapshot` — candidates with their counts, at least one.
* `Snapshot.capture` — the snapshot of a list of candidates.
* `Snapshot.trialDelete` — which candidates are confirmed and which disqualified.

## Design notes

A heap is seen through the function that gives the count of an object, so
snapshots do not depend on how a heap is represented.
-/

namespace RefCycle

/-- Candidates with their counts at one moment. It never changes. -/
structure Snapshot where
  /-- The candidates, in the order in which they were captured. -/
  entries : List (ObjectId × Nat)
  /-- A snapshot of nothing is not kept. -/
  nonempty : entries ≠ []

/-- The outcome of comparing a snapshot with a heap. -/
structure TrialDeletion where
  confirmed : List ObjectId
  /-- The candidates whose count changed, or which are gone. -/
  disqualified : List ObjectId
  deriving DecidableEq

namespace Snapshot

/-- Records the count of each candidate. Candidates without a count are skipped;
    if none is left, there is no snapshot. -/
def capture (refCount? : ObjectId → Option Nat) (candidates : List ObjectId) : Option Snapshot :=
  let entries := candidates.filterMap fun object => (refCount? object).map (object, ·)
  if h : entries = [] then none else some ⟨entries, h⟩

def len (s : Snapshot) : Nat :=
  s.entries.length

def roots (s : Snapshot) : List ObjectId :=
  s.entries.map Prod.fst

def refCounts (s : Snapshot) : List Nat :=
  s.entries.map Prod.snd

/-- Whether the count of a candidate is still the one that was captured. -/
def unchanged (refCount? : ObjectId → Option Nat) (entry : ObjectId × Nat) : Bool :=
  refCount? entry.1 = some entry.2

/-- Splits the candidates by whether their counts are unchanged. -/
def trialDelete (s : Snapshot) (refCount? : ObjectId → Option Nat) : TrialDeletion where
  confirmed := (s.entries.filter (unchanged refCount?)).map Prod.fst
  disqualified := (s.entries.filter fun entry => !unchanged refCount? entry).map Prod.fst

end Snapshot

end RefCycle
