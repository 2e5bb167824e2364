import RefCycle.Snapshot
/-!
# Snapshots in two columns

A snapshot can be kept as two lists side by side, one of objects and one of counts. The
lists are filled together when candidates are captured, and read together when they are
compared with a heap.

## Main definitions

* `Snapshot.Columns` — the objects and, beside them, their counts.
* `Columns.capture`, `Columns.trialDelete` — capturing and comparing, on columns.
* `Snapshot.columns` — the columns of a snapshot.

## Design notes

Nothing in the type keeps the columns aligned. That capturing aligns them, and that
comparing them is comparing the snapshot, are theorems.
-/

namespace RefCycle

/-- Puts a candidate behind those that are confirmed, or behind those that are not. -/
def TrialDeletion.add (refCount? : ObjectId → Option Nat) (result : TrialDeletion)
    (entry : ObjectId × Nat) : TrialDeletion :=
  if refCount? entry.1 = some entry.2 then
    { result with confirmed := result.confirmed ++ [entry.1] }
  else
    { result with disqualified := result.disqualified ++ [entry.1] }

namespace Snapshot

/-- Objects and, beside them, their counts. -/
structure Columns where
  roots : List ObjectId
  refCounts : List Nat
  deriving DecidableEq

namespace Columns

/-- Records the candidates that have counts, and beside them their counts. -/
def capture (refCount? : ObjectId → Option Nat) (candidates : List ObjectId) : Option Columns :=
  let columns := (candidates.filterMap fun object => (refCount? object).map (object, ·)).unzip
  if columns.1.isEmpty then none else some ⟨columns.1, columns.2⟩

/-- The objects, each with the count beside it. -/
def entries (columns : Columns) : List (ObjectId × Nat) :=
  columns.roots.zip columns.refCounts

/-- Looks the objects up again, one after the other. -/
def trialDelete (columns : Columns) (refCount? : ObjectId → Option Nat) : TrialDeletion :=
  columns.entries.foldl (TrialDeletion.add refCount?) ⟨[], []⟩

end Columns

/-- The columns of a snapshot. -/
def columns (s : Snapshot) : Columns :=
  ⟨s.roots, s.refCounts⟩

end Snapshot

end RefCycle
