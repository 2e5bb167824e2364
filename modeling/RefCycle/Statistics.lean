import RefCycle.Fault
/-!
# Statistics of a collector

Six counters of the work that a collector has done. Each is kept in 64 bits, and
a sum that does not fit is a fault.

## Main definitions

* `RefCycle.Statistics` — the counters.
* `Statistics.record` — adds an increment to all counters at once.
* `Statistics.text` — the counters as messages show them.
-/

namespace RefCycle

/-- Counters of work done, or increments of them. -/
structure Statistics where
  /-- Rendezvous at which all workers were stopped. -/
  episodes : Nat
  scans : Nat
  /-- Scans which left nothing to snapshot. -/
  emptyScans : Nat
  /-- Passes which consumed a snapshot. -/
  collections : Nat
  reclaimed : Nat
  /-- Candidates which were left alone because their counts changed. -/
  disqualified : Nat
  deriving DecidableEq

namespace Statistics

def zero : Statistics :=
  ⟨0, 0, 0, 0, 0, 0⟩

def toList (s : Statistics) : List Nat :=
  [s.episodes, s.scans, s.emptyScans, s.collections, s.reclaimed, s.disqualified]

def add (s t : Statistics) : Statistics where
  episodes := s.episodes + t.episodes
  scans := s.scans + t.scans
  emptyScans := s.emptyScans + t.emptyScans
  collections := s.collections + t.collections
  reclaimed := s.reclaimed + t.reclaimed
  disqualified := s.disqualified + t.disqualified

/-- Adds an increment, if all counters can hold their sums. -/
def record (s increment : Statistics) : Except Fault Statistics :=
  let sum := s.add increment
  if ∀ n ∈ sum.toList, n < 0x1_0000_0000_0000_0000 then .ok sum else .error .statisticsOverflow

/-- The counters with their names. -/
def text (s : Statistics) : String :=
  "CollectorStats \x7b episodes: " ++ toString s.episodes ++
  ", scans: " ++ toString s.scans ++
  ", empty_scans: " ++ toString s.emptyScans ++
  ", collections: " ++ toString s.collections ++
  ", reclaimed: " ++ toString s.reclaimed ++
  ", disqualified: " ++ toString s.disqualified ++ " \x7d"

/-- What was recorded is the sum. -/
theorem record_eq_ok {s increment t : Statistics} (h : s.record increment = .ok t) :
    t = s.add increment := by
  unfold record at h
  grind

end Statistics

end RefCycle
