import RefCycle.Proofs.Collector.Quarantine
import RefCycle.Proofs.Collector.Step
import RefCycle.Proofs.Heap.Shedding
/-!
# Room in the counters

With the books of a heap in order, statistics are all that can stop a pass or an
episode. Each adds a bounded number to each counter, so with enough room in
the counters nothing stops it.

## Main definitions

* `Statistics.HasRoom` — the counters have room for a number, unless one may be full.
* `CollectedHeap.passLoad` — what a pass adds to a counter at most.

## Main statements

* `record_room` — an increment that fits is recorded.
* `collect_room`, `runEpisode_room` — a pass and an episode succeed if there is room.
-/

namespace RefCycle

/-- The fault is that a counter is full, where one may be. -/
def Fault.Full (full : Prop) (fault : Fault) : Prop :=
  fault = .statisticsOverflow ∧ full

namespace Statistics

variable {full : Prop} {room more : Nat} {s : Statistics}

/-- All counters have room for a number, unless some counter may be full. -/
def HasRoom (full : Prop) (room : Nat) (s : Statistics) : Prop :=
  full ∨ ∀ n ∈ s.toList, n + room < 0x1_0000_0000_0000_0000

theorem HasRoom.mono (has : s.HasRoom full more) (le : room ≤ more) : s.HasRoom full room :=
  has.imp_right fun fits n mem => Nat.lt_of_le_of_lt (Nat.add_le_add_left le n) (fits n mem)

theorem record_room (increment : Statistics) (has : s.HasRoom full (room + more))
    (small : ∀ n ∈ increment.toList, n ≤ more) :
    (∀ fault, s.record increment = .error fault → fault.Full full) ∧
    ∀ t, s.record increment = .ok t → t.HasRoom full room := by
  have fits : full ∨ ∀ n ∈ (s.add increment).toList, n + room < 0x1_0000_0000_0000_0000 := by
    refine has.imp_right fun fits => ?_
    simp only [toList, add, List.forall_mem_cons] at fits small ⊢
    grind
  refine ⟨fun fault failed => ?_, fun t recorded => record_eq_ok recorded ▸ fits⟩
  unfold record at failed
  dsimp only at failed
  split at failed
  · contradiction
  · rename_i overflows
    refine ⟨(Except.error.inj failed).symm, fits.resolve_right fun fits => overflows ?_⟩
    intro n mem
    exact Nat.lt_of_le_of_lt (Nat.le_add_right n room) (fits n mem)

end Statistics

namespace CollectedHeap

open Statistics

variable {order : VisitOrder} {held : ObjectId → Nat} {s : CollectedHeap Heap}
  {snapshot : Snapshot} {full : Prop} {room : Nat}

def candidateCount (s : CollectedHeap Heap) : Nat :=
  (s.collector.snapshot.map Snapshot.len).getD 0

/-- What a pass adds to a counter at most. -/
def passLoad (s : CollectedHeap Heap) : Nat :=
  s.heap.len + s.candidateCount + 1

theorem releaseConfirmed_room {h : Heap} (balanced : h.Balanced held [])
    (referenced : h.Unreferenced []) (group : List ObjectId) :
    ∃ release, releaseConfirmed h group = .ok release ∧ release.answer ≤ h.len := by
  by_cases empty : group = []
  · exact ⟨_, if_pos empty, Nat.zero_le _⟩
  · obtain ⟨release, run, -, -⟩ := Heap.releaseGroup_balanced balanced referenced group
    have removed := (Heap.releaseGroup_removes run).len
    refine ⟨⟨release.reclaimed, release.heap,
      .consulted (.releaseGroup group release.reclaimed) :: release.records.map .heap⟩, ?_, ?_⟩
    · simp only [releaseConfirmed, if_neg empty, Reclaimable.releaseGroup, run]
    · show release.reclaimed ≤ h.len
      rw [List.length_append] at removed
      exact Nat.le.intro ((Nat.add_comm ..).trans removed)

theorem consume_room (balanced : s.heap.Balanced held []) (referenced : s.heap.Unreferenced [])
    (pending : s.collector.snapshot = some snapshot)
    (has : s.collector.statistics.HasRoom full (room + s.passLoad)) :
    Attempt.Ensures (s.consume snapshot) (Fault.Full full)
      fun o => o.state.collector.statistics.HasRoom full room := by
  obtain ⟨release, released, bound⟩ := releaseConfirmed_room balanced referenced
    (snapshot.trialDelete (Reclaimable.refCount? s.heap)).confirmed
  refine .bind (fun fault failed => ?_) fun other same => ?_
  · rw [released] at failed
    contradiction
  obtain rfl := Except.ok.inj (released.symm.trans same)
  have fewer : (snapshot.trialDelete (Reclaimable.refCount? s.heap)).disqualified.length ≤
      snapshot.len := by
    rw [Snapshot.trialDelete, List.length_map]
    exact List.length_filter_le ..
  have load : s.passLoad = s.heap.len + snapshot.len + 1 := by
    rw [passLoad, candidateCount, pending]
    rfl
  have small : ∀ n ∈ ({ Statistics.zero with
      collections := 1
      reclaimed := release.answer
      disqualified := (snapshot.trialDelete (Reclaimable.refCount? s.heap)).disqualified.length } :
        Statistics).toList, n ≤ s.passLoad := by
    simp only [Statistics.toList, Statistics.zero, List.forall_mem_cons]
    grind
  obtain ⟨stopped, left⟩ := record_room _ has small
  exact .bind stopped left

theorem collect_room (balanced : s.heap.Balanced held []) (referenced : s.heap.Unreferenced [])
    (has : s.collector.statistics.HasRoom full (room + s.passLoad)) :
    s.collect.Ensures (Fault.Full full)
      fun o => o.state.collector.statistics.HasRoom full room := by
  unfold collect
  split
  · exact has.mono (Nat.le_add_right ..)
  · exact consume_room balanced referenced ‹_› has

theorem scanIfPending_room (has : s.collector.statistics.HasRoom full (room + 1)) :
    s.scanIfPending.Ensures (Fault.Full full)
      fun o => o.state.collector.statistics.HasRoom full room := by
  unfold scanIfPending
  split
  · unfold scan
    dsimp only
    split
    · obtain ⟨stopped, left⟩ := record_room { Statistics.zero with scans := 1 } has (by decide)
      exact .bind stopped left
    · obtain ⟨stopped, left⟩ :=
        record_room { Statistics.zero with scans := 1, emptyScans := 1 } has (by decide)
      exact .bind stopped left
  · exact has.mono (Nat.le_add_right ..)

theorem runEpisode_room (balanced : s.heap.Balanced held []) (referenced : s.heap.Unreferenced [])
    (has : s.collector.statistics.HasRoom full (room + 1 + s.passLoad + 1)) :
    s.runEpisode.Ensures (Fault.Full full)
      fun o => o.state.collector.statistics.HasRoom full room := by
  have counted : Attempt.Ensures s.openEpisode (Fault.Full full) fun o =>
      o.state.collector.statistics.HasRoom full (room + 1 + s.passLoad) ∧
        ∃ statistics, o.state = s.modifyCollector ({ · with statistics }) := by
    obtain ⟨stopped, left⟩ := record_room { Statistics.zero with episodes := 1 } has (by decide)
    exact .bind stopped fun statistics recorded => ⟨left statistics recorded, statistics, rfl⟩
  refine counted.andThen ?_
  rintro opened ⟨has, statistics, state⟩
  have pass : opened.state.collectIfPending.Ensures (Fault.Full full)
      fun o => o.state.collector.statistics.HasRoom full (room + 1) := by
    unfold collectIfPending
    rw [state] at has ⊢
    split
    · exact Attempt.Ensures.map (collect_room balanced referenced has)
    · exact has.mono (Nat.le_add_right ..)
  exact pass.andThen fun collected has => scanIfPending_room has

end CollectedHeap

end RefCycle
