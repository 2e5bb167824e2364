import RefCycle.Collector.Sharing
import RefCycle.Proofs.Collector.Gate
import RefCycle.Proofs.Heap.Isolation
/-!
# Quarantine

What a scan captures is enclosed and keeps its counts until a pass consumes the
snapshot. Then the pass confirms all of it, and the group that it releases is
freed as a whole.

## Main definitions

* `Snapshot.Quarantined` — the candidates are enclosed and have their counts.
* `CollectedHeap.Guarded` — the books are in order, and a pending snapshot is
  quarantined.
* `CollectedHeap.Serves`, `CollectedHeap.Consumes` — what a section, or a pass,
  does to a guarded heap.

## Main statements

* `scan_serves` — what a scan captures is quarantined.
* `consume_passes` — a pass over a quarantined snapshot reclaims all of it.
* `run_consumes`, `run_serves` — any section keeps a heap guarded.
-/

namespace RefCycle

namespace Snapshot

variable {refCount? : ObjectId → Option Nat} {candidates : List ObjectId} {snapshot : Snapshot}

/-- The candidates are enclosed, and have the counts with which they were captured. -/
structure Quarantined (snapshot : Snapshot) (h : Heap) (held : ObjectId → Nat) : Prop where
  nodup : snapshot.roots.Nodup
  enclosed : h.Enclosed held (· ∈ snapshot.roots)
  captured : ∀ entry ∈ snapshot.entries, h.refCount? entry.1 = some entry.2

theorem entries_of_capture (captured : capture refCount? candidates = some snapshot) :
    snapshot.entries = candidates.filterMap fun object => (refCount? object).map (object, ·) := by
  simp only [capture] at captured
  split at captured
  · contradiction
  · cases captured
    rfl

theorem count_of_capture (captured : capture refCount? candidates = some snapshot) :
    ∀ entry ∈ snapshot.entries, refCount? entry.1 = some entry.2 := by
  intro entry mem
  rw [entries_of_capture captured, List.mem_filterMap] at mem
  obtain ⟨object, -, eq⟩ := mem
  obtain ⟨count, here, rfl⟩ := Option.map_eq_some_iff.1 eq
  exact here

/-- All candidates that have counts are captured. -/
theorem roots_of_capture (captured : capture refCount? candidates = some snapshot)
    (counted : ∀ object ∈ candidates, (refCount? object).isSome) :
    snapshot.roots = candidates := by
  rw [roots, entries_of_capture captured]
  clear captured
  induction candidates with
  | nil => rfl
  | cons object candidates ih =>
    obtain ⟨count, here⟩ := Option.isSome_iff_exists.1 (counted object List.mem_cons_self)
    rw [List.filterMap_cons_some (by rw [here]; rfl), List.map_cons,
      ih fun q mem => counted q (List.mem_cons_of_mem _ mem)]

/-- If no count has changed, all candidates are confirmed. -/
theorem trialDelete_unchanged
    (same : ∀ entry ∈ snapshot.entries, refCount? entry.1 = some entry.2) :
    snapshot.trialDelete refCount? = ⟨snapshot.roots, []⟩ := by
  have confirmed : snapshot.entries.filter (unchanged refCount?) = snapshot.entries :=
    List.filter_eq_self.2 fun entry mem => decide_eq_true (same entry mem)
  have disqualified : (snapshot.entries.filter fun entry => !unchanged refCount? entry) = [] :=
    List.filter_eq_nil_iff.2 fun entry mem => by simp [unchanged, same entry mem]
  rw [trialDelete, confirmed, disqualified]
  rfl

end Snapshot

namespace CollectedHeap

variable {order : VisitOrder} {held : ObjectId → Nat} {s t u : CollectedHeap Heap}
  {snapshot : Snapshot} {worker : WorkerId}

/-- The only fault that is left. -/
abbrev Overflow (fault : Fault) : Prop :=
  fault = .statisticsOverflow

/-- The books are in order, and a pending snapshot is quarantined. -/
structure Guarded (held : ObjectId → Nat) (s : CollectedHeap Heap) : Prop where
  balanced : s.heap.Balanced held []
  referenced : s.heap.Unreferenced []
  quarantined : ∀ snapshot, s.collector.snapshot = some snapshot →
    snapshot.Quarantined s.heap held

/-- What a section does: either no pass takes place, or one that goes as it should. -/
structure Serves (held : ObjectId → Nat) (s t : CollectedHeap Heap) : Prop where
  guarded : t.Guarded held
  less : Heap.Shrinks s.heap t.heap
  passed : s.Quiet t ∨
    ∃ snapshot, s.collector.snapshot = some snapshot ∧ s.Passed held snapshot t

/-- What a pass does: it takes the pending snapshot, if there is one. -/
structure Consumes (held : ObjectId → Nat) (s t : CollectedHeap Heap) : Prop where
  guarded : t.Guarded held
  less : Heap.Shrinks s.heap t.heap
  taken : t.collector.snapshot = none
  quiet : s.collector.snapshot = none → s.Quiet t
  passed : ∀ snapshot, s.collector.snapshot = some snapshot → s.Passed held snapshot t

/-- Nothing happens that matters to a snapshot. -/
structure Idle (s t : CollectedHeap Heap) : Prop where
  heap : t.heap = s.heap
  snapshot : t.collector.snapshot = s.collector.snapshot
  collections : t.collector.statistics.collections = s.collector.statistics.collections
  reclaimed : t.collector.statistics.reclaimed = s.collector.statistics.reclaimed
  disqualified : t.collector.statistics.disqualified = s.collector.statistics.disqualified

theorem Idle.quiet (idle : s.Idle t) : s.Quiet t :=
  ⟨idle.heap, fun _ => idle.snapshot, idle.collections, idle.reclaimed, idle.disqualified⟩

theorem Idle.guarded (idle : s.Idle t) (guarded : s.Guarded held) : t.Guarded held := by
  obtain ⟨balanced, referenced, quarantined⟩ := guarded
  constructor
  · rwa [idle.heap]
  · rwa [idle.heap]
  · rwa [idle.heap, idle.snapshot]

theorem Quiet.trans (first : s.Quiet t) (second : t.Quiet u) : s.Quiet u where
  heap := second.heap.trans first.heap
  snapshot pending := by
    have same := first.snapshot pending
    exact (second.snapshot (same ▸ pending)).trans same
  collections := second.collections.trans first.collections
  reclaimed := second.reclaimed.trans first.reclaimed
  disqualified := second.disqualified.trans first.disqualified

theorem Passed.quiet (passed : s.Passed held snapshot t) (after : t.Quiet u) :
    s.Passed held snapshot u := by
  obtain ⟨captured, collections, reclaimed, disqualified, freed, spared⟩ := passed
  refine ⟨captured, after.collections.trans collections, ?_,
    after.disqualified.trans disqualified, ?_, ?_⟩
  · rwa [after.reclaimed]
  · rwa [after.heap]
  · rwa [after.heap]

theorem Serves.of_idle (guarded : s.Guarded held) (idle : s.Idle t) : Serves held s t where
  guarded := idle.guarded guarded
  less := idle.heap ▸ .refl _
  passed := .inl idle.quiet

theorem Serves.quiet (first : Serves held s t) (guarded : u.Guarded held) (after : t.Quiet u) :
    Serves held s u where
  guarded := guarded
  less := after.heap ▸ first.less
  passed := first.passed.imp (·.trans after) fun ⟨snapshot, pending, passed⟩ =>
    ⟨snapshot, pending, passed.quiet after⟩

theorem Serves.idle (first : Serves held s t) (after : t.Idle u) : Serves held s u :=
  first.quiet (after.guarded first.guarded) after.quiet

theorem Idle.passed (before : s.Idle t) (passed : t.Passed held snapshot u) :
    s.Passed held snapshot u := by
  obtain ⟨captured, collections, reclaimed, disqualified, freed, spared⟩ := passed
  rw [before.heap] at captured spared
  refine ⟨captured, ?_, ?_, disqualified.trans before.disqualified, freed, spared⟩
  · rwa [← before.collections]
  · rwa [← before.reclaimed]

theorem Idle.serves (before : s.Idle t) (second : Serves held t u) : Serves held s u where
  guarded := second.guarded
  less := before.heap ▸ second.less
  passed := second.passed.imp before.quiet.trans fun ⟨snapshot, pending, passed⟩ =>
    ⟨snapshot, before.snapshot.symm.trans pending, before.passed passed⟩

theorem Consumes.serves (first : Consumes held s t) : Serves held s t where
  guarded := first.guarded
  less := first.less
  passed := by
    cases pending : s.collector.snapshot with
    | none => exact .inl (first.quiet pending)
    | some snapshot => exact .inr ⟨snapshot, rfl, first.passed snapshot pending⟩

theorem Consumes.idle (first : Consumes held s t) (after : t.Idle u) : Consumes held s u where
  guarded := after.guarded first.guarded
  less := after.heap ▸ first.less
  taken := after.snapshot.trans first.taken
  quiet missing := (first.quiet missing).trans after.quiet
  passed snapshot pending := (first.passed snapshot pending).quiet after.quiet

/-- After a pass there is no snapshot, so no other pass follows in the same section. -/
theorem Consumes.then (first : Consumes held s t) (second : Serves held t u) :
    Serves held s u := by
  obtain quiet | ⟨snapshot, pending, -⟩ := second.passed
  · exact first.serves.quiet second.guarded quiet
  · rw [first.taken] at pending
    contradiction

/-! ### Passes -/

theorem overflow_of_record {s increment : Statistics} {fault : Fault}
    (full : s.record increment = .error fault) : Overflow fault := by
  simp only [Statistics.record] at full
  split at full
  · contradiction
  · exact (Except.error.inj full).symm

/-- Recording an increment without a pass leaves what passes count. -/
theorem passes_of_record {s increment t : Statistics} (recorded : s.record increment = .ok t)
    (collections : increment.collections = 0) (reclaimed : increment.reclaimed = 0)
    (disqualified : increment.disqualified = 0) :
    t.collections = s.collections ∧ t.reclaimed = s.reclaimed ∧
      t.disqualified = s.disqualified := by
  rw [Statistics.record_eq_ok recorded]
  simp [Statistics.add, collections, reclaimed, disqualified]

/-- A pass over a quarantined snapshot confirms and reclaims all of it. -/
theorem consume_passes (guarded : s.Guarded held)
    (pending : s.collector.snapshot = some snapshot) :
    Attempt.Ensures (s.consume snapshot) Overflow fun o =>
      Consumes held s o.state := by
  have quarantined := guarded.quarantined snapshot pending
  have trial : snapshot.trialDelete (Reclaimable.refCount? s.heap) = ⟨snapshot.roots, []⟩ :=
    Snapshot.trialDelete_unchanged quarantined.captured
  have nonempty : snapshot.roots ≠ [] := by simp [Snapshot.roots, snapshot.nonempty]
  obtain ⟨release, done, balanced, referenced⟩ :=
    Heap.releaseGroup_balanced guarded.balanced guarded.referenced snapshot.roots
  have whole : snapshot.len ≤ release.reclaimed := by
    have sub : snapshot.roots ⊆ release.cyclic := fun p mem =>
      Heap.mem_cyclic_of_enclosed guarded.balanced quarantined.enclosed done mem
    have le := quarantined.nodup.length_le_of_subset sub
    rw [Snapshot.roots, List.length_map] at le
    exact le.trans (Nat.le_add_right ..)
  have released : ∃ trace,
      releaseConfirmed s.heap snapshot.roots = .ok ⟨release.reclaimed, release.heap, trace⟩ := by
    simp only [releaseConfirmed, if_neg nonempty, Reclaimable.releaseGroup, done]
    exact ⟨_, rfl⟩
  obtain ⟨trace, released⟩ := released
  have less := Heap.releaseGroup_shrinks done
  -- With the trial known, the release is the one above.
  refine .bind (fun fault failed => ?_) fun freed eq => ?_
  · rw [trial, released] at failed
    contradiction
  rw [trial, released] at eq
  cases eq
  refine .bind (fun fault => overflow_of_record) fun statistics recorded => ?_
  have counted := Statistics.record_eq_ok recorded
  rw [trial] at counted
  refine ⟨⟨balanced, referenced, fun _ left => nomatch left⟩, less, rfl, fun missing => ?_, ?_⟩
  · rw [pending] at missing
    contradiction
  · intro other same
    obtain rfl := Option.some.inj (pending.symm.trans same)
    refine ⟨quarantined.captured, ?_, ?_, ?_, fun p mem => ?_, fun p reach => ?_⟩
    · exact congrArg Statistics.collections counted
    · rw [show statistics.reclaimed = _ from congrArg Statistics.reclaimed counted]
      exact Nat.add_le_add_left whole _
    · exact (congrArg Statistics.disqualified counted).trans (Nat.add_zero _)
    · exact Heap.not_contains_of_mem_cyclic done
        (Heap.mem_cyclic_of_enclosed guarded.balanced quarantined.enclosed done mem)
    · exact reach.survives less balanced

theorem collect_consumes (guarded : s.Guarded held) :
    s.collect.Ensures Overflow fun o => Consumes held s o.state := by
  unfold collect
  split
  · rename_i missing
    refine ⟨guarded, .refl _, missing, fun _ => ⟨rfl, fun _ => rfl, rfl, rfl, rfl⟩, ?_⟩
    intro snapshot pending
    rw [missing] at pending
    contradiction
  · rename_i snapshot pending
    exact consume_passes guarded pending

theorem deregister_consumes (guarded : s.Guarded held) (worker : WorkerId) :
    (s.deregister worker).Ensures Overflow fun o => Consumes held s o.state := by
  refine (collect_consumes guarded).andThen fun collected consumed => ?_
  dsimp only
  split
  · exact consumed
  · exact consumed.idle ⟨rfl, rfl, rfl, rfl, rfl⟩

theorem collectIfPending_serves (guarded : s.Guarded held) :
    s.collectIfPending.Ensures Overflow fun o => Consumes held s o.state ∨ s.Idle o.state := by
  unfold collectIfPending
  split
  · exact Attempt.Ensures.map ((collect_consumes guarded).mono fun o => .inl)
  · exact .inr ⟨rfl, rfl, rfl, rfl, rfl⟩

theorem collectAtSafepoint_serves (guarded : s.Guarded held) (worker : WorkerId) :
    (s.collectAtSafepoint worker).Ensures Overflow fun o =>
      Consumes held s o.state ∨ s.Idle o.state := by
  unfold collectAtSafepoint
  split
  · split
    · exact .inr ⟨rfl, rfl, rfl, rfl, rfl⟩
    · exact Attempt.Ensures.map ((collect_consumes guarded).mono fun o => .inl)
  · exact .inr ⟨rfl, rfl, rfl, rfl, rfl⟩

/-! ### Episodes -/

theorem candidates_detect (h : Heap) : (Reclaimable.detect h).candidates.getD [] = h.garbage := by
  show h.detectCycles.getD [] = h.garbage
  rw [Heap.detectCycles]
  split <;> simp [*]

/-- The garbage of a heap with books in order is quarantined when it is captured. -/
theorem quarantined_capture (balanced : s.heap.Balanced held [])
    (captured : Snapshot.capture (Reclaimable.refCount? s.heap) s.heap.garbage = some snapshot) :
    snapshot.Quarantined s.heap held := by
  have roots := Snapshot.roots_of_capture captured fun p mem =>
    Heap.isSome_refCount?_iff.2 (Heap.mem_garbage_iff.1 mem).1
  refine ⟨?_, ?_, Snapshot.count_of_capture captured⟩
  · rw [roots]
    exact Heap.garbage_nodup _
  · rw [roots]
    exact Heap.garbage_enclosed balanced

theorem scan_serves (guarded : s.Guarded held) (empty : s.collector.snapshot = none) :
    Attempt.Ensures s.scan Overflow fun o => s.Quiet o.state ∧ o.state.Guarded held := by
  unfold scan
  dsimp only
  split
  · rename_i snapshot captured
    rw [candidates_detect] at captured
    refine .bind (fun _ => overflow_of_record) fun statistics recorded => ?_
    obtain ⟨collections, reclaimed, disqualified⟩ := passes_of_record recorded rfl rfl rfl
    refine ⟨⟨rfl, fun pending => absurd empty pending, collections, reclaimed, disqualified⟩,
      guarded.balanced, guarded.referenced, fun other pending => ?_⟩
    obtain rfl : snapshot = other := Option.some.inj pending
    exact quarantined_capture guarded.balanced captured
  · refine .bind (fun _ => overflow_of_record) fun statistics recorded => ?_
    obtain ⟨collections, reclaimed, disqualified⟩ := passes_of_record recorded rfl rfl rfl
    exact ⟨⟨rfl, fun pending => absurd empty pending, collections, reclaimed, disqualified⟩,
      guarded.balanced, guarded.referenced, guarded.quarantined⟩

theorem scanIfPending_serves (guarded : s.Guarded held) :
    s.scanIfPending.Ensures Overflow fun o => s.Quiet o.state ∧ o.state.Guarded held := by
  unfold scanIfPending
  split
  · rename_i wanted
    exact scan_serves guarded (Option.isNone_iff_eq_none.1 wanted.2)
  · exact ⟨⟨rfl, fun _ => rfl, rfl, rfl, rfl⟩, guarded⟩

theorem openEpisode_idle (s : CollectedHeap Heap) :
    Attempt.Ensures s.openEpisode Overflow fun o => s.Idle o.state := by
  refine .bind (fun _ => overflow_of_record) fun statistics recorded => ?_
  obtain ⟨collections, reclaimed, disqualified⟩ := passes_of_record recorded rfl rfl rfl
  exact ⟨rfl, rfl, collections, reclaimed, disqualified⟩

theorem runEpisode_serves (guarded : s.Guarded held) :
    s.runEpisode.Ensures Overflow fun o => Serves held s o.state := by
  refine (openEpisode_idle s).andThen fun opened before => ?_
  refine (collectIfPending_serves (before.guarded guarded)).andThen fun collected passed => ?_
  have served : Serves held s collected.state := before.serves
    (passed.elim Consumes.serves (Serves.of_idle (before.guarded guarded)))
  refine (scanIfPending_serves served.guarded).mono ?_
  rintro o ⟨quiet, after⟩
  exact served.quiet after quiet

/-! ### Sections -/

theorem leave_idle (passage : Passage) (arrived : 0 < s.gate.arrivals) :
    (s.leave passage).Ensures Overflow fun o => s.Idle o.state := by
  unfold leave
  split
  · rename_i absent
    exact absurd arrived (by simp [gate, absent])
  · exact ⟨rfl, rfl, rfl, rfl, rfl⟩

theorem barrier_serves (guarded : s.Guarded held) (arrived : 0 < s.gate.arrivals) :
    (s.barrier worker).Ensures Overflow fun o => Serves held s o.state := by
  unfold barrier
  split
  · split
    · exact .of_idle guarded ⟨rfl, rfl, rfl, rfl, rfl⟩
    · refine ((runEpisode_serves guarded).and (runEpisode_gate s)).andThen ?_
      rintro ran ⟨served, same⟩
      have cleared (pending : PendingWork) : ran.state.Idle (ran.state.setPending pending) :=
        ⟨rfl, rfl, rfl, rfl, rfl⟩
      refine (leave_idle .completed ?_).mono fun o left => (served.idle (cleared _)).idle left
      show 0 < ran.state.gate.arrivals
      rw [same]
      exact arrived
  · exact (leave_idle .passed arrived).mono fun o left => .of_idle guarded left

theorem countSafepoint_idle (s : CollectedHeap Heap) (now : Instant) :
    (s.countSafepoint now).Ensures Overflow fun o => s.Idle o.state := by
  unfold countSafepoint
  dsimp only
  split <;> exact ⟨rfl, rfl, rfl, rfl, rfl⟩

theorem arrive_serves (guarded : s.Guarded held) (worker : WorkerId) (now : Instant) :
    (s.arrive worker now).Ensures Overflow fun o => Serves held s o.state := by
  unfold arrive
  dsimp only
  split
  · exact .of_idle guarded ⟨rfl, rfl, rfl, rfl, rfl⟩
  · have came : s.Idle (s.modifyCollector fun c => { c with arrivals := c.arrivals + 1 }) :=
      ⟨rfl, rfl, rfl, rfl, rfl⟩
    refine ((countSafepoint_idle _ now).and (countSafepoint_gate _ now)).andThen ?_
    rintro counted ⟨idle, first⟩
    have before := idle.guarded (came.guarded guarded)
    refine ((collectAtSafepoint_serves before worker).and
      (collectAtSafepoint_gate _ worker)).andThen ?_
    rintro collected ⟨passed, second⟩
    have arrived : 0 < collected.state.gate.arrivals := by
      rw [second, first]
      exact Nat.succ_pos _
    -- If the pass took place at the safepoint, then none is left for the episode.
    have after := passed.elim Consumes.guarded (·.guarded before)
    refine Attempt.Ensures.map ((barrier_serves after arrived).mono fun o served => ?_)
    exact came.serves (idle.serves (passed.elim (·.then served) (·.serves served)))

theorem resume_serves (guarded : s.Guarded held) (worker : WorkerId)
    (arrived : 0 < s.gate.arrivals) :
    (s.resume worker).Ensures Overflow fun o => Serves held s o.state := by
  have came : s.Idle (s.modifyCollector fun c => { c with parked := c.parked.erase worker }) :=
    ⟨rfl, rfl, rfl, rfl, rfl⟩
  exact (barrier_serves (came.guarded guarded) arrived).mono fun o served => came.serves served

/-- To collect and to remove a worker consumes the pending snapshot. -/
theorem run_consumes {part : Collector.Section} (guarded : s.Guarded held)
    (takes : part = .collect ∨ ∃ worker, part = .removeWorker worker) :
    (s.run part).Ensures Overflow fun o => Consumes held s o.state := by
  obtain rfl | ⟨worker, rfl⟩ := takes
  · rw [run]
    exact Attempt.Ensures.map (collect_consumes guarded)
  · rw [run]
    exact Attempt.Ensures.map (deregister_consumes guarded worker)

/-- A section leaves a guarded heap guarded; if a pass takes place, it goes as it should. -/
theorem run_serves (guarded : s.Guarded held) (part : Collector.Section)
    (arrived : ∀ worker, part = .resume worker → 0 < s.gate.arrivals) :
    (s.run part).Ensures Overflow fun o => Serves held s o.state := by
  cases part with
  | addWorker worker => exact .of_idle guarded ⟨rfl, rfl, rfl, rfl, rfl⟩
  | removeWorker worker =>
    exact (run_consumes guarded (.inr ⟨worker, rfl⟩)).mono fun o => Consumes.serves
  | schedule => exact .of_idle guarded ⟨rfl, rfl, rfl, rfl, rfl⟩
  | collect => exact (run_consumes guarded (.inl rfl)).mono fun o => Consumes.serves
  | arrive worker now => exact Attempt.Ensures.map (arrive_serves guarded worker now)
  | resume worker =>
    rw [run]
    exact Attempt.Ensures.map (resume_serves guarded worker (arrived worker rfl))

end CollectedHeap

end RefCycle
