import RefCycle.Collector.Request
import RefCycle.Proofs.Outcome
/-!
# The gate

The barrier seen alone: how many workers are alive and how many calls have
arrived, whether a rendezvous is requested, who waits, and how many episodes
there were. What a collector does to this view does not depend on its heap, its
snapshot or its clock, except that the scheduler may request a rendezvous.

## Main definitions

* `RefCycle.Gate`, `CollectedHeap.gate` — the view.
* `Gate.pass`, `Gate.resume`, `Gate.wake` — coming to the barrier, coming to it
  again, and letting waiting calls come to it again in turn.
* `Gate.arrive`, `Gate.deregister` — what happens before that.
* `Fault.Foreign` — faults that are not made by the barrier.

## Main statements

* `collect_gate`, `runEpisode_gate`, `barrier_gate`, `arrive_gate`, `schedule_gate`,
  `deregister_gate`, `wake_gate` — the operations act on the view as these do.
-/

namespace RefCycle

/-- A fault that the heap raises when a group is released, or a full statistic. -/
def Fault.Foreign (H : Type) [Reclaimable H] (fault : Fault) : Prop :=
  fault = .statisticsOverflow ∨
    ∃ (heap : H) (group : List ObjectId), Reclaimable.releaseGroup heap group = .error fault

/-- What the barrier depends on. -/
structure Gate where
  alive : Nat
  arrivals : Nat
  requested : Bool
  parked : List WorkerId
  episodes : Nat

namespace Gate

/-- A call that has arrived comes to the barrier. -/
def pass (worker : WorkerId) (g : Gate) : Passage × Gate :=
  if g.requested then
    if g.arrivals < g.alive then (.waiting, { g with parked := g.parked ++ [worker] })
    else
      (.completed,
        { g with arrivals := g.arrivals - 1, requested := false, episodes := g.episodes + 1 })
  else (.passed, { g with arrivals := g.arrivals - 1 })

/-- A waiting call comes to the barrier again. -/
def resume (worker : WorkerId) (g : Gate) : Passage × Gate :=
  ({ g with parked := g.parked.erase worker }).pass worker

/-- Waiting calls come to the barrier again, in order. Answers which have returned. -/
def wake : List WorkerId → Gate → List WorkerId × Gate
  | [], g => ([], g)
  | worker :: workers, g =>
    let first := g.resume worker
    let rest := first.2.wake workers
    (if first.1 = .waiting then rest.1 else worker :: rest.1, rest.2)

/-- A call arrives at a safepoint, where the scheduler may request a rendezvous. A
    call too many ends at once, and its arrival stays counted. -/
def arrive (worker : WorkerId) (due : Bool) (g : Gate) : Except Misuse Passage × Gate :=
  if g.alive < g.arrivals + 1 then
    (.error (.unregisteredArrival worker), { g with arrivals := g.arrivals + 1 })
  else
    let came := { g with arrivals := g.arrivals + 1, requested := g.requested || due }.pass worker
    (.ok came.1, came.2)

/-- A worker is taken off the register, if there is any. -/
def deregister (worker : WorkerId) (g : Gate) : Except Misuse Unit × Gate :=
  match g.alive with
  | 0 => (.error (.noWorkerToRemove worker), g)
  | alive + 1 => (.ok (), { g with alive })

/-- Coming to the barrier takes back one arrival at most. -/
theorem arrivals_le_pass (worker : WorkerId) (g : Gate) :
    g.arrivals ≤ (g.pass worker).2.arrivals + 1 := by
  unfold pass
  split
  · split <;> dsimp only <;> omega
  · dsimp only
    omega

theorem deregister_snd (worker : WorkerId) (g : Gate) :
    (g.deregister worker).2 = { g with alive := g.alive - 1 } := by
  obtain ⟨alive, arrivals, requested, parked, episodes⟩ := g
  cases alive <;> rfl

end Gate

namespace CollectedHeap

variable {H : Type} [Reclaimable H] {s : CollectedHeap H} {worker : WorkerId}

/-- The view of the barrier in a collector. -/
def gate (s : CollectedHeap H) : Gate where
  alive := s.collector.workers.alive
  arrivals := s.collector.arrivals
  requested := s.collector.pending.rendezvous
  parked := s.collector.parked
  episodes := s.collector.statistics.episodes

/-- Whether the scheduler requests a rendezvous at a safepoint. -/
def scanDue (s : CollectedHeap H) (now : Instant) : Bool :=
  (s.collector.scheduler.advance now).1 = .due

/-- Whether a rendezvous is requested after the scheduler had its turn. -/
def requestedAt (s : CollectedHeap H) (now : Instant) : Bool :=
  s.collector.pending.rendezvous || s.scanDue now

theorem foreign_of_record {s increment : Statistics} {fault : Fault}
    (full : s.record increment = .error fault) : fault.Foreign H := by
  simp only [Statistics.record] at full
  split at full
  · contradiction
  · exact .inl (Except.error.inj full).symm

theorem episodes_of_record {s increment t : Statistics} (run : s.record increment = .ok t) :
    t.episodes = s.episodes + increment.episodes := by
  rw [Statistics.record_eq_ok run]
  rfl

theorem foreign_of_releaseConfirmed {heap : H} {confirmed : List ObjectId} {fault : Fault}
    (failed : releaseConfirmed heap confirmed = .error fault) : fault.Foreign H := by
  unfold releaseConfirmed at failed
  split at failed
  · contradiction
  · split at failed
    · cases failed
      exact .inr ⟨_, _, ‹_›⟩
    · contradiction

/-- A pass over a snapshot does not touch the gate. -/
theorem consume_gate (s : CollectedHeap H) (snapshot : Snapshot) :
    Attempt.Ensures (s.consume snapshot) (Fault.Foreign H) fun o => o.state.gate = s.gate := by
  refine .bind (fun _ => foreign_of_releaseConfirmed) fun release released => ?_
  refine .bind (fun _ => foreign_of_record) fun statistics recorded => ?_
  have same : statistics.episodes = s.collector.statistics.episodes := episodes_of_record recorded
  show CollectedHeap.gate _ = _
  simp [gate, same]

theorem collect_gate (s : CollectedHeap H) :
    s.collect.Ensures (Fault.Foreign H) fun o => o.state.gate = s.gate := by
  unfold collect
  split
  · rfl
  · exact consume_gate s _

theorem openEpisode_gate (s : CollectedHeap H) :
    Attempt.Ensures s.openEpisode (Fault.Foreign H) fun o =>
      o.state.gate = { s.gate with episodes := s.gate.episodes + 1 } := by
  refine .bind (fun _ => foreign_of_record) fun statistics recorded => ?_
  have next : statistics.episodes = s.collector.statistics.episodes + 1 :=
    episodes_of_record recorded
  show CollectedHeap.gate _ = _
  simp [gate, modifyCollector, next]

theorem collectIfPending_gate (s : CollectedHeap H) :
    s.collectIfPending.Ensures (Fault.Foreign H) fun o => o.state.gate = s.gate := by
  unfold collectIfPending
  split
  · exact (collect_gate s).map
  · rfl

theorem scan_gate (s : CollectedHeap H) :
    Attempt.Ensures s.scan (Fault.Foreign H) fun o => o.state.gate = s.gate := by
  have counted : ∀ {increment statistics : Statistics}, increment.episodes = 0 →
      s.collector.statistics.record increment = .ok statistics →
      statistics.episodes = s.collector.statistics.episodes := by
    intro increment statistics unopened recorded
    rw [episodes_of_record recorded, unopened, Nat.add_zero]
  unfold scan
  dsimp only
  split
  · refine .bind (fun _ => foreign_of_record) fun statistics recorded => ?_
    show CollectedHeap.gate _ = _
    simp [gate, modifyCollector, counted rfl recorded]
  · refine .bind (fun _ => foreign_of_record) fun statistics recorded => ?_
    show CollectedHeap.gate _ = _
    simp [gate, modifyCollector, counted rfl recorded]

theorem scanIfPending_gate (s : CollectedHeap H) :
    s.scanIfPending.Ensures (Fault.Foreign H) fun o => o.state.gate = s.gate := by
  unfold scanIfPending
  split
  · exact scan_gate s
  · rfl

/-- An episode counts itself and leaves the rest of the gate as it is. -/
theorem runEpisode_gate (s : CollectedHeap H) :
    s.runEpisode.Ensures (Fault.Foreign H) fun o =>
      o.state.gate = { s.gate with episodes := s.gate.episodes + 1 } := by
  refine (openEpisode_gate s).andThen fun opened h => ?_
  refine (collectIfPending_gate opened.state).andThen fun collected h' => ?_
  exact (scanIfPending_gate collected.state).mono fun o h'' => h''.trans (h'.trans h)

/-- A call that has arrived leaves without a fault. -/
theorem leave_gate (passage : Passage) (arrived : 0 < s.gate.arrivals) :
    (s.leave passage).Ensures (Fault.Foreign H) fun o =>
      o.answer = passage ∧ o.state.gate = { s.gate with arrivals := s.gate.arrivals - 1 } := by
  unfold leave
  split
  · rename_i absent
    exact absurd arrived (by simp [gate, absent])
  · rename_i arrivals counted
    exact ⟨rfl, by simp [gate, modifyCollector, counted]⟩

theorem barrier_gate (worker : WorkerId) (arrived : 0 < s.gate.arrivals) :
    (s.barrier worker).Ensures (Fault.Foreign H) fun o =>
      (o.answer, o.state.gate) = s.gate.pass worker := by
  unfold barrier
  by_cases requested : s.collector.pending.rendezvous
  · rw [if_pos requested]
    by_cases short : s.collector.arrivals < s.collector.workers.alive
    · rw [if_pos short]
      simp [park, Attempt.Ensures, Gate.pass, gate, requested, short, modifyCollector]
    · rw [if_neg short]
      refine (runEpisode_gate s).andThen fun ran h => ?_
      have cleared : (ran.state.setPending
          { ran.state.collector.pending with rendezvous := false }).gate =
            { ran.state.gate with requested := false } := rfl
      refine (leave_gate .completed (by rw [cleared, h]; exact arrived)).mono ?_
      rintro o ⟨answer, left⟩
      have full : ¬s.gate.arrivals < s.gate.alive := short
      have wanted : s.gate.requested = true := requested
      simp [answer, left, cleared, h, Gate.pass, full, wanted]
  · rw [if_neg requested]
    refine (leave_gate .passed arrived).mono ?_
    rintro o ⟨answer, left⟩
    have idle : s.gate.requested = false := by simpa [gate] using requested
    simp [answer, left, Gate.pass, idle]

theorem resume_gate (worker : WorkerId) (arrived : 0 < s.gate.arrivals) :
    (s.resume worker).Ensures (Fault.Foreign H) fun o =>
      (o.answer, o.state.gate) = s.gate.resume worker :=
  barrier_gate worker arrived

/-- Letting waiting calls come to the barrier acts on the gate as `Gate.wake`. -/
theorem wake_gate (workers : List WorkerId) (arrived : workers.length ≤ s.gate.arrivals) :
    (wake workers s).Ensures (Fault.Foreign H) fun o =>
      (o.answer, o.state.gate) = s.gate.wake workers := by
  induction workers generalizing s with
  | nil => rfl
  | cons worker workers ih =>
    simp only [List.length_cons] at arrived
    refine (resume_gate worker (by omega)).andThen fun first h => ?_
    -- Each call takes one arrival with it at most, so the others still have theirs.
    have bound := Gate.arrivals_le_pass worker
      { s.gate with parked := s.gate.parked.erase worker }
    have eq : first.state.gate = (s.gate.resume worker).2 := congrArg Prod.snd h
    have answer : first.answer = (s.gate.resume worker).1 := congrArg Prod.fst h
    rw [← Gate.resume, ← eq] at bound
    refine Attempt.Ensures.map ((ih (by dsimp only at bound; omega)).mono fun rest h' => ?_)
    rw [eq] at h'
    have released : rest.answer = _ := congrArg Prod.fst h'
    have state : rest.state.gate = _ := congrArg Prod.snd h'
    simp only [Gate.wake, answer, released, state]

theorem countSafepoint_gate (s : CollectedHeap H) (now : Instant) :
    (s.countSafepoint now).Ensures (Fault.Foreign H) fun o =>
      o.state.gate = { s.gate with requested := s.gate.requested || s.scanDue now } := by
  unfold countSafepoint
  dsimp only
  split
  · rename_i due
    show CollectedHeap.gate _ = _
    simp [gate, scanDue, due, setPending, modifyCollector]
  · rename_i early
    show CollectedHeap.gate _ = _
    simp [gate, scanDue, early, modifyCollector]

theorem collectAtSafepoint_gate (s : CollectedHeap H) (worker : WorkerId) :
    (s.collectAtSafepoint worker).Ensures (Fault.Foreign H) fun o => o.state.gate = s.gate := by
  unfold collectAtSafepoint
  split
  · split
    · rfl
    · exact (collect_gate s).map
  · rfl

theorem arrive_gate (s : CollectedHeap H) (worker : WorkerId) (now : Instant) :
    (s.arrive worker now).Ensures (Fault.Foreign H) fun o =>
      (o.answer, o.state.gate) = s.gate.arrive worker (s.scanDue now) := by
  unfold arrive
  dsimp only
  split
  · rename_i excess
    have excess : s.gate.alive < s.gate.arrivals + 1 := excess
    show (_, CollectedHeap.gate _) = _
    rw [Gate.arrive, if_pos excess]
    rfl
  · rename_i room
    have room : ¬s.gate.alive < s.gate.arrivals + 1 := room
    refine (countSafepoint_gate _ now).andThen fun counted h => ?_
    refine (collectAtSafepoint_gate counted.state worker).andThen fun collected h' => ?_
    have came : collected.state.gate = { s.gate with
        arrivals := s.gate.arrivals + 1, requested := s.gate.requested || s.scanDue now } :=
      h'.trans h
    have arrived : 0 < collected.state.gate.arrivals := by
      rw [came]
      exact Nat.succ_pos _
    refine Attempt.Ensures.map ((barrier_gate worker arrived).mono fun o h'' => ?_)
    rw [came] at h''
    have answer : o.answer = _ := congrArg Prod.fst h''
    have state : o.state.gate = _ := congrArg Prod.snd h''
    simp only [Gate.arrive, if_neg room, answer, state]

omit [Reclaimable H] in
theorem schedule_gate (s : CollectedHeap H) :
    s.schedule.state.gate = { s.gate with requested := true } := by
  simp only [schedule, gate, setPending, modifyCollector]
  split <;> rfl

theorem deregister_gate (s : CollectedHeap H) (worker : WorkerId) :
    (s.deregister worker).Ensures (Fault.Foreign H) fun o =>
      (o.answer, o.state.gate) = s.gate.deregister worker := by
  refine (collect_gate s).andThen fun collected h => ?_
  rw [← h]
  dsimp only
  split
  · rename_i nobody
    have nobody : collected.state.gate.alive = 0 := nobody
    show (_, CollectedHeap.gate _) = _
    simp [Gate.deregister, nobody]
  · rename_i rest manned
    have manned : collected.state.gate.alive = rest + 1 := manned
    show (_, CollectedHeap.gate _) = _
    simp only [Gate.deregister, manned]
    rfl

end CollectedHeap

end RefCycle
