import Mathlib
import RefCycle.Collector.Course
import RefCycle.Session.Transcript
import RefCycle.Proofs.Collector.Gate
/-!
# What a section can do

The cases of `CollectedHeap.run`, each with the state that it leaves and the
condition under which it occurs. What is said about all sections is said by these
cases, and so is what is said about passes, scans and coming to the barrier.

## Main definitions

* `CollectedHeap.Pass`, `CollectedHeap.Scan` — the cases of a pass and of a scan.
* `CollectedHeap.AtBarrier` — the cases of coming to the barrier.
* `CollectedHeap.counted` — a call has arrived, and the scheduler had its turn.
* `CollectedHeap.Turns` — the cases of a section.

## Main statements

* `pass_of_collect`, `scan_of_run`, `runEpisode_eq_ok`, `atBarrier_of_barrier`,
  `turns_of_run` — what succeeds is one of the cases.
* `Turns.arrivals` — the arrivals that are counted are the calls that wait and those
  that were lost.
* `Turns.released` — a section leaves the heap as it is or releases one group.
-/

namespace RefCycle.CollectedHeap

variable {H : Type} [Reclaimable H] {s t : CollectedHeap H} {worker : WorkerId} {now : Instant}
  {part : Collector.Section}

theorem bind_eq_ok {ε α β : Type} {x : Except ε α} {f : α → Except ε β} {b : β}
    (run : x >>= f = .ok b) : ∃ a, x = .ok a ∧ f a = .ok b := by
  cases x with
  | error => contradiction
  | ok a => exact ⟨a, rfl, run⟩

/-! ### Passes -/

/-- The cases of a pass: there is no snapshot, or it is consumed. -/
inductive Pass (s : CollectedHeap H) : Outcome (CollectedHeap H) Nat → Prop where
  | nothing (empty : s.collector.snapshot = none) : Pass s ⟨0, s, []⟩
  | consumed {snapshot : Snapshot} {trial : TrialDeletion} {release : Outcome H Nat}
      {statistics : Statistics} (pending : s.collector.snapshot = some snapshot)
      (tried : snapshot.trialDelete (Reclaimable.refCount? s.heap) = trial)
      (released : releaseConfirmed s.heap trial.confirmed = .ok release)
      (recorded : s.collector.statistics.record
        { Statistics.zero with
          collections := 1
          reclaimed := release.answer
          disqualified := trial.disqualified.length } = .ok statistics) :
      Pass s
        { answer := release.answer
          state :=
            { heap := release.state
              collector :=
                { s.collector with
                  snapshot := none
                  pending := { s.collector.pending with collection := false }
                  statistics } }
          trace :=
            snapshot.roots.map (countOf s.heap) ++
            trial.disqualified.map (fun object => .collector (.changed object)) ++
            release.trace ++
            [.collector (.collected snapshot.len trial.confirmed.length trial.disqualified.length
              release.answer)] }

theorem pass_of_collect {o : Outcome (CollectedHeap H) Nat} (run : s.collect = .ok o) :
    s.Pass o := by
  unfold collect at run
  split at run
  · rename_i empty
    cases run
    exact .nothing empty
  · rename_i snapshot pending
    obtain ⟨release, released, run⟩ := bind_eq_ok run
    obtain ⟨statistics, recorded, run⟩ := bind_eq_ok run
    cases run
    exact .consumed pending rfl released recorded

theorem releaseConfirmed_eq_ok {heap : H} {confirmed : List ObjectId} {o : Outcome H Nat}
    (run : releaseConfirmed heap confirmed = .ok o) :
    (confirmed = [] ∧ o = ⟨0, heap, []⟩) ∨
    ∃ release, confirmed ≠ [] ∧ Reclaimable.releaseGroup heap confirmed = .ok release ∧
      o = ⟨release.reclaimed, release.heap,
        .consulted (.releaseGroup confirmed release.reclaimed) :: release.records.map .heap⟩ := by
  unfold releaseConfirmed at run
  split at run
  · rename_i empty
    cases run
    exact .inl ⟨empty, rfl⟩
  · rename_i nonempty
    split at run
    · contradiction
    · cases run
      exact .inr ⟨_, nonempty, ‹_›, rfl⟩

/-- A pass takes the snapshot, and changes nothing else but statistics and one flag. -/
structure Swept (s t : CollectedHeap H) : Prop where
  snapshot : t.collector.snapshot = none
  rest : ∃ statistics collection, t.collector =
    { s.collector with
      snapshot := none
      pending := { s.collector.pending with collection }
      statistics }

omit [Reclaimable H] in
theorem Swept.requested (swept : s.Swept t) :
    t.collector.pending.rendezvous = s.collector.pending.rendezvous := by
  obtain ⟨statistics, collection, rest⟩ := swept.rest
  rw [rest]

omit [Reclaimable H] in
theorem Swept.arrivals (swept : s.Swept t) : t.collector.arrivals = s.collector.arrivals := by
  obtain ⟨statistics, collection, rest⟩ := swept.rest
  rw [rest]

omit [Reclaimable H] in
theorem Swept.parked (swept : s.Swept t) : t.collector.parked = s.collector.parked := by
  obtain ⟨statistics, collection, rest⟩ := swept.rest
  rw [rest]

omit [Reclaimable H] in
theorem Swept.workers (swept : s.Swept t) : t.collector.workers = s.collector.workers := by
  obtain ⟨statistics, collection, rest⟩ := swept.rest
  rw [rest]

theorem Pass.swept {o : Outcome (CollectedHeap H) Nat} (pass : s.Pass o) : s.Swept o.state := by
  cases pass with
  | nothing empty =>
    exact ⟨empty, s.collector.statistics, s.collector.pending.collection, by simp [← empty]⟩
  | consumed => exact ⟨rfl, _, false, rfl⟩

/-! ### Episodes -/

/-- What a scan has to tell of the heap before it counts itself. -/
def scanned (heap : H) : Trace :=
  let detection := Reclaimable.detect heap
  detection.records.map .heap ++ .consulted (.detect detection.candidates) ::
    (detection.candidates.getD []).map (countOf heap)

/-- What a scan of a heap captures. -/
def candidates (heap : H) : Option Snapshot :=
  Snapshot.capture (Reclaimable.refCount? heap) ((Reclaimable.detect heap).candidates.getD [])

/-- The cases of a scan: some candidate is captured, or none. -/
inductive Scan (s : CollectedHeap H) : Outcome (CollectedHeap H) Unit → Prop where
  | captured {snapshot : Snapshot} {statistics : Statistics}
      (found : candidates s.heap = some snapshot)
      (recorded : s.collector.statistics.record { Statistics.zero with scans := 1 } =
        .ok statistics) :
      Scan s
        { answer := ()
          state := s.modifyCollector fun c =>
            { c with
              snapshot := some snapshot
              pending := { c.pending with scan := false, collection := true }
              statistics }
          trace := scanned s.heap ++ [.collector (.captured snapshot.len)] }
  | foundNothing {statistics : Statistics} (empty : candidates s.heap = none)
      (recorded : s.collector.statistics.record
        { Statistics.zero with scans := 1, emptyScans := 1 } = .ok statistics) :
      Scan s
        { answer := ()
          state := s.modifyCollector fun c =>
            { c with pending := { c.pending with scan := false }, statistics }
          trace := scanned s.heap ++ [.collector .foundNothing] }

theorem scan_of_run {o : Outcome (CollectedHeap H) Unit} (run : s.scan = .ok o) : s.Scan o := by
  unfold scan at run
  dsimp only at run
  split at run
  · rename_i snapshot captured
    obtain ⟨statistics, recorded, run⟩ := bind_eq_ok run
    cases run
    exact .captured captured recorded
  · rename_i uncaptured
    obtain ⟨statistics, recorded, run⟩ := bind_eq_ok run
    cases run
    exact .foundNothing uncaptured recorded

/-- An episode succeeds in three parts: it is counted, and a pass and a scan take
    place as far as they are wanted. -/
theorem runEpisode_eq_ok {o : Outcome (CollectedHeap H) Unit} (run : s.runEpisode = .ok o) :
    ∃ (statistics : Statistics) (pass scan : Outcome (CollectedHeap H) Unit),
      s.collector.statistics.record { Statistics.zero with episodes := 1 } = .ok statistics ∧
      (s.modifyCollector ({ · with statistics })).collectIfPending = .ok pass ∧
      pass.state.scanIfPending = .ok scan ∧ o.state = scan.state ∧
      o.trace = .collector (.episode s.collector.workers.alive s.collector.pending) ::
        (pass.trace ++ scan.trace) := by
  obtain ⟨opened, rest, first, others, rfl⟩ := Attempt.andThen_eq_ok_iff.1 run
  obtain ⟨statistics, recorded, counted⟩ := bind_eq_ok first
  cases counted
  obtain ⟨pass, scan, second, third, rfl⟩ := Attempt.andThen_eq_ok_iff.1 others
  exact ⟨statistics, pass, scan, recorded, second, third, rfl, rfl⟩

/-! ### The barrier -/

/-- The cases of coming to the barrier. -/
inductive AtBarrier (s : CollectedHeap H) (worker : WorkerId) :
    Outcome (CollectedHeap H) Passage → Prop where
  | passes {arrivals : Nat} (idle : s.collector.pending.rendezvous = false)
      (came : s.collector.arrivals = arrivals + 1) :
      AtBarrier s worker ⟨.passed, s.modifyCollector ({ · with arrivals }), []⟩
  | waits (wanted : s.collector.pending.rendezvous = true)
      (short : s.collector.arrivals < s.collector.workers.alive) :
      AtBarrier s worker
        ⟨.waiting, s.modifyCollector fun c => { c with parked := c.parked ++ [worker] },
          [.collector (.waiting worker s.collector.arrivals s.collector.workers.alive)]⟩
  | completes {arrivals : Nat} {episode : Outcome (CollectedHeap H) Unit}
      (wanted : s.collector.pending.rendezvous = true)
      (full : s.collector.workers.alive ≤ s.collector.arrivals)
      (ran : s.runEpisode = .ok episode)
      (came : episode.state.collector.arrivals = arrivals + 1) :
      AtBarrier s worker
        ⟨.completed, episode.state.modifyCollector fun c =>
          { c with pending := { c.pending with rendezvous := false }, arrivals }, episode.trace⟩

omit [Reclaimable H] in
theorem leave_eq_ok {passage : Passage} {o : Outcome (CollectedHeap H) Passage}
    (run : s.leave passage = .ok o) :
    ∃ arrivals, s.collector.arrivals = arrivals + 1 ∧
      o = ⟨passage, s.modifyCollector ({ · with arrivals }), []⟩ := by
  unfold leave at run
  split at run
  · contradiction
  · rename_i arrivals came
    cases run
    exact ⟨arrivals, came, rfl⟩

theorem atBarrier_of_barrier {o : Outcome (CollectedHeap H) Passage}
    (run : s.barrier worker = .ok o) : s.AtBarrier worker o := by
  unfold barrier at run
  split at run
  · rename_i wanted
    split at run
    · rename_i short
      cases run
      exact .waits wanted short
    · rename_i full
      obtain ⟨episode, left, ran, leaves, rfl⟩ := Attempt.andThen_eq_ok_iff.1 run
      obtain ⟨arrivals, came, rfl⟩ := leave_eq_ok leaves
      rw [List.append_nil]
      exact .completes wanted (Nat.le_of_not_lt full) ran came
  · rename_i idle
    obtain ⟨arrivals, came, rfl⟩ := leave_eq_ok run
    exact .passes (Bool.not_eq_true _ ▸ idle) came

/-! ### Sections -/

/-- What is pending after the scheduler had its turn at a safepoint. -/
def pendingAt (s : CollectedHeap H) (now : Instant) : PendingWork :=
  if s.scanDue now then { s.collector.pending with rendezvous := true, scan := true }
  else s.collector.pending

/-- A call has arrived, and the scheduler had its turn. -/
def counted (s : CollectedHeap H) (now : Instant) : CollectedHeap H :=
  s.modifyCollector fun c =>
    { c with
      arrivals := c.arrivals + 1
      scheduler := (c.scheduler.advance now).2
      pending := s.pendingAt now }

omit [Reclaimable H] in
theorem collection_pendingAt (s : CollectedHeap H) (now : Instant) :
    (s.pendingAt now).collection = s.collector.pending.collection := by
  unfold pendingAt
  split <;> rfl

omit [Reclaimable H] in
theorem requested_pendingAt (requested : s.collector.pending.rendezvous = true) (now : Instant) :
    (s.pendingAt now).rendezvous = true := by
  unfold pendingAt
  split
  · rfl
  · exact requested

/-- The cases of a section. A call that arrives may take the pending snapshot on its
    way to the barrier, unless that is left to a rendezvous or to another worker. -/
inductive Turns (s : CollectedHeap H) : Collector.Section →
    Outcome (CollectedHeap H) (Except Misuse (Option Passage)) → Prop where
  | added {worker : WorkerId} :
      Turns s (.addWorker worker)
        ⟨.ok none, (s.addWorker worker).state, (s.addWorker worker).trace⟩
  | scheduled : Turns s .schedule ⟨.ok none, s.schedule.state, s.schedule.trace⟩
  | collected {o : Outcome (CollectedHeap H) Nat} (pass : s.Pass o) :
      Turns s .collect ⟨.ok none, o.state, o.trace⟩
  | unmanned {worker : WorkerId} {o : Outcome (CollectedHeap H) Nat} (pass : s.Pass o)
      (nobody : s.collector.workers.alive = 0) :
      Turns s (.removeWorker worker)
        ⟨.error (.noWorkerToRemove worker), o.state, o.trace⟩
  | removed {worker : WorkerId} {alive : Nat} {o : Outcome (CollectedHeap H) Nat}
      (pass : s.Pass o) (manned : s.collector.workers.alive = alive + 1) :
      Turns s (.removeWorker worker)
        ⟨.ok none, o.state.modifyCollector fun c =>
          { c with workers := { c.workers with alive } },
          o.trace ++ [.collector (.removed worker alive)]⟩
  | lost {worker : WorkerId} {now : Instant}
      (excess : s.collector.workers.alive < s.collector.arrivals + 1) :
      Turns s (.arrive worker now)
        ⟨.error (.unregisteredArrival worker),
          s.modifyCollector fun c => { c with arrivals := c.arrivals + 1 }, []⟩
  | swept {worker : WorkerId} {now : Instant} {o : Outcome (CollectedHeap H) Nat}
      {before : Trace} (room : s.collector.arrivals + 1 ≤ s.collector.workers.alive)
      (idle : (s.pendingAt now).rendezvous = false)
      (wanted : s.collector.pending.collection = true)
      (pass : (s.counted now).Pass o) (silent : before.consultations = []) :
      Turns s (.arrive worker now)
        ⟨.ok (some .passed), o.state.modifyCollector fun c =>
          { c with arrivals := s.collector.arrivals }, before ++ o.trace⟩
  | arrived {worker : WorkerId} {now : Instant} {o : Outcome (CollectedHeap H) Passage}
      {before : Trace} (room : s.collector.arrivals + 1 ≤ s.collector.workers.alive)
      (left : s.collector.pending.collection = true → (s.pendingAt now).rendezvous = true ∨
        (s.collector.config.spareFirstWorker = true ∧ s.collector.workers.isFirst worker = true))
      (barrier : (s.counted now).AtBarrier worker o) (silent : before.consultations = []) :
      Turns s (.arrive worker now) ⟨.ok (some o.answer), o.state, before ++ o.trace⟩
  | resumed {worker : WorkerId} {o : Outcome (CollectedHeap H) Passage}
      (barrier : (s.modifyCollector fun c =>
        { c with parked := c.parked.erase worker }).AtBarrier worker o) :
      Turns s (.resume worker) ⟨.ok (some o.answer), o.state, o.trace⟩

omit [Reclaimable H] in
theorem countSafepoint_eq_ok (s : CollectedHeap H) (now : Instant) :
    ∃ trace : Trace, trace.consultations = [] ∧
      (s.modifyCollector fun c => { c with arrivals := c.arrivals + 1 }).countSafepoint now =
        .ok ⟨(), s.counted now, trace⟩ := by
  unfold countSafepoint
  dsimp only
  split
  · rename_i due
    have wanted : s.scanDue now = true := decide_eq_true due
    refine ⟨[.collector (.scanDue (s.collector.scheduler.advance now).2.tick)], rfl, ?_⟩
    simp [counted, pendingAt, wanted, setPending, modifyCollector]
  · rename_i early
    have unwanted : s.scanDue now = false := decide_eq_false early
    refine ⟨[], rfl, ?_⟩
    simp [counted, pendingAt, unwanted, modifyCollector, Attempt.done]

theorem turns_of_arrive {o : Outcome (CollectedHeap H) (Except Misuse (Option Passage))}
    (run : s.run (.arrive worker now) = .ok o) : s.Turns (.arrive worker now) o := by
  obtain ⟨came, arrives, rfl⟩ := Attempt.map_eq_ok_iff.1 run
  unfold arrive at arrives
  dsimp only at arrives
  split at arrives
  · rename_i excess
    cases arrives
    exact .lost excess
  · rename_i room
    have room : s.collector.arrivals + 1 ≤ s.collector.workers.alive := Nat.le_of_not_lt room
    obtain ⟨before, silent, safepoint⟩ := s.countSafepoint_eq_ok now
    obtain ⟨first, rest, counts, follows, rfl⟩ := Attempt.andThen_eq_ok_iff.1 arrives
    obtain rfl := Except.ok.inj (safepoint.symm.trans counts)
    obtain ⟨taken, rest, takes, comes, rfl⟩ := Attempt.andThen_eq_ok_iff.1 follows
    obtain ⟨o, reaches, rfl⟩ := Attempt.map_eq_ok_iff.1 comes
    have barrier := atBarrier_of_barrier reaches
    unfold collectAtSafepoint at takes
    split at takes
    · rename_i wanted
      split at takes
      · rename_i spared
        cases takes
        rw [← List.append_assoc]
        refine .arrived room (fun _ => .inr spared) barrier ?_
        rw [Trace.consultations, List.filterMap_append]
        exact List.append_eq_nil_iff.2 ⟨silent, rfl⟩
      · -- After the pass still no rendezvous is requested, so the call passes.
        obtain ⟨pass, collects, rfl⟩ := Attempt.map_eq_ok_iff.1 takes
        have pass := pass_of_collect collects
        have idle : (s.pendingAt now).rendezvous = false := Bool.not_eq_true _ ▸ wanted.2
        have requested := pass.swept.requested.trans idle
        have arrivals := pass.swept.arrivals
        cases barrier with
        | passes _ came =>
          obtain rfl := Nat.succ.inj (came.symm.trans arrivals)
          rw [List.append_nil]
          exact .swept room idle (s.collection_pendingAt now ▸ wanted.1) pass silent
        | waits requests => exact absurd (requested.symm.trans requests) Bool.false_ne_true
        | completes requests => exact absurd (requested.symm.trans requests) Bool.false_ne_true
    · rename_i unwanted
      cases takes
      refine .arrived room (fun wanted => .inl ?_) barrier silent
      cases requested : (s.pendingAt now).rendezvous with
      | true => rfl
      | false =>
        refine absurd ⟨(s.collection_pendingAt now).trans wanted, fun requests => ?_⟩ unwanted
        exact Bool.false_ne_true (requested.symm.trans requests)

theorem turns_of_run {o : Outcome (CollectedHeap H) (Except Misuse (Option Passage))}
    (run : s.run part = .ok o) : s.Turns part o := by
  cases part with
  | addWorker worker =>
    cases run
    exact .added
  | schedule =>
    cases run
    exact .scheduled
  | arrive worker now => exact turns_of_arrive run
  | collect =>
    rw [CollectedHeap.run] at run
    obtain ⟨o, collects, rfl⟩ := Attempt.map_eq_ok_iff.1 run
    exact .collected (pass_of_collect collects)
  | resume worker =>
    rw [CollectedHeap.run] at run
    obtain ⟨o, resumes, rfl⟩ := Attempt.map_eq_ok_iff.1 run
    exact .resumed (atBarrier_of_barrier resumes)
  | removeWorker worker =>
    obtain ⟨o, deregisters, rfl⟩ := Attempt.map_eq_ok_iff.1 run
    obtain ⟨pass, rest, collects, leaves, rfl⟩ := Attempt.andThen_eq_ok_iff.1 deregisters
    have pass := pass_of_collect collects
    split at leaves
    · rename_i nobody
      cases leaves
      rw [List.append_nil]
      exact .unmanned pass (pass.swept.workers ▸ nobody)
    · rename_i alive manned
      cases leaves
      exact .removed pass (pass.swept.workers ▸ manned)

/-! ### What all sections have in common -/

/-- A heap is left as it is, or by the release of a group. -/
def Released (heap next : H) : Prop :=
  next = heap ∨ ∃ group release, Reclaimable.releaseGroup heap group = .ok release ∧
    next = release.heap

theorem Pass.released {o : Outcome (CollectedHeap H) Nat} (pass : s.Pass o) :
    Released s.heap o.state.heap := by
  cases pass with
  | nothing empty => exact .inl rfl
  | consumed pending tried released recorded =>
    obtain ⟨-, rfl⟩ | ⟨release, -, run, rfl⟩ := releaseConfirmed_eq_ok released
    · exact .inl rfl
    · exact .inr ⟨_, release, run, rfl⟩

theorem scanIfPending_heap {o : Outcome (CollectedHeap H) Unit} (run : s.scanIfPending = .ok o) :
    o.state.heap = s.heap := by
  unfold scanIfPending at run
  split at run
  · cases scan_of_run run <;> rfl
  · cases run
    rfl

theorem runEpisode_released {o : Outcome (CollectedHeap H) Unit} (run : s.runEpisode = .ok o) :
    Released s.heap o.state.heap := by
  obtain ⟨statistics, pass, scan, -, takes, scans, state, -⟩ := runEpisode_eq_ok run
  rw [state, scanIfPending_heap scans]
  unfold collectIfPending at takes
  split at takes
  · obtain ⟨pass, collects, rfl⟩ := Attempt.map_eq_ok_iff.1 takes
    exact (pass_of_collect collects).released
  · cases takes
    exact .inl rfl

theorem AtBarrier.released {o : Outcome (CollectedHeap H) Passage}
    (barrier : s.AtBarrier worker o) : Released s.heap o.state.heap := by
  cases barrier with
  | passes => exact .inl rfl
  | waits => exact .inl rfl
  | completes wanted full ran came => exact runEpisode_released ran

theorem Turns.released {o : Outcome (CollectedHeap H) (Except Misuse (Option Passage))}
    (turns : s.Turns part o) : Released s.heap o.state.heap := by
  cases turns with
  | added | scheduled | lost => exact .inl rfl
  | collected pass | unmanned pass | removed pass => exact pass.released
  | swept room idle wanted pass => exact pass.released
  | arrived room left barrier => exact barrier.released
  | resumed barrier => exact barrier.released

theorem AtBarrier.arrivals {o : Outcome (CollectedHeap H) Passage} {lost : Nat}
    (barrier : s.AtBarrier worker o)
    (counted : s.collector.arrivals = s.collector.parked.length + lost + 1) :
    o.state.collector.arrivals = o.state.collector.parked.length + lost := by
  cases barrier with
  | passes idle came => exact Nat.succ.inj (came.symm.trans counted)
  | waits wanted short =>
    simp only [modifyCollector, List.length_append, List.length_singleton]
    omega
  | @completes arrivals episode wanted full ran came =>
    have same := (runEpisode_gate s).of_ok ran
    have kept : episode.state.collector.arrivals = s.collector.arrivals :=
      congrArg Gate.arrivals same
    have parked : episode.state.collector.parked = s.collector.parked := congrArg Gate.parked same
    simp only [modifyCollector, parked]
    omega

theorem Turns.arrivals {o : Outcome (CollectedHeap H) (Except Misuse (Option Passage))}
    {lost : Nat} (turns : s.Turns part o) (enabled : s.Enabled part)
    (counted : s.collector.arrivals = s.collector.parked.length + lost) :
    o.state.collector.arrivals =
      o.state.collector.parked.length + (lost + Collector.lostArrivals o.answer) := by
  cases turns with
  | added | scheduled => exact counted
  | collected pass | unmanned pass | removed pass =>
    exact (pass.swept.arrivals.trans counted).trans (by rw [← pass.swept.parked]; rfl)
  | lost excess => exact congrArg (· + 1) counted
  | @swept worker now o before room idle wanted pass =>
    have parked : o.state.collector.parked = s.collector.parked := pass.swept.parked
    show s.collector.arrivals = o.state.collector.parked.length + lost
    rw [parked]
    exact counted
  | arrived room left barrier => exact barrier.arrivals (congrArg (· + 1) counted)
  | @resumed worker o barrier =>
    refine barrier.arrivals ?_
    have waits := List.length_pos_of_mem (enabled worker rfl)
    show s.collector.arrivals = (s.collector.parked.erase worker).length + lost + 1
    rw [List.length_erase_of_mem (enabled worker rfl)]
    omega

end RefCycle.CollectedHeap
