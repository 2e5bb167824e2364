import RefCycle.Collector.Round
import RefCycle.Proofs.Collector.Agreement
import RefCycle.Proofs.Collector.Capacity
import RefCycle.Proofs.Collector.Meeting
import RefCycle.Proofs.Heap.Accounting
import RefCycle.Proofs.Heap.Clearance
/-!
# Rounds leave no garbage

A round in which no snapshot is pending scans the heap while all workers are stopped,
and collects what it found before anything changes; so it leaves what mutators can
reach, and nothing else. A snapshot from earlier is consumed by a first round, which
then need not scan, and a second one does it.

## Main definitions

* `CollectedHeap.InOrder` — the books are in order, and the flags agree.
* `CollectedHeap.Gathered` — what is left when a round is over.

## Main statements

* `Course.sound` — what holds of the books and the barrier whatever workers do.
* `Pass.clear` — to collect a scan of the present heap leaves no garbage.
* `Awaits.gathers` — calls come to a rendezvous one after another, and all return.
* `Resting.round`, `Resting.rounds` — what a round does, and what many do.
* `rounds_leave_no_garbage` — what any number of rounds leaves.
-/

namespace RefCycle

namespace CollectedHeap

variable {order : VisitOrder} {held : ObjectId → Nat} {s t : CollectedHeap Heap} {full : Prop}
  {room : Nat}

/-! ### Heaps with books in order -/

/-- The books of the heap are in order, and the flags of the collector agree. -/
structure InOrder [VisitOrder] (held : ObjectId → Nat) (s : CollectedHeap Heap) : Prop where
  balanced : s.heap.Balanced held []
  referenced : s.heap.Unreferenced []
  agrees : s.Agrees

theorem releaseGroup_eq_ok {h : Heap} {group : List ObjectId} {reclamation : Reclamation Heap}
    (run : Reclaimable.releaseGroup h group = .ok reclamation) :
    ∃ release, h.releaseGroup group = .ok release ∧ reclamation.heap = release.heap := by
  simp only [Reclaimable.releaseGroup] at run
  split at run
  · contradiction
  · cases run
    exact ⟨_, ‹_›, rfl⟩

theorem Released.kept {h k : Heap} (released : Released h k) (balanced : h.Balanced held [])
    (referenced : h.Unreferenced []) :
    Heap.Shrinks h k ∧ k.Balanced held [] ∧ k.Unreferenced [] := by
  obtain rfl | ⟨group, reclamation, run, rfl⟩ := released
  · exact ⟨.refl _, balanced, referenced⟩
  · obtain ⟨release, run, eq⟩ := releaseGroup_eq_ok run
    obtain ⟨other, done, kept⟩ := Heap.releaseGroup_balanced balanced referenced group
    obtain rfl := Except.ok.inj (done.symm.trans run)
    rw [eq]
    exact ⟨Heap.releaseGroup_shrinks run, kept⟩

theorem candidates_eq (h : Heap) : candidates h = Snapshot.capture h.refCount? h.garbage := by
  rw [candidates, candidates_detect]
  rfl

theorem roots_of_candidates {h : Heap} {snapshot : Snapshot}
    (found : candidates h = some snapshot) :
    snapshot.roots = h.garbage ∧
      ∀ entry ∈ snapshot.entries, h.refCount? entry.1 = some entry.2 := by
  rw [candidates_eq] at found
  exact ⟨Snapshot.roots_of_capture found fun p mem =>
    Heap.isSome_refCount?_iff.2 (Heap.mem_garbage_iff.1 mem).1, Snapshot.count_of_capture found⟩

theorem garbage_of_candidates {h : Heap} (empty : candidates h = none) : h.garbage = [] := by
  by_contra littered
  obtain ⟨p, mem⟩ := List.exists_mem_of_ne_nil _ littered
  have counted := Heap.isSome_refCount?_iff.2 (Heap.mem_garbage_iff.1 mem).1
  exact Snapshot.capture_ne_none_iff.2 ⟨p, mem, counted⟩ ((candidates_eq h).symm.trans empty)

/-- A pass over a scan of the present heap leaves no garbage. -/
theorem Pass.clear {o : Outcome (CollectedHeap Heap) Nat} (pass : s.Pass o)
    (inOrder : s.InOrder held) (fresh : s.collector.snapshot = candidates s.heap) :
    o.state.heap.Clear held := by
  obtain ⟨-, after, -⟩ := pass.released.kept inOrder.balanced inOrder.referenced
  cases pass with
  | nothing empty =>
    exact inOrder.balanced.clear_iff.2 (garbage_of_candidates (fresh.symm.trans empty))
  | @consumed snapshot trial release statistics pending tried released recorded =>
    subst tried
    obtain ⟨roots, captured⟩ := roots_of_candidates (fresh.symm.trans pending)
    have trial : snapshot.trialDelete (Reclaimable.refCount? s.heap) = ⟨snapshot.roots, []⟩ :=
      Snapshot.trialDelete_unchanged captured
    -- The heap is as it was when it was scanned, so all garbage is confirmed.
    rw [trial, roots] at released
    obtain ⟨empty, -⟩ | ⟨reclamation, -, run, rfl⟩ := releaseConfirmed_eq_ok released
    · exact absurd (roots.trans empty) (by simp [Snapshot.roots, snapshot.nonempty])
    · obtain ⟨release, run, eq⟩ := releaseGroup_eq_ok run
      show reclamation.heap.Clear held
      have after : reclamation.heap.Balanced held [] := after
      rw [eq] at after ⊢
      exact Heap.releaseGroup_garbage_clear inOrder.balanced run after

/-! ### Rounds -/

theorem candidateCount_le (fresh : s.collector.snapshot = candidates s.heap) :
    s.candidateCount ≤ s.heap.len := by
  rw [candidateCount, fresh]
  cases found : candidates s.heap with
  | none => exact Nat.zero_le _
  | some snapshot =>
    have roots := congrArg List.length (roots_of_candidates found).1
    rw [Snapshot.roots, List.length_map] at roots
    exact roots.trans_le (List.length_filter_le ..)

/-- What a round adds to a counter at most. -/
def roundLoad (s : CollectedHeap Heap) : Nat :=
  3 * s.heap.len + s.candidateCount + 4

/-- What an episode leaves: if it scanned, a scan of the heap as it then is. -/
structure Surveyed [VisitOrder] (held : ObjectId → Nat) (s t : CollectedHeap Heap) : Prop where
  inOrder : t.InOrder held
  less : Heap.Shrinks s.heap t.heap
  fresh : t.collector.snapshot = if s.collector.pending.scan then candidates t.heap else none
  alive : t.collector.workers.alive = s.collector.workers.alive

theorem runEpisode_surveys (inOrder : s.InOrder held)
    (has : s.collector.statistics.HasRoom full (room + 1 + s.passLoad + 1)) :
    s.runEpisode.Ensures (Fault.Full full) fun o =>
      s.Surveyed held o.state.opened ∧ o.state.collector.statistics.HasRoom full room := by
  refine ((runEpisode_room inOrder.balanced inOrder.referenced has).with_run.and
    (runEpisode_gate s)).mono ?_
  rintro o ⟨⟨run, left⟩, same⟩
  obtain ⟨during, -, conducted⟩ := inOrder.agrees.conducted run
  obtain ⟨less, balanced, referenced⟩ :=
    (runEpisode_released run).kept inOrder.balanced inOrder.referenced
  have agrees := conducted.agrees
  exact ⟨⟨⟨balanced, referenced, agrees.collection, agrees.scan⟩, less, conducted.snapshot,
    congrArg Gate.alive same⟩, left⟩

/-- The books and the flags are in order, and nobody is at the rendezvous. -/
structure Resting [VisitOrder] (held : ObjectId → Nat) (s : CollectedHeap Heap) : Prop where
  inOrder : s.InOrder held
  parked : s.collector.parked = []
  arrivals : s.collector.arrivals = 0

/-- What is left when all calls of a round have come and what they left was collected. -/
structure Gathered [VisitOrder] (held : ObjectId → Nat) (s t : CollectedHeap Heap) : Prop where
  resting : t.Resting held
  alive : t.collector.workers.alive = s.collector.workers.alive
  taken : t.collector.snapshot = none
  less : Heap.Shrinks s.heap t.heap
  clear : s.collector.pending.scan = true → t.heap.Clear held

theorem Surveyed.load (surveyed : s.Surveyed held t) : t.passLoad ≤ 2 * s.heap.len + 1 := by
  have fewer := surveyed.less.len_le
  have fresh := surveyed.fresh
  have captured : t.candidateCount ≤ t.heap.len := by
    split at fresh
    · exact candidateCount_le fresh
    · rw [candidateCount, fresh]
      exact Nat.zero_le _
  rw [passLoad]
  omega

theorem Surveyed.collected {o : Outcome (CollectedHeap Heap) Nat} (surveyed : s.Surveyed held t)
    (parked : t.collector.parked = []) (arrivals : t.collector.arrivals = 0) (pass : t.Pass o) :
    s.Gathered held o.state := by
  obtain ⟨inOrder, less, fresh, alive⟩ := surveyed
  obtain ⟨fewer, balanced, referenced⟩ := pass.released.kept inOrder.balanced inOrder.referenced
  have swept := pass.swept
  refine ⟨⟨⟨balanced, referenced, pass.agrees inOrder.agrees⟩, swept.parked.trans parked,
    swept.arrivals.trans arrivals⟩, ?_, swept.snapshot, less.trans fewer, fun wanted => ?_⟩
  · rw [swept.workers, alive]
  · rw [if_pos wanted] at fresh
    exact pass.clear inOrder fresh

theorem performAll_cons {request : Collector.Request} {requests : List Collector.Request}
    {fault : Fault → Prop}
    {mid : Outcome (CollectedHeap Heap) (Except Misuse Collector.Response) → Prop}
    {post : Outcome (CollectedHeap Heap) (List (Except Misuse Collector.Response)) → Prop}
    (first : (s.perform request).Ensures fault mid)
    (rest : ∀ a, mid a → (a.state.performAll requests).Ensures fault fun o =>
      ∀ trace, post ⟨a.answer :: o.answer, o.state, trace⟩) :
    (s.performAll (request :: requests)).Ensures fault post :=
  first.andThen fun a holds => Attempt.Ensures.map ((rest a holds).mono fun _ holds => holds _)

/-- A rendezvous is requested, and waits for so many calls. -/
structure Awaits [VisitOrder] (held : ObjectId → Nat) (callers : Nat) (s : CollectedHeap Heap) :
    Prop where
  inOrder : s.InOrder held
  requested : s.collector.pending.rendezvous = true
  arrivals : s.collector.arrivals = s.collector.parked.length
  missing : s.collector.arrivals + callers = s.collector.workers.alive

theorem scan_pendingAt (wanted : s.collector.pending.scan = true) (now : Instant) :
    (s.pendingAt now).scan = true := by
  unfold pendingAt
  split
  · rfl
  · exact wanted

theorem InOrder.counted (inOrder : s.InOrder held) (now : Instant) :
    (s.counted now).InOrder held :=
  ⟨inOrder.balanced, inOrder.referenced, inOrder.agrees.counted now⟩

theorem Awaits.waits {callers : Nat} (awaits : s.Awaits held (callers + 2)) (worker : WorkerId)
    (now : Instant) :
    (s.perform (.rendezvous worker now)).Ensures (Fault.Full full) fun o =>
      o.answer = .ok (.rendezvous ⟨.waiting, []⟩) ∧ o.state = s.joined worker now := by
  have missing := awaits.missing
  refine Attempt.Ensures.map (rendezvous_waits ?_ (requested_pendingAt awaits.requested now) ?_)
  · omega
  · exact fun trace => ⟨rfl, rfl⟩

theorem Awaits.joined {callers : Nat} (awaits : s.Awaits held (callers + 1)) (worker : WorkerId)
    (now : Instant) : (s.joined worker now).Awaits held callers where
  inOrder :=
    have agrees := awaits.inOrder.agrees.counted now
    ⟨awaits.inOrder.balanced, awaits.inOrder.referenced, agrees.collection, agrees.scan⟩
  requested := requested_pendingAt awaits.requested now
  arrivals := by
    rw [parked_joined, List.length_append, List.length_singleton]
    exact congrArg (· + 1) awaits.arrivals
  missing := (Nat.add_right_comm ..).trans ((Nat.add_assoc ..).trans awaits.missing)

theorem Awaits.completes (awaits : s.Awaits held 1) (worker : WorkerId) (now : Instant)
    (has : s.collector.statistics.HasRoom full (room + s.roundLoad)) :
    (s.perform (.rendezvous worker now)).Ensures (Fault.Full full) fun o =>
      o.answer = .ok (.rendezvous ⟨.completed, s.collector.parked⟩) ∧
      ∃ ran : CollectedHeap Heap, o.state = ran.opened ∧
        (s.counted now).Surveyed held ran.opened ∧
        ran.collector.statistics.HasRoom full (room + ran.opened.passLoad) := by
  have load : room + s.roundLoad =
      room + (2 * s.heap.len + 1) + 1 + (s.counted now).passLoad + 1 := by
    have same : (s.counted now).passLoad = s.heap.len + s.candidateCount + 1 := rfl
    rw [same, roundLoad]
    omega
  rw [load] at has
  refine Attempt.Ensures.map (rendezvous_completes awaits.arrivals awaits.missing
    (requested_pendingAt awaits.requested now) ?_)
  refine (runEpisode_surveys (awaits.inOrder.counted now) has).mono ?_
  rintro ran ⟨surveyed, left⟩ trace
  exact ⟨rfl, ran.state, rfl, surveyed, left.mono (Nat.add_le_add_left surveyed.load room)⟩

theorem Surveyed.collects (surveyed : s.Surveyed held t.opened)
    (has : t.collector.statistics.HasRoom full (room + t.opened.passLoad)) :
    (t.opened.perform .collect).Ensures (Fault.Full full) fun o =>
      (∃ reclaimed, o.answer = .ok (.reclaimed reclaimed)) ∧ s.Gathered held o.state ∧
        o.state.collector.statistics.HasRoom full room := by
  rw [perform]
  refine Attempt.Ensures.map ((collect_room surveyed.inOrder.balanced surveyed.inOrder.referenced
    has).with_run.mono ?_)
  rintro o ⟨run, left⟩
  exact ⟨⟨o.answer, rfl⟩, surveyed.collected rfl rfl (pass_of_collect run), left⟩

theorem Gathered.of_same {u : CollectedHeap Heap} (gathered : u.Gathered held t)
    (heap : u.heap = s.heap) (alive : u.collector.workers.alive = s.collector.workers.alive)
    (scan : s.collector.pending.scan = true → u.collector.pending.scan = true) :
    s.Gathered held t where
  resting := gathered.resting
  alive := gathered.alive.trans alive
  taken := gathered.taken
  less := heap ▸ gathered.less
  clear wanted := gathered.clear (scan wanted)

/-- The calls of a round come to a requested rendezvous one after another, and what the
    last of them leaves is collected. -/
theorem Awaits.gathers {callers : List (WorkerId × Instant)} (nonempty : callers ≠ [])
    (awaits : s.Awaits held callers.length)
    (has : s.collector.statistics.HasRoom full (room + s.roundLoad)) :
    (s.performAll (callers.map (fun caller => .rendezvous caller.1 caller.2) ++
      [.collect])).Ensures (Fault.Full full) fun o =>
        (∃ reclaimed, o.answer = callers.dropLast.map (fun _ => .ok (.rendezvous ⟨.waiting, []⟩)) ++
          [.ok (.rendezvous ⟨.completed, s.collector.parked ++ callers.dropLast.map Prod.fst⟩),
            .ok (.reclaimed reclaimed)]) ∧
        s.Gathered held o.state ∧ o.state.collector.statistics.HasRoom full room := by
  -- The calls that wait pile up in `parked`, and leave in this order with the last one.
  induction callers generalizing s with
  | nil => contradiction
  | cons caller callers ih =>
    cases callers with
    | nil =>
      refine performAll_cons (awaits.completes caller.1 caller.2 has) ?_
      rintro ⟨_, _, _⟩ ⟨rfl, ran, rfl, surveyed, has⟩
      refine performAll_cons (surveyed.collects has) ?_
      rintro ⟨_, state, _⟩ ⟨⟨reclaimed, rfl⟩, gathered, left⟩ trace trace'
      refine ⟨⟨reclaimed, ?_⟩, ?_, left⟩
      · simp
      · exact gathered.of_same rfl rfl fun wanted => scan_pendingAt wanted _
    | cons next rest =>
      refine performAll_cons (awaits.waits caller.1 caller.2) ?_
      rintro ⟨_, _, _⟩ ⟨rfl, rfl⟩
      refine (ih (List.cons_ne_nil _ _) (awaits.joined caller.1 caller.2) has).mono ?_
      rintro o ⟨⟨reclaimed, answer⟩, gathered, left⟩ trace
      have whole : s.Gathered held o.state :=
        gathered.of_same rfl rfl fun wanted => scan_pendingAt wanted caller.2
      refine ⟨⟨reclaimed, ?_⟩, whole, left⟩
      rw [answer]
      simp

theorem Resting.scheduled (resting : s.Resting held) :
    s.schedule.state.Awaits held s.collector.workers.alive where
  inOrder :=
    ⟨resting.inOrder.balanced, resting.inOrder.referenced, resting.inOrder.agrees.scheduled⟩
  requested := congrArg Gate.requested (schedule_gate s)
  arrivals := by
    show s.collector.arrivals = s.collector.parked.length
    rw [resting.arrivals, resting.parked]
    rfl
  missing := by
    show s.collector.arrivals + s.collector.workers.alive = s.collector.workers.alive
    rw [resting.arrivals, Nat.zero_add]

theorem scan_schedule (empty : s.collector.snapshot = none) :
    s.schedule.state.collector.pending.scan = true := by
  simp [schedule, setPending, modifyCollector, empty]

/-- All calls of a round return, and it leaves no snapshot. If there was none before, it
    leaves no garbage. -/
theorem Resting.round {callers : List (WorkerId × Instant)} (resting : s.Resting held)
    (manned : 0 < s.collector.workers.alive)
    (complete : callers.length = s.collector.workers.alive)
    (has : s.collector.statistics.HasRoom full (room + s.roundLoad)) :
    (s.performAll (Collector.round callers)).Ensures (Fault.Full full) fun o =>
      Collector.Returned callers o.answer ∧ s.schedule.state.Gathered held o.state ∧
        o.state.collector.statistics.HasRoom full room := by
  have schedules : (s.perform .schedule).Ensures (Fault.Full full)
      (fun o => o.answer = .ok .done ∧ o.state = s.schedule.state) := ⟨rfl, rfl⟩
  refine performAll_cons schedules ?_
  rintro ⟨_, _, _⟩ ⟨rfl, rfl⟩
  have nonempty : callers ≠ [] := List.ne_nil_of_length_pos (complete ▸ manned)
  refine ((complete ▸ resting.scheduled).gathers nonempty has).mono ?_
  rintro o ⟨⟨reclaimed, answer⟩, gathered, left⟩ trace
  refine ⟨⟨reclaimed, ?_⟩, gathered, left⟩
  have parked : s.schedule.state.collector.parked = [] := resting.parked
  rw [parked, List.nil_append] at answer
  rw [answer]

/-- What is left after rounds of which the last has scanned: no garbage, and no snapshot. -/
structure Rested [VisitOrder] (held : ObjectId → Nat) (s t : CollectedHeap Heap) : Prop where
  resting : t.Resting held
  taken : t.collector.snapshot = none
  less : Heap.Shrinks s.heap t.heap
  clear : t.heap.Clear held

/-- Of rounds one after another, the first consumes a snapshot that is pending, and the
    next leaves no garbage. -/
theorem Resting.rounds {rounds : List (List (WorkerId × Instant))} (resting : s.Resting held)
    (manned : 0 < s.collector.workers.alive)
    (complete : ∀ callers ∈ rounds, callers.length = s.collector.workers.alive)
    (enough : (s.collector.snapshot = none ∧ rounds ≠ []) ∨ 2 ≤ rounds.length)
    (has : s.collector.statistics.HasRoom full
      (rounds.length * (3 * s.heap.len + 4) + s.candidateCount)) :
    (s.performRounds rounds).Ensures (Fault.Full full) fun o =>
      List.Forall₂ Collector.Returned rounds o.answer ∧ s.Rested held o.state := by
  induction rounds generalizing s with
  | nil => simp at enough
  | cons callers rounds ih =>
    have load : (callers :: rounds).length * (3 * s.heap.len + 4) + s.candidateCount =
        rounds.length * (3 * s.heap.len + 4) + s.roundLoad := by
      rw [List.length_cons, Nat.succ_mul, roundLoad]
      omega
    rw [load] at has
    refine (resting.round manned (complete _ List.mem_cons_self) has).andThen ?_
    rintro first ⟨returned, gathered, left⟩
    apply Attempt.Ensures.map
    -- This round took the snapshot, so each of the others scans; a last one has scanned itself.
    by_cases last : rounds = []
    · subst last
      have empty : s.collector.snapshot = none := by simpa using enough
      exact ⟨.cons returned .nil, gathered.resting, gathered.taken, gathered.less,
        gathered.clear (scan_schedule empty)⟩
    · have alive : first.state.collector.workers.alive = s.collector.workers.alive := gathered.alive
      have fewer : first.state.heap.len ≤ s.heap.len := gathered.less.len_le
      have uncounted : first.state.candidateCount = 0 := by rw [candidateCount, gathered.taken]; rfl
      refine (ih gathered.resting ?_ ?_ (.inl ⟨gathered.taken, last⟩) (left.mono ?_)).mono ?_
      · rwa [alive]
      · rw [alive]
        exact fun callers mem => complete callers (List.mem_cons_of_mem _ mem)
      · rw [uncounted, Nat.add_zero]
        exact Nat.mul_le_mul_left _ (by omega)
      · rintro o ⟨others, rested⟩
        exact ⟨.cons returned others, rested.resting, rested.taken,
          Heap.Shrinks.trans gathered.less rested.less, rested.clear⟩

end CollectedHeap

namespace Shared

variable {shared : Shared}

/-- Whatever workers do, the books are in order, and the arrivals that are counted are
    the calls that wait and those that were lost. -/
theorem Course.sound [VisitOrder] {lost : Nat} (course : Course lost shared) :
    shared.ledger.Sound ∧ shared.collector.arrivals = shared.collector.parked.length + lost := by
  induction course with
  | created history config now => exact ⟨history.sound, rfl⟩
  | called course call allowed performed ih =>
    exact ⟨ih.1.turns allowed (Heap.turns_of_perform performed), ih.2⟩
  | ran course part enabled performed ih =>
    have turns := CollectedHeap.turns_of_run performed
    obtain ⟨less, balanced, referenced⟩ := turns.released.kept ih.1.balanced ih.1.referenced
    refine ⟨?_, turns.arrivals enabled ih.2⟩
    exact ih.1.of_fewer less.size (fun _ => le_rfl) less.inDegree_le balanced referenced

/-- If all arrivals that are counted still wait, none was lost. -/
theorem Course.none_lost [VisitOrder] {lost : Nat} (course : Course lost shared)
    (waiting : shared.collector.arrivals = shared.collector.parked.length) : Course 0 shared := by
  have counted := course.sound.2
  obtain rfl : lost = 0 := by omega
  exact course

theorem Course.resting [VisitOrder] (course : Course 0 shared)
    (idle : shared.collector.parked = []) : shared.state.Resting shared.ledger.held where
  inOrder := ⟨course.sound.1.balanced, course.sound.1.referenced, course.reached.agrees⟩
  parked := idle
  arrivals := course.sound.2.trans (by rw [idle]; rfl)

/-- Rounds leave no garbage.

    Whatever happened before, as long as mutators released only what they held and no
    arrival was lost: if nobody waits, then one round, or two if a snapshot was pending,
    leave of the heap exactly what mutators could reach. All calls return, no snapshot
    is left, and the detector finds nothing. Only statistics can stop this, and do not
    as long as they have room. -/
theorem rounds_leave_no_garbage [VisitOrder] (rounds : List (List (WorkerId × Instant)))
    (course : Course 0 shared) (idle : shared.collector.parked = [])
    (manned : 0 < shared.collector.workers.alive)
    (complete : ∀ callers ∈ rounds, callers.length = shared.collector.workers.alive)
    (enough : (shared.collector.snapshot = none ∧ rounds ≠ []) ∨ 2 ≤ rounds.length) :
    (∀ fault, shared.state.performRounds rounds = .error fault → fault = .statisticsOverflow) ∧
    ((∀ n ∈ shared.collector.statistics.toList,
        n + (rounds.length * (3 * shared.ledger.heap.len + 4) + shared.state.candidateCount) <
          0x1_0000_0000_0000_0000) →
      ∃ outcome, shared.state.performRounds rounds = .ok outcome) ∧
    ∀ outcome, shared.state.performRounds rounds = .ok outcome →
      (∀ p, outcome.state.heap.contains p ↔ shared.InReach p) ∧
      outcome.state.heap.detectCycles = none ∧
      List.Forall₂ Collector.Returned rounds outcome.answer ∧
      outcome.state.collector.parked = [] ∧ outcome.state.collector.snapshot = none := by
  have has := em' (∀ n ∈ shared.collector.statistics.toList,
    n + (rounds.length * (3 * shared.ledger.heap.len + 4) + shared.state.candidateCount) <
      0x1_0000_0000_0000_0000)
  have rests := (course.resting idle).rounds manned complete enough has
  refine ⟨fun fault failed => (rests.of_error failed).1, fun room => ?_, fun outcome run => ?_⟩
  · cases run : shared.state.performRounds rounds with
    | error fault => exact absurd room (rests.of_error run).2
    | ok outcome => exact ⟨outcome, rfl⟩
  · obtain ⟨returned, resting, taken, less, clear⟩ := rests.of_ok run
    have balanced := resting.inOrder.balanced
    exact ⟨fun p => clear.contains_iff less balanced,
      Heap.detectCycles_of_garbage (balanced.clear_iff.1 clear), returned, resting.parked, taken⟩

attribute [local instance] VisitOrder.ascending

/-- An orphaned pair is captured. Then a mutator gets hold of one of the pair again, and
    lets go of a third object, which keeps itself alive. The first of two rounds consumes
    the old snapshot and the second frees the third object; the pair stays. -/
theorem rounds_leave_no_garbage_stale_snapshot :
    ∃ (shared : Shared) (first second : WorkerId), Course 0 shared ∧
      shared.collector.snapshot.map Snapshot.entries = some [(⟨0⟩, 1), (⟨1⟩, 1)] ∧
      shared.ledger.heap =
        ⟨#[some ⟨2, #[⟨1⟩]⟩, some ⟨1, #[⟨0⟩]⟩, some ⟨1, #[⟨2⟩]⟩]⟩ ∧
      ∃ outcome, shared.state.performRounds
          [[(first, .zero), (second, .zero)], [(second, .zero), (second, .zero)]] = .ok outcome ∧
        outcome.state.heap.contains ⟨0⟩ ∧ outcome.state.heap.contains ⟨1⟩ ∧
        ¬outcome.state.heap.contains ⟨2⟩ := by
  let calls : List Heap.Call :=
    [.allocate, .allocate, .allocate, .link ⟨0⟩ ⟨1⟩, .link ⟨1⟩ ⟨0⟩, .link ⟨2⟩ ⟨2⟩, .release ⟨0⟩,
      .release ⟨1⟩]
  let worker (n : Nat) : WorkerId := ⟨n + 1, Nat.succ_pos n⟩
  let parts : List Collector.Section :=
    [.addWorker (worker 0), .addWorker (worker 1), .schedule, .arrive (worker 0) .zero,
      .arrive (worker 1) .zero, .resume (worker 0)]
  let rounds := [[(worker 0, Instant.zero), (worker 1, .zero)],
    [(worker 1, .zero), (worker 1, .zero)]]
  let graph : Heap := ⟨#[some ⟨1, #[⟨1⟩]⟩, some ⟨1, #[⟨0⟩]⟩, some ⟨2, #[⟨2⟩]⟩]⟩
  have view : ((Heap.Ledger.empty.play calls).bind fun ledger =>
      (Shared.mk ledger (.create .default .zero)).play parts).map (fun shared =>
        (shared.ledger.heap, shared.ledger.held ⟨0⟩, shared.ledger.held ⟨2⟩,
          shared.collector.snapshot.map Snapshot.entries, shared.state.gate,
          shared.collector.statistics.toList)) =
      some (graph, 0, 1, some [(⟨0⟩, 1), (⟨1⟩, 1)], ⟨2, 0, false, [], 1⟩, [1, 1, 0, 0, 0, 0]) := by
    cbv
  obtain ⟨shared, played, eq⟩ := Option.map_eq_some_iff.1 view
  obtain ⟨ledger, called, ran⟩ := Option.bind_eq_some_iff.1 played
  obtain ⟨heap, unheld, holds, entries, gate, statistics⟩ : _ ∧ _ ∧ _ ∧ _ ∧ _ ∧ _ := by
    simpa only [Prod.mk.injEq] using eq
  have idle : shared.collector.parked = [] := congrArg Gate.parked gate
  have uncounted : shared.collector.arrivals = 0 := congrArg Gate.arrivals gate
  obtain ⟨lost, course⟩ := (Course.created (Heap.Ledger.Disciplined.empty.play called) .default
    .zero).play ran
  have course : Course 0 shared := course.none_lost (by rw [uncounted, idle]; rfl)
  let retained : Heap := ⟨#[some ⟨2, #[⟨1⟩]⟩, some ⟨1, #[⟨0⟩]⟩, some ⟨2, #[⟨2⟩]⟩]⟩
  let released : Heap := ⟨#[some ⟨2, #[⟨1⟩]⟩, some ⟨1, #[⟨0⟩]⟩, some ⟨1, #[⟨2⟩]⟩]⟩
  have performed : graph.perform (.retain ⟨0⟩) = .ok ⟨.done, retained, []⟩ := by cbv
  have performed' : retained.perform (.release ⟨2⟩) = .ok ⟨.freed 0, released, []⟩ := by cbv
  rw [← heap] at performed
  have allowed : (shared.afterCall (.retain ⟨0⟩) ⟨.done, retained, []⟩).ledger.Allows
      (.release ⟨2⟩) := by
    show 0 < shared.ledger.held ⟨2⟩
    rw [holds]
    exact Nat.one_pos
  let final := (shared.afterCall (.retain ⟨0⟩) ⟨.done, retained, []⟩).afterCall (.release ⟨2⟩)
    ⟨.freed 0, released, []⟩
  have later : Course 0 final :=
    (course.called (.retain ⟨0⟩) trivial performed).called (.release ⟨2⟩) allowed performed'
  refine ⟨final, worker 0, worker 1, later, entries, rfl, ?_⟩
  have alive : shared.collector.workers.alive = 2 := congrArg Gate.alive gate
  obtain ⟨-, succeeds, leaves⟩ := rounds_leave_no_garbage rounds later idle
    (show 0 < shared.collector.workers.alive by rw [alive]; decide)
    (show ∀ callers ∈ rounds, callers.length = shared.collector.workers.alive by
      rw [alive]; simp [rounds]) (.inr (by decide))
  have count : shared.state.candidateCount = 2 := by
    obtain ⟨snapshot, pending, captured⟩ := Option.map_eq_some_iff.1 entries
    show (shared.collector.snapshot.map Snapshot.len).getD 0 = 2
    rw [pending]
    exact congrArg List.length captured
  obtain ⟨outcome, run⟩ := succeeds (by
    show ∀ n ∈ shared.collector.statistics.toList,
      n + (2 * (3 * 3 + 4) + shared.state.candidateCount) < _
    rw [statistics, count]
    decide)
  obtain ⟨live, -⟩ := leaves outcome run
  have start : final.InReach ⟨0⟩ := .root rfl (Nat.succ_pos (shared.ledger.held ⟨0⟩))
  have only : ∀ q ∈ released.ids, ⟨2⟩ ∈ released.edges q → q = ⟨2⟩ := by decide
  have enclosed : released.Enclosed final.ledger.held (· = ⟨2⟩) := by
    refine ⟨fun p eq => eq ▸ rfl, fun p eq => ?_, fun p q eq refers => ?_⟩
    · subst eq
      show shared.ledger.held ⟨2⟩ - 1 = 0
      rw [holds]
    · subst eq
      exact only q (Heap.mem_ids.2 (Heap.contains_of_mem_edges refers)) refers
  refine ⟨outcome, run, (live ⟨0⟩).2 start, (live ⟨1⟩).2 ?_, fun left => ?_⟩
  · exact .edge start (show ⟨1⟩ ∈ released.edges ⟨0⟩ by decide) rfl
  · exact enclosed.not_reachable ((live ⟨2⟩).1 left) rfl

end Shared

end RefCycle
