import RefCycle.Collector.AtOnce
import RefCycle.Proofs.Collector.Step
/-!
# Meeting at a rendezvous

What a call to a requested rendezvous does, without inverting anything: while someone
is missing it waits, and the last call runs the episode and takes the others with it,
in whatever order they wake.

## Main definitions

* `CollectedHeap.seated` — the same state, where other calls wait.
* `CollectedHeap.joined`, `CollectedHeap.opened` — what is left when a call waits, and
  when an episode is over and all calls have left.

## Main statements

* `runEpisode_seated` — an episode has nothing to do with the calls that wait.
* `wake_passes` — when nothing is requested any more, all waiting calls leave.
* `wake_waits`, `wake_completes` — woken calls at a requested rendezvous wait again, or
  leave after one episode, in any order.
* `rendezvousBy_waits`, `rendezvousBy_completes` — what a call amounts to that is not the
  last, and what the last amounts to.
* `rendezvous_waits`, `rendezvous_completes` — the same as specifications, if calls wake
  in the order of arrival and no arrival was lost.
-/

namespace RefCycle.CollectedHeap

variable {H : Type} [Reclaimable H] {s : CollectedHeap H} {worker : WorkerId} {now : Instant}
  {order : WakeOrder} {lost : Nat} {fault : Fault → Prop} {calls : List WorkerId}

/-! ### An episode and the calls that wait -/

/-- The same state, where other calls wait. -/
def seated (parked : List WorkerId) (s : CollectedHeap H) : CollectedHeap H :=
  s.modifyCollector ({ · with parked })

omit [Reclaimable H] in
theorem openEpisode_seated (parked : List WorkerId) (s : CollectedHeap H) :
    (s.seated parked).openEpisode = Attempt.onState (seated parked) s.openEpisode :=
  Attempt.bind_onState fun _ => rfl

theorem collect_seated (parked : List WorkerId) (s : CollectedHeap H) :
    (s.seated parked).collect = s.collect.onState (seated parked) := by
  have kept : (s.seated parked).collector.snapshot = s.collector.snapshot := rfl
  unfold collect
  rw [kept]
  split
  · rfl
  · exact Attempt.bind_onState fun _ => Attempt.bind_onState fun _ => rfl

theorem collectIfPending_seated (parked : List WorkerId) (s : CollectedHeap H) :
    (s.seated parked).collectIfPending = s.collectIfPending.onState (seated parked) := by
  have kept : (s.seated parked).collector.pending = s.collector.pending := rfl
  unfold collectIfPending
  rw [kept]
  split
  · rw [collect_seated, Attempt.onState_map]
  · rfl

theorem scanIfPending_seated (parked : List WorkerId) (s : CollectedHeap H) :
    (s.seated parked).scanIfPending = s.scanIfPending.onState (seated parked) := by
  have kept : (s.seated parked).collector.pending = s.collector.pending ∧
      (s.seated parked).collector.snapshot = s.collector.snapshot := ⟨rfl, rfl⟩
  have heap : (s.seated parked).heap = s.heap := rfl
  unfold scanIfPending
  rw [kept.1, kept.2]
  split
  · unfold scan
    rw [heap]
    dsimp only
    split
    · exact Attempt.bind_onState fun _ => rfl
    · exact Attempt.bind_onState fun _ => rfl
  · rfl

/-- An episode neither looks at the calls that wait nor moves them. -/
theorem runEpisode_seated (parked : List WorkerId) (s : CollectedHeap H) :
    (s.seated parked).runEpisode = s.runEpisode.onState (seated parked) := by
  unfold runEpisode
  rw [openEpisode_seated]
  refine Attempt.onState_andThen _ fun _ s => ?_
  rw [collectIfPending_seated]
  exact Attempt.onState_andThen _ fun _ s => scanIfPending_seated parked s

/-! ### Coming to a requested rendezvous -/

/-- A call that arrives while a rendezvous is requested comes to the barrier, and
    leaves the pending snapshot to the episode. -/
theorem arrive_requested (worker : WorkerId)
    (room : s.collector.arrivals + 1 ≤ s.collector.workers.alive)
    (requested : (s.pendingAt now).rendezvous = true) :
    ∃ before : Trace, before.consultations = [] ∧
      s.arrive worker now = (((s.counted now).barrier worker).map .ok).after before := by
  obtain ⟨before, silent, safepoint⟩ := s.countSafepoint_eq_ok now
  have left : (s.counted now).collectAtSafepoint worker = .done () (s.counted now) := by
    unfold collectAtSafepoint
    rw [if_neg fun wanted => wanted.2 requested]
  refine ⟨before, silent, ?_⟩
  unfold arrive
  dsimp only
  split
  · exact absurd ‹_› (Nat.not_lt_of_le room)
  · rw [safepoint, Attempt.ok_andThen, left, Attempt.done_andThen]

/-- What is left when a call has come to a requested rendezvous and waits there. -/
def joined (s : CollectedHeap H) (worker : WorkerId) (now : Instant) : CollectedHeap H :=
  (s.counted now).modifyCollector fun c => { c with parked := c.parked ++ [worker] }

omit [Reclaimable H] in
@[simp]
theorem parked_joined : (s.joined worker now).collector.parked = s.collector.parked ++ [worker] :=
  rfl

/-- When no rendezvous is requested any more, all waiting calls leave, in any order. -/
theorem wake_passes (idle : s.collector.pending.rendezvous = false)
    (waits : calls.Perm s.collector.parked)
    (count : s.collector.arrivals = calls.length + lost) :
    s.wake calls =
      .ok ⟨calls, s.modifyCollector ({ · with arrivals := lost, parked := [] }), []⟩ := by
  induction calls generalizing s with
  | nil =>
    have nobody : s.collector.parked = [] := waits.nil_eq.symm
    have count : s.collector.arrivals = lost := count.trans (Nat.zero_add lost)
    rw [wake, Attempt.done, modifyCollector, ← nobody, ← count]
  | cons worker calls ih =>
    -- The first call takes its arrival with it, and the others follow.
    obtain ⟨-, others⟩ := List.cons_perm_iff_perm_erase.1 waits
    let left := s.modifyCollector fun c =>
      { c with arrivals := calls.length + lost, parked := c.parked.erase worker }
    have first : s.resume worker = .ok ⟨.passed, left, []⟩ := by
      have came : s.collector.arrivals = calls.length + lost + 1 :=
        count.trans (Nat.add_right_comm ..)
      simp [left, resume, barrier, leave, modifyCollector, Attempt.done, idle, came]
    rw [wake, first, Attempt.andThen]
    dsimp only
    rw [ih (s := left) idle others rfl]
    rfl

/-- What an episode leaves when all calls that waited for it have left with it. -/
def opened (s : CollectedHeap H) : CollectedHeap H :=
  s.modifyCollector fun c =>
    { c with pending := { c.pending with rendezvous := false }, arrivals := 0, parked := [] }

/-- A call that comes to a requested rendezvous while someone is missing waits. -/
theorem barrier_waits (wanted : s.collector.pending.rendezvous = true)
    (short : s.collector.arrivals < s.collector.workers.alive) :
    ((s.barrier worker).map .ok).andThen (followBy order) =
      .ok ⟨.ok ⟨.waiting, []⟩,
        s.modifyCollector fun c => { c with parked := c.parked ++ [worker] },
        [.collector (.waiting worker s.collector.arrivals s.collector.workers.alive)]⟩ := by
  rw [barrier, if_pos wanted, if_pos short]
  rfl

/-- A call that comes to a requested rendezvous when everyone has arrived runs the
    episode, clears the request, and takes its own arrival with it. -/
theorem barrier_full {rest : Nat} (wanted : s.collector.pending.rendezvous = true)
    (full : s.collector.workers.alive ≤ s.collector.arrivals)
    (count : s.collector.arrivals = rest + 1) :
    s.barrier worker =
      s.runEpisode.andThen fun _ s =>
        .done .completed (s.modifyCollector fun c =>
          { c with pending := { c.pending with rendezvous := false }, arrivals := rest }) := by
  rw [barrier, if_pos wanted, if_neg (Nat.not_lt_of_le full)]
  refine (runEpisode_gate s).andThen_congr fun ran same => ?_
  have came : ran.state.collector.arrivals = rest + 1 := (congrArg Gate.arrivals same).trans count
  simp only [leave, setPending, modifyCollector, came]

/-- All calls that wait leave after the one that has run the episode. -/
theorem barrier_completes (wanted : s.collector.pending.rendezvous = true)
    (full : s.collector.workers.alive ≤ s.collector.arrivals)
    (count : s.collector.arrivals = s.collector.parked.length + lost + 1) :
    ((s.barrier worker).map .ok).andThen (followBy order) =
      s.runEpisode.andThen fun _ s =>
        .done (.ok ⟨.completed, order.arrange s.collector.parked⟩) (s.dispersed lost) := by
  rw [barrier_full wanted full count, Attempt.andThen_map, Attempt.andThen_assoc]
  refine (runEpisode_gate s).andThen_congr fun ran same => ?_
  have waiting : (order.arrange ran.state.collector.parked).length = s.collector.parked.length :=
    (order.perm _).length_eq.trans (congrArg (fun gate => gate.parked.length) same)
  rw [Attempt.done_andThen, followBy, wake_passes rfl (order.perm _)
    (congrArg (· + lost) waiting).symm]
  rfl

/-! ### Woken calls -/

/-- While someone is missing, woken calls wait again, in some order. -/
theorem wake_waits (wanted : s.collector.pending.rendezvous = true)
    (short : s.collector.arrivals < s.collector.workers.alive)
    (waits : ∀ call ∈ calls, call ∈ s.collector.parked) :
    ∃ (parked : List WorkerId) (trace : Trace), parked.Perm s.collector.parked ∧
      trace.consultations = [] ∧ s.wake calls = .ok ⟨[], s.seated parked, trace⟩ := by
  induction calls generalizing s with
  | nil => exact ⟨s.collector.parked, [], .refl _, rfl, rfl⟩
  | cons call calls ih =>
    -- The first call waits again, behind the others.
    let behind := s.collector.parked.erase call ++ [call]
    have moved : behind.Perm s.collector.parked :=
      List.perm_append_comm.trans (List.perm_cons_erase (waits call List.mem_cons_self)).symm
    let record : Event :=
      .collector (.waiting call s.collector.arrivals s.collector.workers.alive)
    have first : s.resume call = .ok ⟨.waiting, s.seated behind, [record]⟩ := by
      rw [resume, barrier, if_pos (by exact wanted), if_pos (by exact short)]
      rfl
    obtain ⟨parked, trace, rearranged, silent, others⟩ := ih (s := s.seated behind) wanted short
      fun other mem => moved.mem_iff.2 (waits other (List.mem_cons_of_mem _ mem))
    refine ⟨parked, record :: trace, rearranged.trans moved, silent, ?_⟩
    rw [wake, first, Attempt.ok_andThen, others]
    rfl

/-- When everyone has arrived, the first woken call runs the episode, and all leave. -/
theorem wake_completes (wanted : s.collector.pending.rendezvous = true)
    (full : s.collector.workers.alive ≤ s.collector.arrivals) (nonempty : calls ≠ [])
    (waits : calls.Perm s.collector.parked)
    (count : s.collector.arrivals = calls.length + lost) :
    s.wake calls = s.runEpisode.andThen fun _ s => .done calls (s.dispersed lost) := by
  obtain ⟨call, others, rfl⟩ := List.exists_cons_of_ne_nil nonempty
  obtain ⟨-, rest⟩ := List.cons_perm_iff_perm_erase.1 waits
  have came : s.collector.arrivals = others.length + lost + 1 :=
    count.trans (Nat.add_right_comm ..)
  have first : s.resume call = _ :=
    barrier_full (s := s.seated (s.collector.parked.erase call)) wanted full came
  rw [wake, first, runEpisode_seated, Attempt.andThen_onState, Attempt.andThen_assoc]
  refine (runEpisode_gate s).andThen_congr fun ran same => ?_
  rw [Attempt.done_andThen, wake_passes rfl rest rfl]
  rfl

/-! ### Whole calls -/

/-- While someone is missing at a requested rendezvous, a call waits. -/
theorem rendezvousBy_waits (order : WakeOrder) (worker : WorkerId)
    (short : s.collector.arrivals + 1 < s.collector.workers.alive)
    (requested : (s.pendingAt now).rendezvous = true) :
    ∃ trace, s.rendezvousBy order worker now =
      .ok ⟨.ok ⟨.waiting, []⟩, s.joined worker now, trace⟩ := by
  obtain ⟨before, -, arrives⟩ := arrive_requested worker (Nat.le_of_lt short) requested
  rw [rendezvousBy, arrives, Attempt.after_andThen, barrier_waits requested short]
  exact ⟨_, rfl⟩

/-- The last call to a requested rendezvous runs the episode, and all calls leave. -/
theorem rendezvousBy_completes (order : WakeOrder) (worker : WorkerId)
    (count : s.collector.arrivals = s.collector.parked.length + lost)
    (last : s.collector.arrivals + 1 = s.collector.workers.alive)
    (requested : (s.pendingAt now).rendezvous = true) :
    ∃ before : Trace, before.consultations = [] ∧
      s.rendezvousBy order worker now =
        ((s.counted now).runEpisode.andThen fun _ s =>
          .done (.ok ⟨.completed, order.arrange s.collector.parked⟩)
            (s.dispersed lost)).after before := by
  obtain ⟨before, silent, arrives⟩ := arrive_requested worker (Nat.le_of_eq last) requested
  refine ⟨before, silent, ?_⟩
  rw [rendezvousBy, arrives, Attempt.after_andThen, barrier_completes (s := s.counted now) requested
    (Nat.le_of_eq last.symm) (congrArg (· + 1) count)]

/-- The specification of a call that waits, where the calls wake by arrival. -/
theorem rendezvous_waits {post : Outcome (CollectedHeap H) (Except Misuse Rendezvous) → Prop}
    (short : s.collector.arrivals + 1 < s.collector.workers.alive)
    (requested : (s.pendingAt now).rendezvous = true)
    (waits : ∀ trace, post ⟨.ok ⟨.waiting, []⟩, s.joined worker now, trace⟩) :
    (s.rendezvous worker now).Ensures fault post := by
  obtain ⟨trace, run⟩ := rendezvousBy_waits .byArrival worker short requested
  rw [← rendezvousBy_byArrival, run]
  exact waits trace

/-- The specification of the last call, where the calls wake by arrival. -/
theorem rendezvous_completes {post : Outcome (CollectedHeap H) (Except Misuse Rendezvous) → Prop}
    (count : s.collector.arrivals = s.collector.parked.length)
    (last : s.collector.arrivals + 1 = s.collector.workers.alive)
    (requested : (s.pendingAt now).rendezvous = true)
    (episode : (s.counted now).runEpisode.Ensures fault fun ran =>
      ∀ trace, post ⟨.ok ⟨.completed, s.collector.parked⟩, ran.state.opened, trace⟩) :
    (s.rendezvous worker now).Ensures fault post := by
  obtain ⟨before, -, run⟩ :=
    rendezvousBy_completes .byArrival worker (count.trans (Nat.add_zero _).symm) last requested
  rw [← rendezvousBy_byArrival, run]
  refine ((episode.and (runEpisode_gate _)).andThen ?_).after
  rintro ran ⟨opens, same⟩
  have parked : ran.state.collector.parked = s.collector.parked := congrArg Gate.parked same
  show post ⟨.ok ⟨.completed, ran.state.collector.parked⟩, _, _⟩
  rw [parked]
  exact opens _

end RefCycle.CollectedHeap
