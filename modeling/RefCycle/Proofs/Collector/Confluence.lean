import Mathlib
import RefCycle.Collector.Chronicle
import RefCycle.ScriptedHeap
import RefCycle.Proofs.Collector.Meeting
/-!
# Calls one after another and at once

When calls that wait are woken, any of them may take the lock first, and may be the one
that runs the episode, while the others find the request gone and the arrivals fewer with
each that leaves. What is left in the end does not depend on the order, and is what a rule
leaves that decides on all calls at once.

## Main definitions

* `RefCycle.Aftermath` — what an operation leaves, where calls are not told apart by order.
* `Aftermath.Together` — calls have been moved all together.
* `CollectedHeap.Nearer` — one step nearer to the completion of a rendezvous.

## Main statements

* `wake_atOnce`, `barrier_atOnce` — woken calls, and a call that comes to the barrier.
* `gatherBy_final` — arrivals that complete a rendezvous, by the readings of the clock alone.
* `Nearer.together` — by the rule all calls move together.
* `barrier_confluence` — the operations agree with the rule, in any order.
-/

namespace RefCycle

/-! ### Aftermaths -/

/-- What an operation leaves, where calls that wait and calls that have returned are not
    told apart by their order. -/
structure Aftermath (H : Type) where
  /-- The workers whose calls have returned. -/
  returned : Except Misuse (Multiset WorkerId)
  waiting : Multiset WorkerId
  /-- The heap and the collector, apart from the calls that wait. -/
  rest : CollectedHeap H
  asked : List Consultation

/-- The aftermath of an outcome that answers whose calls have returned. -/
def Outcome.aftermath {H : Type}
    (o : Outcome (CollectedHeap H) (Except Misuse (List WorkerId))) : Aftermath H where
  returned := Except.map (fun workers : List WorkerId => (workers : Multiset WorkerId)) o.answer
  waiting := o.state.collector.parked
  rest := o.state.seated []
  asked := Trace.consultations o.trace

namespace Attempt

variable {H α : Type} {fault : Fault → Prop}

def aftermath (r : Attempt (CollectedHeap H) (Except Misuse (List WorkerId))) :
    Except Fault (Aftermath H) :=
  Except.map Outcome.aftermath r

theorem aftermath_after (before : Trace)
    (r : Attempt (CollectedHeap H) (Except Misuse (List WorkerId))) :
    (r.after before).aftermath =
      Except.map (fun a => { a with asked := before.consultations ++ a.asked }) r.aftermath := by
  cases r with
  | error f => rfl
  | ok o => simp [after, aftermath, Except.map, Outcome.aftermath]

/-- Outcomes have the same aftermath if they differ in the order of calls and in what
    was reported. -/
theorem aftermath_ok {answer answer' : List WorkerId} {s t : CollectedHeap H}
    {trace trace' : Trace} (returned : answer.Perm answer')
    (waiting : s.collector.parked.Perm t.collector.parked) (rest : s.seated [] = t.seated [])
    (asked : trace.consultations = trace'.consultations) :
    aftermath (.ok ⟨.ok answer, s, trace⟩) = aftermath (.ok ⟨.ok answer', t, trace'⟩) := by
  simp only [aftermath, Except.map, Outcome.aftermath, Multiset.coe_eq_coe.2 returned,
    Multiset.coe_eq_coe.2 waiting, rest, asked]

/-- What is ensured of every aftermath. -/
theorem Ensures.of_aftermath {r : Attempt (CollectedHeap H) (Except Misuse (List WorkerId))}
    (post : Aftermath H → Prop) (h : r.Ensures fault fun o => post o.aftermath) {a : Aftermath H}
    (left : r.aftermath = .ok a) : post a := by
  cases r with
  | error f => contradiction
  | ok o =>
    cases left
    exact h

/-- What follows may be exchanged for something with the same aftermath. -/
theorem aftermath_andThen {first : Attempt (CollectedHeap H) α}
    {next next' : α → CollectedHeap H →
      Attempt (CollectedHeap H) (Except Misuse (List WorkerId))}
    {post : Outcome (CollectedHeap H) α → Prop} (ran : first.Ensures fault post)
    (same : ∀ o, post o →
      (next o.answer o.state).aftermath = (next' o.answer o.state).aftermath) :
    (first.andThen next).aftermath = (first.andThen next').aftermath := by
  cases first with
  | error f => rfl
  | ok o => rw [ok_andThen, ok_andThen, aftermath_after, aftermath_after, same o ran]

end Attempt

namespace CollectedHeap

variable {H : Type} [Reclaimable H] {s : CollectedHeap H} {worker : WorkerId} {now : Instant}
  {order : WakeOrder} {lost : Nat} {fault : Fault → Prop} {calls parked : List WorkerId}

/-! ### In any order and at once -/

/-- Whatever woken calls do one after another, in any order, they do at once. -/
theorem wake_atOnce (wanted : s.collector.pending.rendezvous = true)
    (waiting : s.collector.parked ≠ []) (waits : calls.Perm s.collector.parked)
    (count : s.collector.arrivals = s.collector.parked.length + lost) :
    ((s.wake calls).map .ok).aftermath = (s.meetAtOnce.map .ok).aftermath := by
  unfold meetAtOnce
  by_cases full : s.collector.workers.alive ≤ s.collector.arrivals
  · have nonempty : calls ≠ [] := by
      rintro rfl
      exact waiting waits.nil_eq.symm
    rw [if_pos ⟨wanted, full⟩, wake_completes wanted full nonempty waits
      (waits.length_eq ▸ count), Attempt.map_andThen, Attempt.map_andThen]
    refine Attempt.aftermath_andThen (runEpisode_gate s) fun ran same => ?_
    have parked : ran.state.collector.parked = s.collector.parked := congrArg Gate.parked same
    have left : ran.state.collector.arrivals - ran.state.collector.parked.length = lost := by
      rw [parked, show ran.state.collector.arrivals = _ from congrArg Gate.arrivals same]
      exact Nat.sub_eq_of_eq_add' count
    rw [left]
    exact Attempt.aftermath_ok (parked ▸ waits) (.refl _) rfl rfl
  · rw [if_neg fun both => full both.2]
    obtain ⟨parked, trace, rearranged, silent, run⟩ :=
      wake_waits wanted (Nat.lt_of_not_le full) fun call mem => waits.mem_iff.1 mem
    rw [run]
    exact Attempt.aftermath_ok (.refl _) rearranged rfl silent

/-- A call that comes to the barrier, and the calls that it may wake, do at once what
    they do in any order. -/
theorem barrier_atOnce
    (count : s.collector.arrivals = s.collector.parked.length + lost + 1) :
    ((((s.barrier worker).map .ok).andThen (followBy order)).map
      (Except.map (Rendezvous.returned worker))).aftermath =
        ((s.joinAtOnce worker).map .ok).aftermath := by
  unfold joinAtOnce
  cases wanted : s.collector.pending.rendezvous with
  | false =>
    -- The call has nothing to wait for.
    have idle : ¬s.collector.pending.rendezvous = true := Bool.eq_false_iff.1 wanted
    rw [barrier, if_neg idle, if_neg Bool.false_ne_true]
    simp only [leave, count]
    rfl
  | true =>
    rw [if_pos rfl]
    unfold meetAtOnce
    by_cases full : s.collector.workers.alive ≤ s.collector.arrivals
    · rw [if_pos (by exact ⟨wanted, full⟩), barrier_completes wanted full count]
      have frame : runEpisode
          (s.modifyCollector fun c => { c with parked := c.parked ++ [worker] }) =
            s.runEpisode.onState (seated (s.collector.parked ++ [worker])) := runEpisode_seated _ s
      rw [frame, Attempt.andThen_onState, Attempt.map_andThen, Attempt.map_andThen]
      refine Attempt.aftermath_andThen (runEpisode_gate s) fun ran same => ?_
      have parked : ran.state.collector.parked = s.collector.parked := congrArg Gate.parked same
      have arrivals : ran.state.collector.arrivals = s.collector.parked.length + lost + 1 :=
        (congrArg Gate.arrivals same).trans count
      have left :
          ran.state.collector.arrivals - (s.collector.parked ++ [worker]).length = lost := by
        rw [List.length_append, List.length_singleton]
        omega
      have all : (worker :: order.arrange ran.state.collector.parked).Perm
          (s.collector.parked ++ [worker]) :=
        (((order.perm _).trans (.of_eq parked)).cons worker).trans
          (List.perm_append_singleton worker _).symm
      refine Attempt.aftermath_ok all (.refl _) ?_ rfl
      show (ran.state.dispersed lost).seated [] = _
      rw [← left]
      rfl
    · rw [if_neg (by exact fun both => full both.2), barrier_waits wanted (Nat.lt_of_not_le full)]
      exact Attempt.aftermath_ok (.refl _) (.refl _) rfl rfl

theorem removeWorkerBy_atOnce (wanted : s.collector.pending.rendezvous = true)
    (waiting : s.collector.parked ≠ [])
    (count : s.collector.arrivals = s.collector.parked.length + lost) :
    (s.removeWorkerBy order worker).aftermath = (s.removeWorkerAtOnce worker).aftermath := by
  refine Attempt.aftermath_andThen (deregister_gate s worker) fun taken same => ?_
  have gate : taken.state.gate = { s.gate with alive := s.gate.alive - 1 } :=
    (congrArg Prod.snd same).trans (Gate.deregister_snd ..)
  obtain ⟨answer, t, trace⟩ := taken
  have parked : t.collector.parked = s.collector.parked := congrArg Gate.parked gate
  have arrivals : t.collector.arrivals = s.collector.arrivals := congrArg Gate.arrivals gate
  match answer with
  | .error misuse => rfl
  | .ok () =>
    exact wake_atOnce ((congrArg Gate.requested gate).trans wanted) (parked ▸ waiting)
      (order.perm _) (by rw [parked, arrivals, count])

theorem rendezvousBy_atOnce (count : s.collector.arrivals = s.collector.parked.length + lost) :
    ((s.rendezvousBy order worker now).map (Except.map (Rendezvous.returned worker))).aftermath =
      (s.rendezvousAtOnce worker now).aftermath := by
  unfold rendezvousBy arrive rendezvousAtOnce
  dsimp only
  split
  · rfl
  · rw [Attempt.andThen_assoc, Attempt.map_andThen]
    refine Attempt.aftermath_andThen (countSafepoint_gate _ now) fun counted same => ?_
    rw [Attempt.andThen_assoc, Attempt.map_andThen]
    refine Attempt.aftermath_andThen (collectAtSafepoint_gate _ worker) fun swept same' => ?_
    have gate := same'.trans same
    have parked : swept.state.collector.parked = s.collector.parked := congrArg Gate.parked gate
    have came : swept.state.collector.arrivals =
        swept.state.collector.parked.length + lost + 1 := by
      rw [parked, ← count]
      exact congrArg Gate.arrivals gate
    exact barrier_atOnce came

/-! ### Arrivals -/

omit [Reclaimable H] in
theorem foldl_counted_seated (clocks : List Instant) (s : CollectedHeap H) :
    clocks.foldl counted (s.seated parked) = (clocks.foldl counted s).seated parked := by
  induction clocks generalizing s with
  | nil => rfl
  | cons now clocks ih => exact ih (s.counted now)

omit [Reclaimable H] in
theorem map_dispersed_seated (r : Except Fault (CollectedHeap H)) :
    Except.map (dispersed lost) (Except.map (seated parked) r) = Except.map (dispersed lost) r := by
  cases r <;> rfl

/-- What is left after calls that complete a requested rendezvous: each was counted, one
    episode has run, and all have left. Who made them does not matter. -/
theorem gatherBy_final {callers : List (WorkerId × Instant)} (nonempty : callers ≠ [])
    (requested : s.collector.pending.rendezvous = true)
    (count : s.collector.arrivals = s.collector.parked.length + lost)
    (missing : s.collector.arrivals + callers.length = s.collector.workers.alive) :
    (s.gatherBy order callers).final =
      Except.map (dispersed lost) ((callers.map Prod.snd).foldl counted s).runEpisode.final := by
  induction callers generalizing s with
  | nil => contradiction
  | cons caller callers ih =>
    have wanted := requested_pendingAt requested caller.2
    cases callers with
    | nil =>
      obtain ⟨before, -, run⟩ := rendezvousBy_completes order caller.1 count missing wanted
      rw [gatherBy, run, Attempt.after_andThen, Attempt.andThen_assoc, Attempt.final_after]
      exact Attempt.final_andThen_done ..
    | cons next rest =>
      have short : s.collector.arrivals + 1 < s.collector.workers.alive := by
        simp only [List.length_cons] at missing
        omega
      obtain ⟨trace, run⟩ := rendezvousBy_waits order caller.1 short wanted
      have others := ih (s := s.joined caller.1 caller.2) (List.cons_ne_nil _ _) wanted
        (by simp [joined, counted, modifyCollector, count, Nat.add_right_comm])
        ((Nat.add_right_comm ..).trans missing)
      rw [gatherBy, run, Attempt.ok_andThen, Attempt.final_after, Attempt.final_map, others]
      -- The episode would be the same if the call did not wait, and all leave after it.
      have seat : s.joined caller.1 caller.2 =
          (s.counted caller.2).seated (s.collector.parked ++ [caller.1]) := rfl
      rw [seat, foldl_counted_seated, runEpisode_seated, Attempt.final_onState,
        map_dispersed_seated]
      rfl

omit [Reclaimable H] in
theorem foldl_counted_statistics (clocks : List Instant) (s : CollectedHeap H) :
    (clocks.foldl counted s).collector.statistics = s.collector.statistics := by
  induction clocks generalizing s with
  | nil => rfl
  | cons now clocks ih => exact ih (s.counted now)

/-- Arrivals that complete a rendezvous leave nobody waiting, after one episode. -/
theorem gatherBy_completes {callers : List (WorkerId × Instant)} (nonempty : callers ≠ [])
    (requested : s.collector.pending.rendezvous = true)
    (count : s.collector.arrivals = s.collector.parked.length + lost)
    (missing : s.collector.arrivals + callers.length = s.collector.workers.alive)
    {t : CollectedHeap H} (left : (s.gatherBy order callers).final = .ok t) :
    t.collector.pending.rendezvous = false ∧ t.collector.parked = [] ∧
      t.collector.arrivals = lost ∧
      t.collector.statistics.episodes = s.collector.statistics.episodes + 1 := by
  rw [gatherBy_final nonempty requested count missing] at left
  have episode := runEpisode_gate ((callers.map Prod.snd).foldl counted s)
  cases run : ((callers.map Prod.snd).foldl counted s).runEpisode with
  | error fault =>
    rw [run] at left
    contradiction
  | ok ran =>
    rw [run] at left
    cases left
    refine ⟨rfl, rfl, rfl, ?_⟩
    have episodes := congrArg Gate.episodes (episode.of_ok run)
    rw [← foldl_counted_statistics (callers.map Prod.snd) s]
    exact episodes

end CollectedHeap

/-! ### All or none -/

/-- A step that brings the arrivals one nearer to the workers has moved the given calls
    all together: someone is still missing, and all of them wait; or everyone has arrived,
    one episode has run, and all have returned, each with its arrival. -/
structure Aftermath.Together {H : Type} (a : Aftermath H) (s : CollectedHeap H)
    (calls : Multiset WorkerId) : Prop where
  arrivals : a.rest.collector.arrivals + s.collector.parked.length =
    s.collector.arrivals + a.waiting.card
  moved :
    (s.collector.arrivals + 1 < s.collector.workers.alive ∧
      a.returned = .ok 0 ∧ a.waiting = calls ∧
      a.rest.collector.statistics.episodes = s.collector.statistics.episodes) ∨
    (s.collector.workers.alive ≤ s.collector.arrivals + 1 ∧
      a.returned = .ok calls ∧ a.waiting = 0 ∧
      a.rest.collector.statistics.episodes = s.collector.statistics.episodes + 1)

namespace CollectedHeap

variable {H : Type} [Reclaimable H] {s t : CollectedHeap H} {worker : WorkerId} {now : Instant}
  {order : WakeOrder} {lost : Nat}

/-- A state in which a rendezvous is requested, and which is one step nearer to its
    completion than another: one call more waits, or one worker less is waited for. -/
structure Nearer (s t : CollectedHeap H) : Prop where
  requested : t.collector.pending.rendezvous = true
  missing : t.collector.arrivals < t.collector.workers.alive ↔
    s.collector.arrivals + 1 < s.collector.workers.alive
  arrivals : t.collector.arrivals + s.collector.parked.length =
    s.collector.arrivals + t.collector.parked.length
  episodes : t.collector.statistics.episodes = s.collector.statistics.episodes
  fits : t.collector.parked.length ≤ t.collector.arrivals

/-- By the rule, all calls that wait move together. -/
theorem Nearer.together (nearer : s.Nearer t) :
    (t.meetAtOnce.map .ok).Ensures (Fault.Foreign H) fun o =>
      o.aftermath.Together s t.collector.parked := by
  apply Attempt.Ensures.map
  unfold meetAtOnce
  split
  · rename_i both
    refine (runEpisode_gate t).andThen fun ran gate => ?_
    have parked : ran.state.collector.parked = t.collector.parked := congrArg Gate.parked gate
    have arrivals : ran.state.collector.arrivals = t.collector.arrivals :=
      congrArg Gate.arrivals gate
    have episodes : ran.state.collector.statistics.episodes =
        t.collector.statistics.episodes + 1 := congrArg Gate.episodes gate
    refine ⟨?_, .inr ⟨?_, ?_, rfl, ?_⟩⟩
    · show ran.state.collector.arrivals - ran.state.collector.parked.length + _ = _ + 0
      have same := nearer.arrivals
      have fits := nearer.fits
      rw [parked, arrivals]
      omega
    · exact Nat.le_of_not_lt fun short => Nat.not_lt_of_le both.2 (nearer.missing.2 short)
    · exact congrArg (fun calls : List WorkerId => Except.ok (calls : Multiset WorkerId)) parked
    · exact episodes.trans (congrArg (· + 1) nearer.episodes)
  · rename_i short
    have missing : t.collector.arrivals < t.collector.workers.alive :=
      Nat.lt_of_not_le fun full => short ⟨nearer.requested, full⟩
    exact ⟨nearer.arrivals, .inl ⟨nearer.missing.1 missing, rfl, rfl, nearer.episodes⟩⟩

/-- When a worker leaves, the calls that wait move together. -/
theorem removeWorkerAtOnce_together (wanted : s.collector.pending.rendezvous = true)
    (short : s.collector.arrivals < s.collector.workers.alive)
    (fits : s.collector.parked.length ≤ s.collector.arrivals) :
    (s.removeWorkerAtOnce worker).Ensures (Fault.Foreign H) fun o =>
      o.aftermath.Together s s.collector.parked := by
  refine (deregister_gate s worker).andThen fun taken same => ?_
  obtain ⟨answer, t, trace⟩ := taken
  -- Somebody is missing, so there is a worker to remove.
  obtain ⟨rest, manned⟩ := Nat.exists_eq_add_one_of_ne_zero (Nat.ne_zero_of_lt short)
  have alive : s.gate.alive = rest + 1 := manned
  simp only [Gate.deregister, alive, Prod.mk.injEq] at same
  obtain ⟨rfl, gate⟩ := same
  have left : t.collector.workers.alive = rest := congrArg Gate.alive gate
  have arrivals : t.collector.arrivals = s.collector.arrivals := congrArg Gate.arrivals gate
  have parked : t.collector.parked = s.collector.parked := congrArg Gate.parked gate
  have nearer : s.Nearer t :=
    { requested := (congrArg Gate.requested gate).trans wanted
      missing := by rw [left, arrivals, manned, Nat.add_lt_add_iff_right]
      arrivals := by rw [arrivals, parked]
      episodes := congrArg Gate.episodes gate
      fits := by rwa [arrivals, parked] }
  refine nearer.together.mono fun o moved => ?_
  rw [parked] at moved
  exact ⟨moved.arrivals, moved.moved⟩

/-- When a call arrives, it moves together with the calls that wait. -/
theorem rendezvousAtOnce_together (wanted : s.collector.pending.rendezvous = true)
    (short : s.collector.arrivals < s.collector.workers.alive)
    (fits : s.collector.parked.length ≤ s.collector.arrivals) :
    (s.rendezvousAtOnce worker now).Ensures (Fault.Foreign H) fun o =>
      o.aftermath.Together s (worker ::ₘ s.collector.parked) := by
  unfold rendezvousAtOnce
  dsimp only
  rw [if_neg (by exact Nat.not_lt_of_le short)]
  refine (countSafepoint_gate _ now).andThen fun counted same => ?_
  refine (collectAtSafepoint_gate _ worker).andThen fun swept same' => ?_
  have gate := same'.trans same
  obtain ⟨answer, t, trace⟩ := swept
  have requested : t.collector.pending.rendezvous = true := by
    refine (congrArg Gate.requested gate).trans ?_
    show (s.collector.pending.rendezvous || _) = true
    rw [wanted, Bool.true_or]
  have arrivals : t.collector.arrivals = s.collector.arrivals + 1 := congrArg Gate.arrivals gate
  have parked : t.collector.parked = s.collector.parked := congrArg Gate.parked gate
  have alive : t.collector.workers.alive = s.collector.workers.alive := congrArg Gate.alive gate
  have seats : (t.collector.parked ++ [worker]).length = s.collector.parked.length + 1 := by
    rw [parked, List.length_append, List.length_singleton]
  have nearer : s.Nearer (t.seated (t.collector.parked ++ [worker])) :=
    { requested := requested
      missing := by
        show t.collector.arrivals < t.collector.workers.alive ↔ _
        rw [arrivals, alive]
      arrivals := by
        show t.collector.arrivals + _ = _ + (t.collector.parked ++ [worker]).length
        rw [arrivals, seats]
        omega
      episodes := congrArg Gate.episodes gate
      fits := by
        show (t.collector.parked ++ [worker]).length ≤ t.collector.arrivals
        rw [arrivals, seats]
        exact Nat.succ_le_succ fits }
  have calls : ((t.collector.parked ++ [worker] : List WorkerId) : Multiset WorkerId) =
      worker ::ₘ s.collector.parked := by
    rw [parked]
    exact Multiset.coe_eq_coe.2 (List.perm_append_singleton worker _)
  dsimp only
  rw [joinAtOnce, if_pos requested, ← calls]
  exact nearer.together.mono fun o moved => ⟨moved.arrivals, moved.moved⟩

/-- The arrivals that are counted are the calls that wait and those that were lost. -/
theorem Reached.arrivals (reached : s.Reached) :
    ∃ lost, s.collector.arrivals = s.collector.parked.length + lost := by
  induction reached with
  | created heap config now => exact ⟨0, rfl⟩
  | ran history part enabled performed ih =>
    obtain ⟨lost, counted⟩ := ih
    exact ⟨_, (turns_of_run performed).arrivals enabled counted⟩
  | mutated history heap ih => exact ih

/-- What waiting calls do at the barrier one after another, they do at once.

    In a settled state in which calls wait, whoever leaves or arrives and in whatever order
    the woken calls then take the lock, what is left is what the rule leaves that decides
    on all calls at once: the same heap and collector, the same calls waiting and returned,
    and the same questions to the heap. So either all go on waiting, or one episode runs
    and all return.

    And if nobody waits yet at a requested rendezvous, the calls that complete it leave one
    state, whichever workers make them, as long as the clock readings are the same. -/
theorem barrier_confluence (reached : s.Reached)
    (requested : s.collector.pending.rendezvous = true) :
    (s.collector.parked ≠ [] → s.collector.arrivals < s.collector.workers.alive →
      ∀ (order : WakeOrder) (worker : WorkerId) (now : Instant),
        (s.removeWorkerBy order worker).aftermath = (s.removeWorkerAtOnce worker).aftermath ∧
        ((s.rendezvousBy order worker now).map
            (Except.map (Rendezvous.returned worker))).aftermath =
          (s.rendezvousAtOnce worker now).aftermath ∧
        (∀ a, (s.removeWorkerBy order worker).aftermath = .ok a →
          a.Together s s.collector.parked) ∧
        (∀ a, ((s.rendezvousBy order worker now).map
            (Except.map (Rendezvous.returned worker))).aftermath = .ok a →
          a.Together s (worker ::ₘ s.collector.parked))) ∧
    (s.collector.parked = [] →
      ∀ (order order' : WakeOrder) (callers callers' : List (WorkerId × Instant)),
        s.collector.arrivals + callers.length = s.collector.workers.alive →
        callers.map Prod.snd = callers'.map Prod.snd →
        (s.gatherBy order callers).final = (s.gatherBy order' callers').final ∧
        ∀ t, callers ≠ [] → (s.gatherBy order callers).final = .ok t →
          t.collector.pending.rendezvous = false ∧ t.collector.parked = [] ∧
          t.collector.arrivals = s.collector.arrivals ∧
          t.collector.statistics.episodes = s.collector.statistics.episodes + 1) := by
  obtain ⟨lost, count⟩ := reached.arrivals
  have fits : s.collector.parked.length ≤ s.collector.arrivals := count ▸ Nat.le_add_right ..
  refine ⟨fun waits short order worker now => ?_, fun idle order order' callers callers' => ?_⟩
  · have removes : (s.removeWorkerBy order worker).aftermath = _ :=
      removeWorkerBy_atOnce requested waits count
    have arrives : ((s.rendezvousBy order worker now).map
        (Except.map (Rendezvous.returned worker))).aftermath = _ := rendezvousBy_atOnce count
    refine ⟨removes, arrives, fun a left => ?_, fun a left => ?_⟩
    · exact Attempt.Ensures.of_aftermath (Aftermath.Together · s _)
        (removeWorkerAtOnce_together requested short fits) (removes ▸ left)
    · exact Attempt.Ensures.of_aftermath (Aftermath.Together · s _)
        (rendezvousAtOnce_together requested short fits) (arrives ▸ left)
  · intro missing clocks
    have count : s.collector.arrivals = s.collector.parked.length + s.collector.arrivals := by
      rw [idle, List.length_nil, Nat.zero_add]
    refine ⟨?_, fun t nonempty left => gatherBy_completes nonempty requested count missing left⟩
    have same : callers.length = callers'.length := by
      simpa only [List.length_map] using congrArg List.length clocks
    by_cases nobody : callers = []
    · subst nobody
      obtain rfl : callers' = [] := List.eq_nil_of_length_eq_zero same.symm
      rfl
    · have nonempty' : callers' ≠ [] := List.ne_nil_of_length_pos
        (same ▸ List.length_pos_iff.2 nobody)
      rw [gatherBy_final nobody requested count missing,
        gatherBy_final nonempty' requested count (same ▸ missing), clocks]

/-- Two of three workers wait, and when the third is removed they take the lock in reverse:
    both return after one episode, as by the rule. And all three calls may be made by the
    workers in any order. -/
theorem barrier_confluence_reversed :
    ∃ s t : CollectedHeap ScriptedHeap, s.Reached ∧ t.Reached ∧
      s.collector.parked = [⟨1, by decide⟩, ⟨2, by decide⟩] ∧
      (∃ a, (s.removeWorkerBy .byReversal ⟨3, by decide⟩).aftermath = .ok a ∧
        (s.removeWorkerAtOnce ⟨3, by decide⟩).aftermath = .ok a ∧
        a.returned = .ok s.collector.parked ∧ a.waiting = 0 ∧
        a.rest.collector.statistics.episodes = s.collector.statistics.episodes + 1) ∧
      t.collector.parked = [] ∧
      ∃ callers callers' u,
        callers.map Prod.fst = [⟨1, by decide⟩, ⟨2, by decide⟩, ⟨3, by decide⟩] ∧
        callers'.map Prod.fst = [⟨3, by decide⟩, ⟨1, by decide⟩, ⟨2, by decide⟩] ∧
        (t.gatherBy .byArrival callers).final = .ok u ∧
        (t.gatherBy .byReversal callers').final = .ok u ∧ u.collector.parked = [] := by
  let worker (n : Nat) : WorkerId := ⟨n + 1, Nat.succ_pos n⟩
  let now : Instant := ⟨1, 0, by decide, by decide, by decide⟩
  let pair : ScriptedHeap := ⟨some [⟨0⟩, ⟨1⟩], [(⟨0⟩, 1), (⟨1⟩, 1)], none⟩
  let start := (create pair ⟨1, .zero, false⟩ .zero).state
  let callers := [(worker 0, Instant.zero), (worker 1, now), (worker 2, now)]
  let callers' := [(worker 2, Instant.zero), (worker 0, now), (worker 1, now)]
  have view : (start.attend [] [.addWorker (worker 0), .addWorker (worker 1),
      .addWorker (worker 2), .schedule]).map
        (fun next => (next.2.gate, (next.2.gatherBy .byArrival callers).toBool)) =
      some (⟨3, 0, true, [], 0⟩, true) := by cbv
  have view' : (start.attend [] [.addWorker (worker 0), .addWorker (worker 1),
      .addWorker (worker 2), .schedule, .arrive (worker 0) .zero, .arrive (worker 1) now]).map
        (fun next => (next.2.gate, (next.2.removeWorkerBy .byReversal (worker 2)).toBool)) =
      some (⟨3, 2, true, [worker 0, worker 1], 0⟩, true) := by cbv
  obtain ⟨⟨_, t⟩, attended, eq⟩ := Option.map_eq_some_iff.1 view
  obtain ⟨⟨_, s⟩, attended', eq'⟩ := Option.map_eq_some_iff.1 view'
  obtain ⟨gate, gathers⟩ : _ ∧ _ := by simpa only [Prod.mk.injEq] using eq
  obtain ⟨gate', removes⟩ : _ ∧ _ := by simpa only [Prod.mk.injEq] using eq'
  have new : CollectedHeap.Reached start := .created pair ⟨1, .zero, false⟩ .zero
  have reached : t.Reached := (Chronicle.start.attend attended).reached new
  have reached' : s.Reached := (Chronicle.start.attend attended').reached new
  have parked : t.collector.parked = [] := congrArg Gate.parked gate
  have parked' : s.collector.parked = [worker 0, worker 1] := congrArg Gate.parked gate'
  have arrivals : t.collector.arrivals = 0 := congrArg Gate.arrivals gate
  have alive : t.collector.workers.alive = 3 := congrArg Gate.alive gate
  have arrivals' : s.collector.arrivals = 2 := congrArg Gate.arrivals gate'
  have alive' : s.collector.workers.alive = 3 := congrArg Gate.alive gate'
  obtain ⟨atOnce, -, together, -⟩ :=
    (barrier_confluence reached' (congrArg Gate.requested gate')).1 (parked' ▸ List.cons_ne_nil _ _)
      (by rw [arrivals', alive']; decide) .byReversal (worker 2) now
  obtain ⟨same, completes⟩ :=
    (barrier_confluence reached (congrArg Gate.requested gate)).2 parked .byArrival .byReversal
      callers callers' (by rw [arrivals, alive]; rfl) rfl
  refine ⟨s, t, reached', reached, parked', ?_, parked, callers, callers', ?_⟩
  · cases run : s.removeWorkerBy .byReversal (worker 2) with
    | error fault => simp [run, Except.toBool] at removes
    | ok o =>
      rw [run] at atOnce together
      refine ⟨o.aftermath, rfl, atOnce.symm, ?_⟩
      obtain ⟨short, -⟩ | ⟨-, returned, waiting, episodes⟩ := (together _ rfl).moved
      · exact absurd short (by rw [arrivals', alive']; decide)
      · exact ⟨returned, waiting, episodes⟩
  · cases run : t.gatherBy .byArrival callers with
    | error fault => simp [run, Except.toBool] at gathers
    | ok o =>
      rw [run] at same completes
      obtain ⟨-, empty, -⟩ := completes o.state (List.cons_ne_nil _ _) rfl
      exact ⟨o.state, rfl, rfl, rfl, same.symm, empty⟩

end CollectedHeap

end RefCycle
