import Mathlib
import RefCycle.Collector.History
import RefCycle.ScriptedHeap
import RefCycle.Proofs.Collector.Gate
/-!
# The barrier under settled requests

When each request is taken with all of its consequences, the arrivals that are
counted are the calls that wait and those that were lost to misuse, and nobody
waits once everyone has arrived.

## Main definitions

* `Gate.Settled` — what holds of the gate between requests.
* `CollectedHeap.Completes` — a request brings the last arrival, or takes away the
  last worker that was waited for.

## Main statements

* `Gate.wake_short`, `Gate.wake_idle`, `Gate.wake_full` — woken calls stay or leave together.
* `perform_settles` — one request keeps the gate settled.
* `settled_barrier` — the barrier over whole histories.
-/

namespace RefCycle

namespace Gate

variable {g : Gate} {worker : WorkerId} {workers done parked : List WorkerId}
  {alive arrivals episodes lost : Nat} {requested due : Bool}

/-! ### Waking -/

theorem pass_short (short : arrivals < alive) :
    (⟨alive, arrivals, true, parked, episodes⟩ : Gate).pass worker =
      (.waiting, ⟨alive, arrivals, true, parked ++ [worker], episodes⟩) := by
  simp [pass, short]

theorem pass_full (full : alive ≤ arrivals) :
    (⟨alive, arrivals, true, parked, episodes⟩ : Gate).pass worker =
      (.completed, ⟨alive, arrivals - 1, false, parked, episodes + 1⟩) := by
  simp [pass, Nat.not_lt_of_le full]

theorem resume_head :
    (⟨alive, arrivals, requested, worker :: parked, episodes⟩ : Gate).resume worker =
      (⟨alive, arrivals, requested, parked, episodes⟩ : Gate).pass worker := by
  simp [resume]

/-- While someone is missing, woken calls wait again, and in the same order. -/
theorem wake_short (short : arrivals < alive) :
    (⟨alive, arrivals, true, workers ++ done, episodes⟩ : Gate).wake workers =
      ([], ⟨alive, arrivals, true, done ++ workers, episodes⟩) := by
  induction workers generalizing done with
  | nil => simp [wake]
  | cons worker workers ih =>
    -- The first call waits again, behind the others.
    rw [wake, List.cons_append, resume_head, pass_short short]
    dsimp only
    rw [List.append_assoc, ih, if_pos rfl, List.append_assoc, List.singleton_append]

/-- If no rendezvous is requested any more, woken calls leave. -/
theorem wake_idle :
    (⟨alive, arrivals, false, workers ++ done, episodes⟩ : Gate).wake workers =
      (workers, ⟨alive, arrivals - workers.length, false, done, episodes⟩) := by
  induction workers generalizing arrivals with
  | nil => rfl
  | cons worker workers ih =>
    -- The first call leaves and takes its arrival with it.
    have leaves : (⟨alive, arrivals, false, workers ++ done, episodes⟩ : Gate).pass worker =
        (.passed, ⟨alive, arrivals - 1, false, workers ++ done, episodes⟩) := rfl
    rw [wake, List.cons_append, resume_head, leaves]
    dsimp only
    rw [ih, if_neg (by decide), Nat.sub_sub, Nat.add_comm 1, List.length_cons]

/-- If everyone has arrived, the first woken call runs the episode and all leave. -/
theorem wake_full (full : alive ≤ arrivals) (waits : workers ≠ []) :
    (⟨alive, arrivals, true, workers, episodes⟩ : Gate).wake workers =
      (workers, ⟨alive, arrivals - workers.length, false, [], episodes + 1⟩) := by
  -- The episode clears the request, and the other calls find none.
  obtain ⟨worker, rest, rfl⟩ := List.exists_cons_of_ne_nil waits
  rw [wake, resume_head, pass_full full]
  dsimp only
  have others : (⟨alive, arrivals - 1, false, rest ++ [], episodes + 1⟩ : Gate).wake rest = _ :=
    wake_idle
  rw [List.append_nil] at others
  rw [others, if_neg (by decide), Nat.sub_sub, Nat.add_comm 1, List.length_cons]

/-! ### Settled gates -/

/-- Every counted arrival is a call that waits or was lost, and calls wait only
    while a rendezvous is requested and someone is missing. -/
structure Settled (g : Gate) (lost : Nat) : Prop where
  arrivals : g.arrivals = g.parked.length + lost
  waiting : g.parked ≠ [] → g.requested = true ∧ g.arrivals < g.alive

/-- A worker is removed, and waiting calls are woken. -/
def remove (worker : WorkerId) (g : Gate) : Except Misuse (List WorkerId) × Gate :=
  match g.deregister worker with
  | (.error misuse, g) => (.error misuse, g)
  | (.ok (), g) => (.ok (g.wake g.parked).1, (g.wake g.parked).2)

/-- A worker comes to a safepoint; if that completes a rendezvous, waiting calls
    are woken. -/
def meet (worker : WorkerId) (due : Bool) (g : Gate) : Except Misuse Rendezvous × Gate :=
  match g.arrive worker due with
  | (.error misuse, g) => (.error misuse, g)
  | (.ok .completed, g) => (.ok ⟨.completed, (g.wake g.parked).1⟩, (g.wake g.parked).2)
  | (.ok passage, g) => (.ok ⟨passage, []⟩, g)

/-- The gate when all waiting calls have left with an episode. -/
def opened (g : Gate) (lost : Nat) : Gate :=
  { g with parked := [], arrivals := lost, requested := false, episodes := g.episodes + 1 }

theorem settled_opened (g : Gate) (lost : Nat) : (g.opened lost).Settled lost :=
  ⟨by simp [opened], fun waits => absurd rfl waits⟩

/-- Without workers, removing one is a misuse and changes nothing. -/
theorem remove_none (nobody : g.alive = 0) :
    g.remove worker = (.error (.noWorkerToRemove worker), g) := by
  simp [remove, deregister, nobody]

/-- Removing the last worker that calls wait for completes the rendezvous. -/
theorem Settled.remove_last (settled : g.Settled lost) (waits : g.parked ≠ [])
    (last : g.alive = g.arrivals + 1) :
    g.remove worker = (.ok g.parked, { g with alive := g.arrivals }.opened lost) := by
  obtain ⟨alive, arrivals, requested, parked, episodes⟩ := g
  obtain ⟨count, waiting⟩ := settled
  dsimp only at *
  obtain ⟨rfl, -⟩ := waiting waits
  have left : arrivals - parked.length = lost := by omega
  simp only [remove, deregister, last, wake_full (Nat.le_refl _) waits, left, opened]

/-- Removing any other worker leaves waiting calls where they are. -/
theorem Settled.remove_other {rest : Nat} (settled : g.Settled lost) (manned : g.alive = rest + 1)
    (other : g.parked ≠ [] → g.arrivals < rest) :
    g.remove worker = (.ok [], { g with alive := rest }) := by
  obtain ⟨alive, arrivals, requested, parked, episodes⟩ := g
  obtain ⟨count, waiting⟩ := settled
  dsimp only at *
  simp only [remove, deregister, manned]
  by_cases waits : parked = []
  · subst waits
    rfl
  · obtain ⟨rfl, -⟩ := waiting waits
    have woken : (⟨rest, arrivals, true, parked ++ [], episodes⟩ : Gate).wake parked = _ :=
      wake_short (other waits)
    rw [List.append_nil] at woken
    rw [woken]
    rfl

/-- An arrival too many is lost. -/
theorem meet_excess (excess : g.alive < g.arrivals + 1) :
    g.meet worker due =
      (.error (.unregisteredArrival worker), { g with arrivals := g.arrivals + 1 }) := by
  simp [meet, arrive, excess]

/-- If nothing is requested, a call passes. -/
theorem meet_idle (room : ¬g.alive < g.arrivals + 1) (idle : (g.requested || due) = false) :
    g.meet worker due = (.ok ⟨.passed, []⟩, g) := by
  obtain ⟨alive, arrivals, requested, parked, episodes⟩ := g
  obtain ⟨rfl, rfl⟩ := Bool.or_eq_false_iff.1 idle
  simp only [meet, arrive, if_neg room]
  rfl

/-- If someone is still missing, a call waits. -/
theorem meet_short (short : g.arrivals + 1 < g.alive) (wanted : (g.requested || due) = true) :
    g.meet worker due =
      (.ok ⟨.waiting, []⟩, { g with
        arrivals := g.arrivals + 1, requested := true, parked := g.parked ++ [worker] }) := by
  have room : ¬g.alive < g.arrivals + 1 := by omega
  simp only [meet, arrive, if_neg room, wanted, pass_short short]

/-- The last call to arrive completes the rendezvous. -/
theorem Settled.meet_last (settled : g.Settled lost) (last : g.alive = g.arrivals + 1)
    (wanted : (g.requested || due) = true) :
    g.meet worker due = (.ok ⟨.completed, g.parked⟩, g.opened lost) := by
  obtain ⟨alive, arrivals, requested, parked, episodes⟩ := g
  have count := settled.arrivals
  dsimp only at *
  have room : ¬alive < arrivals + 1 := by omega
  have left : arrivals - parked.length = lost := by omega
  have woken : (⟨alive, arrivals, false, parked ++ [], episodes + 1⟩ : Gate).wake parked = _ :=
    wake_idle
  rw [List.append_nil] at woken
  simp only [meet, arrive, if_neg room, wanted, pass_full (Nat.le_of_eq last), Nat.add_sub_cancel,
    woken, left, opened]

/-- A call that completes a rendezvous leaves as many arrivals as it found. -/
theorem of_arrive_completed {h : Gate} (came : g.arrive worker due = (.ok .completed, h)) :
    h.parked = g.parked ∧ h.arrivals = g.arrivals := by
  unfold arrive pass at came
  grind

end Gate

namespace CollectedHeap

variable {H : Type} [Reclaimable H] {s : CollectedHeap H} {worker : WorkerId} {lost : Nat}

theorem removeWorker_gate (worker : WorkerId) (fits : s.gate.parked.length ≤ s.gate.arrivals) :
    (s.removeWorker worker).Ensures (Fault.Foreign H) fun o =>
      (o.answer, o.state.gate) = s.gate.remove worker := by
  refine (deregister_gate s worker).andThen fun taken h => ?_
  have same : taken.state.gate.parked = s.gate.parked ∧
      taken.state.gate.arrivals = s.gate.arrivals := by
    have state : taken.state.gate = _ := congrArg Prod.snd h
    rw [state, Gate.deregister_snd]
    exact ⟨rfl, rfl⟩
  obtain ⟨answer, state, trace⟩ := taken
  rw [Gate.remove, ← h]
  cases answer with
  | error misuse => rfl
  | ok _ =>
    refine Attempt.Ensures.map ((wake_gate state.gate.parked ?_).mono fun woken h' => ?_)
    · rw [same.1, same.2]
      exact fits
    · have released : woken.answer = _ := congrArg Prod.fst h'
      have next : woken.state.gate = _ := congrArg Prod.snd h'
      simp only [released, next]

theorem rendezvous_gate (worker : WorkerId) (now : Instant)
    (fits : s.gate.parked.length ≤ s.gate.arrivals) :
    (s.rendezvous worker now).Ensures (Fault.Foreign H) fun o =>
      (o.answer, o.state.gate) = s.gate.meet worker (s.scanDue now) := by
  refine (arrive_gate s worker now).andThen fun came h => ?_
  obtain ⟨answer, state, trace⟩ := came
  rw [Gate.meet, ← h]
  match answer with
  | .error misuse => rfl
  | .ok .passed => rfl
  | .ok .waiting => rfl
  | .ok .completed =>
    refine Attempt.Ensures.map ((wake_gate state.gate.parked ?_).mono fun woken h' => ?_)
    · obtain ⟨parked, arrivals⟩ := Gate.of_arrive_completed h.symm
      rw [parked, arrivals]
      exact fits
    · have released : woken.answer = _ := congrArg Prod.fst h'
      have next : woken.state.gate = _ := congrArg Prod.snd h'
      simp only [released, next]

/-- A request completes a rendezvous if it is the last arrival at one that is
    requested, or if it removes the last worker that waiting calls wait for. -/
def Completes (s : CollectedHeap H) : Collector.Request → Prop
  | .rendezvous _ now =>
    s.requestedAt now = true ∧ s.collector.arrivals + 1 = s.collector.workers.alive
  | .removeWorker _ =>
    s.collector.pending.rendezvous = true ∧ s.collector.parked ≠ [] ∧
      s.collector.arrivals + 1 = s.collector.workers.alive
  | .addWorker _ | .schedule | .collect => False

/-- The workers whose waiting calls have returned, by the answer to a request. -/
def released : Except Misuse Collector.Response → List WorkerId
  | .ok (.removed workers) => workers
  | .ok (.rendezvous r) => r.released
  | _ => []

/-- What a request does at the barrier, where `lost` arrivals were lost before it:
    waiting calls stay, or the call that is made joins them, or all leave; and an
    episode runs exactly if the request completes a rendezvous. -/
structure Settles (s : CollectedHeap H) (request : Collector.Request) (lost : Nat)
    (o : Outcome (CollectedHeap H) (Except Misuse Collector.Response)) : Prop where
  settled :
    o.state.gate.Settled (lost + if Entry.isLostArrival ⟨s, request, o⟩ then 1 else 0)
  parked :
    o.state.collector.parked = s.collector.parked ∨
    (∃ worker now, request = .rendezvous worker now ∧
      o.answer = .ok (.rendezvous ⟨.waiting, []⟩) ∧
      o.state.collector.parked = s.collector.parked ++ [worker]) ∨
    (o.state.collector.parked = [] ∧ released o.answer = s.collector.parked)
  once :
    o.state.collector.statistics.episodes = s.collector.statistics.episodes ∨
    o.state.collector.statistics.episodes = s.collector.statistics.episodes + 1
  episode :
    o.state.collector.statistics.episodes = s.collector.statistics.episodes + 1 ↔
      s.Completes request

section

variable {request : Collector.Request}
  {o : Outcome (CollectedHeap H) (Except Misuse Collector.Response)}

omit [Reclaimable H] in
theorem Settles.stay {g : Gate} (next : o.state.gate = g) (kept : g.parked = s.gate.parked)
    (same : g.episodes = s.gate.episodes) (open_ : ¬s.Completes request)
    (settled : g.Settled (lost + if Entry.isLostArrival ⟨s, request, o⟩ then 1 else 0)) :
    s.Settles request lost o := by
  subst next
  refine ⟨settled, .inl kept, .inl same, fun ran => ?_, fun done => absurd done open_⟩
  exact absurd (same.symm.trans ran) (Nat.ne_of_lt (Nat.lt_succ_self _))

omit [Reclaimable H] in
theorem Settles.complete {g : Gate} (left : released o.answer = s.gate.parked)
    (opened : o.state.gate = g.opened lost) (same : g.episodes = s.gate.episodes)
    (done : s.Completes request) (sound : Entry.isLostArrival ⟨s, request, o⟩ = false) :
    s.Settles request lost o := by
  have next : o.state.gate.episodes = s.gate.episodes + 1 := by rw [opened, ← same]; rfl
  have empty : o.state.gate.parked = [] := by rw [opened]; rfl
  refine ⟨?_, .inr (.inr ⟨empty, left⟩), .inr next, fun _ => done, fun _ => next⟩
  rw [sound, opened]
  exact g.settled_opened lost

end

theorem removeWorker_settles (settled : s.gate.Settled lost) (worker : WorkerId) :
    (s.perform (.removeWorker worker)).Ensures (Fault.Foreign H)
      (s.Settles (.removeWorker worker) lost) := by
  have fits : s.gate.parked.length ≤ s.gate.arrivals := settled.arrivals ▸ Nat.le_add_right ..
  refine Attempt.Ensures.map ((removeWorker_gate worker fits).mono fun o h => ?_)
  obtain ⟨answer, state, trace⟩ := o
  dsimp only at h ⊢
  cases alive : s.gate.alive with
  | zero =>
    obtain ⟨rfl, same⟩ := Prod.mk.inj (h.trans (Gate.remove_none alive))
    refine .stay same rfl rfl (fun done => ?_) settled
    exact absurd (done.2.2.trans alive) (Nat.succ_ne_zero _)
  | succ rest =>
    by_cases last : s.gate.parked ≠ [] ∧ s.gate.alive = s.gate.arrivals + 1
    · obtain ⟨rfl, opened⟩ := Prod.mk.inj (h.trans (settled.remove_last last.1 last.2))
      exact .complete rfl opened rfl ⟨(settled.waiting last.1).1, last.1, last.2.symm⟩ rfl
    · have other : s.gate.parked ≠ [] → s.gate.arrivals < rest := by
        intro waits
        have short := (settled.waiting waits).2
        have : s.gate.alive ≠ s.gate.arrivals + 1 := fun eq => last ⟨waits, eq⟩
        omega
      obtain ⟨rfl, same⟩ := Prod.mk.inj (h.trans (settled.remove_other alive other))
      refine .stay same rfl rfl (fun done => last ⟨done.2.1, done.2.2.symm⟩) ?_
      exact ⟨settled.arrivals, fun waits => ⟨(settled.waiting waits).1, other waits⟩⟩

theorem rendezvous_settles (settled : s.gate.Settled lost) (worker : WorkerId) (now : Instant) :
    (s.perform (.rendezvous worker now)).Ensures (Fault.Foreign H)
      (s.Settles (.rendezvous worker now) lost) := by
  have count := settled.arrivals
  have fits : s.gate.parked.length ≤ s.gate.arrivals := count ▸ Nat.le_add_right ..
  refine Attempt.Ensures.map ((rendezvous_gate worker now fits).mono fun o h => ?_)
  obtain ⟨answer, state, trace⟩ := o
  dsimp only at h ⊢
  by_cases excess : s.gate.alive < s.gate.arrivals + 1
  · obtain ⟨rfl, next⟩ := Prod.mk.inj (h.trans (Gate.meet_excess excess))
    refine .stay next rfl rfl (fun done => absurd done.2.symm (Nat.ne_of_lt excess)) ?_
    refine ⟨congrArg (· + 1) count, ?_⟩
    intro waits
    have := (settled.waiting waits).2
    omega
  · cases wanted : s.gate.requested || s.scanDue now with
    | false =>
      obtain ⟨rfl, same⟩ := Prod.mk.inj (h.trans (Gate.meet_idle excess wanted))
      refine .stay same rfl rfl (fun done => ?_) settled
      exact absurd (wanted.symm.trans done.1) Bool.false_ne_true
    | true =>
      by_cases last : s.gate.alive = s.gate.arrivals + 1
      · obtain ⟨rfl, opened⟩ := Prod.mk.inj (h.trans (settled.meet_last last wanted))
        exact .complete rfl opened rfl ⟨wanted, last.symm⟩ rfl
      · have short : s.gate.arrivals + 1 < s.gate.alive := by omega
        obtain ⟨rfl, next⟩ := Prod.mk.inj (h.trans (Gate.meet_short short wanted))
        refine ⟨?_, .inr (.inl ⟨worker, now, rfl, rfl, congrArg Gate.parked next⟩),
          .inl (congrArg Gate.episodes next), fun ran => ?_, fun done => absurd done.2.symm last⟩
        · rw [next]
          refine ⟨?_, fun _ => ⟨rfl, short⟩⟩
          simp only [List.length_append, List.length_singleton]
          exact (congrArg (· + 1) count).trans (Nat.add_right_comm ..)
        · exact absurd ((congrArg Gate.episodes next).symm.trans ran)
            (Nat.ne_of_lt (Nat.lt_succ_self _))

/-- Any request keeps the gate settled, and moves waiting calls all together. -/
theorem perform_settles (settled : s.gate.Settled lost) (request : Collector.Request) :
    (s.perform request).Ensures (Fault.Foreign H) (s.Settles request lost) := by
  cases request with
  | addWorker worker =>
    refine .stay rfl rfl rfl id ⟨settled.arrivals, fun waits => ?_⟩
    obtain ⟨requested, short⟩ := settled.waiting waits
    exact ⟨requested, Nat.lt_succ_of_lt short⟩
  | removeWorker worker => exact removeWorker_settles settled worker
  | schedule =>
    refine .stay (schedule_gate s) rfl rfl id ?_
    exact ⟨settled.arrivals, fun waits => ⟨rfl, (settled.waiting waits).2⟩⟩
  | collect =>
    rw [perform]
    refine Attempt.Ensures.map ((collect_gate s).mono fun o same => ?_)
    exact .stay same rfl rfl id settled
  | rendezvous worker now => exact rendezvous_settles settled worker now

/-- Between requests the gate is settled, with the arrivals lost so far. -/
theorem History.settled {entries : List (Entry H)} (history : History entries s) :
    s.gate.Settled (entries.countP Entry.isLostArrival) := by
  induction history with
  | created heap config now => exact ⟨rfl, fun waits => absurd rfl waits⟩
  | request history request performed ih =>
    rw [List.countP_cons]
    exact ((perform_settles ih request).of_ok performed).settled
  | mutated history heap ih => exact ih

/-- The barrier over whole histories.

    The arrivals are the calls that wait and those that were lost. While calls wait,
    a rendezvous is requested and someone is missing. Nothing goes wrong at the
    barrier itself; and in each request waiting calls stay, or are joined by the
    call that is made, or leave all at once, with at most one episode, which runs
    exactly if the request completes a rendezvous. -/
theorem settled_barrier {entries : List (Entry H)} (history : History entries s) :
    s.collector.arrivals = s.collector.parked.length + entries.countP Entry.isLostArrival ∧
    (s.collector.parked ≠ [] →
      s.collector.pending.rendezvous = true ∧ s.collector.arrivals < s.collector.workers.alive) ∧
    ∀ request,
      (∀ fault, s.perform request = .error fault → fault.Foreign H) ∧
      ∀ outcome, s.perform request = .ok outcome →
        (outcome.state.collector.parked = s.collector.parked ∨
          (∃ worker now, request = .rendezvous worker now ∧
            outcome.answer = .ok (.rendezvous ⟨.waiting, []⟩) ∧
            outcome.state.collector.parked = s.collector.parked ++ [worker]) ∨
          (outcome.state.collector.parked = [] ∧
            released outcome.answer = s.collector.parked)) ∧
        (outcome.state.collector.statistics.episodes = s.collector.statistics.episodes ∨
          outcome.state.collector.statistics.episodes = s.collector.statistics.episodes + 1) ∧
        (outcome.state.collector.statistics.episodes = s.collector.statistics.episodes + 1 ↔
          s.Completes request) := by
  have settled := history.settled
  refine ⟨settled.arrivals, settled.waiting, ?_⟩
  intro request
  have step := perform_settles settled request
  refine ⟨fun fault failed => step.of_error failed, ?_⟩
  intro outcome performed
  have moved := step.of_ok performed
  exact ⟨moved.parked, moved.once, moved.episode⟩

/-- Of three workers one waits, and an arrival was lost before there were any; so
    everyone has arrived when another leaves. -/
theorem settled_barrier_departure :
    ∃ (entries : List (Entry ScriptedHeap)) (s : CollectedHeap ScriptedHeap),
      History entries s ∧ entries.countP Entry.isLostArrival = 1 ∧ s.collector.arrivals = 1 + 1 ∧
      ∃ outcome, s.perform (.removeWorker ⟨2, by decide⟩) = .ok outcome ∧
        outcome.state.collector.statistics.episodes =
          s.collector.statistics.episodes + 1 := by
  let worker (n : Nat) : WorkerId := ⟨n + 1, Nat.succ_pos n⟩
  let start := (create ScriptedHeap.empty Config.default .zero).state
  let requests : List Collector.Request :=
    [.rendezvous (worker 2) .zero, .addWorker (worker 0), .addWorker (worker 1),
      .addWorker (worker 2), .schedule, .rendezvous (worker 0) .zero]
  let departure := Collector.Request.removeWorker (worker 1)
  have view : (start.play [] requests).map (fun next =>
      (next.1.countP Entry.isLostArrival, next.2.gate, (next.2.perform departure).toBool)) =
      some (1, ⟨3, 2, true, [worker 0], 0⟩, true) := by cbv
  obtain ⟨⟨entries, s⟩, played, eq⟩ := Option.map_eq_some_iff.1 view
  obtain ⟨lost, gate, carried⟩ : _ ∧ _ ∧ _ := by simpa only [Prod.mk.injEq] using eq
  have history := (History.created ScriptedHeap.empty Config.default .zero).play played
  have parked : s.gate.parked = [worker 0] := by rw [gate]
  have full : s.gate.requested = true ∧ s.gate.arrivals + 1 = s.gate.alive := by
    rw [gate]
    exact ⟨rfl, rfl⟩
  obtain ⟨count, -, moved⟩ := settled_barrier history
  refine ⟨entries, s, history, lost, ?_, ?_⟩
  · rw [count, lost, show s.collector.parked = [worker 0] from parked]
    rfl
  · cases run : s.perform departure with
    | error fault => simp [departure, run, Except.toBool] at carried
    | ok outcome =>
      have waits : s.gate.parked ≠ [] := parked ▸ List.cons_ne_nil _ _
      exact ⟨outcome, rfl, ((moved departure).2 outcome run).2.2.2 ⟨full.1, waits, full.2⟩⟩

end CollectedHeap

end RefCycle
