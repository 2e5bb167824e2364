import Mathlib
import RefCycle.Collector.Interleaving
import RefCycle.ScriptedHeap
import RefCycle.Proofs.Collector.Gate
/-!
# The barrier under interleaved sections

When calls run section by section, a call may come back to the barrier long
after it was woken, and meet a new request, new workers or the next episode
there. Still it cannot slip through.

## Main definitions

* `Gate.Orderly` — what holds of the gate and the register between sections.
* `Gate.Entering` — the same while one call is on its way to the barrier.
* `CollectedHeap.Opens` — a section runs the episode.

## Main statements

* `Gate.Entering.pass_orderly` — coming to the barrier restores the order.
* `Gate.Entering.complete` — if everyone has arrived, then everyone registered has.
* `Floor.run_orderly` — one section keeps the order.
* `Floor.interleaved_barrier` — the barrier over all interleavings.
-/

namespace RefCycle

namespace Gate

variable {g : Gate} {register : List WorkerId} {since : WorkerId → Nat} {worker : WorkerId}

/-- The calls that wait are those that were counted, each of another registered
    worker; and one that waits without a request has seen an episode begin. -/
structure Orderly (g : Gate) (register : List WorkerId) (since : WorkerId → Nat) : Prop where
  nodup : g.parked.Nodup
  registered : ∀ worker ∈ g.parked, worker ∈ register
  arrivals : g.arrivals = g.parked.length
  alive : g.alive = register.length
  past : ∀ worker, since worker ≤ g.episodes
  served : ∀ worker ∈ g.parked, g.requested = false → since worker < g.episodes

/-- A call of a worker is counted and does not wait; all else is in order. -/
structure Entering (g : Gate) (register : List WorkerId) (since : WorkerId → Nat)
    (worker : WorkerId) : Prop where
  nodup : (worker :: g.parked).Nodup
  registered : ∀ other ∈ worker :: g.parked, other ∈ register
  arrivals : g.arrivals = g.parked.length + 1
  alive : g.alive = register.length
  past : ∀ worker, since worker ≤ g.episodes
  served : ∀ worker ∈ g.parked, g.requested = false → since worker < g.episodes

theorem Orderly.arrivals_le (orderly : g.Orderly register since) : g.arrivals ≤ g.alive := by
  rw [orderly.arrivals, orderly.alive]
  exact orderly.nodup.length_le_of_subset orderly.registered

/-- There is room for the arrival of a worker that is not at the rendezvous. -/
theorem Orderly.room (orderly : g.Orderly register since) (registered : worker ∈ register)
    (outside : worker ∉ g.parked) : g.arrivals + 1 ≤ g.alive := by
  rw [orderly.arrivals, orderly.alive, ← List.length_cons (a := worker)]
  refine (List.nodup_cons.2 ⟨outside, orderly.nodup⟩).length_le_of_subset fun other mem => ?_
  obtain rfl | mem := List.mem_cons.1 mem
  · exact registered
  · exact orderly.registered other mem

theorem Orderly.arriving (orderly : g.Orderly register since) (registered : worker ∈ register)
    (outside : worker ∉ g.parked) (due : Bool) :
    Entering { g with arrivals := g.arrivals + 1, requested := g.requested || due } register
      (fun other => if other = worker then g.episodes else since other) worker where
  nodup := List.nodup_cons.2 ⟨outside, orderly.nodup⟩
  registered other mem := by
    obtain rfl | mem := List.mem_cons.1 mem
    · exact registered
    · exact orderly.registered other mem
  arrivals := congrArg (· + 1) orderly.arrivals
  alive := orderly.alive
  past other := by
    dsimp only
    split
    · exact Nat.le_refl _
    · exact orderly.past other
  served other mem idle := by
    have other_ne : other ≠ worker := fun eq => outside (eq ▸ mem)
    rw [if_neg other_ne]
    exact orderly.served other mem (Bool.or_eq_false_iff.1 idle).1

theorem Orderly.resuming (orderly : g.Orderly register since) (inside : worker ∈ g.parked) :
    Entering { g with parked := g.parked.erase worker } register since worker where
  nodup := List.nodup_cons.2 ⟨orderly.nodup.not_mem_erase, orderly.nodup.erase worker⟩
  registered other mem := by
    obtain rfl | mem := List.mem_cons.1 mem
    · exact orderly.registered other inside
    · exact orderly.registered other (List.mem_of_mem_erase mem)
  arrivals := by
    have pos := List.length_pos_of_mem inside
    have count := orderly.arrivals
    rw [List.length_erase_of_mem inside]
    dsimp only
    omega
  alive := orderly.alive
  past := orderly.past
  served other mem := orderly.served other (List.mem_of_mem_erase mem)

/-- If as many calls have arrived as workers are alive, then everyone on the
    register has a call at the rendezvous. -/
theorem Entering.complete (entering : g.Entering register since worker)
    (full : g.alive ≤ g.arrivals) {other : WorkerId} (registered : other ∈ register) :
    other ∈ worker :: g.parked := by
  apply Decidable.byContradiction
  intro missing
  -- Else that worker and those that arrived would be too many for the register.
  have sub : other :: worker :: g.parked ⊆ register := fun third mem => by
    obtain rfl | mem := List.mem_cons.1 mem
    · exact registered
    · exact entering.registered third mem
  have more := (List.nodup_cons.2 ⟨missing, entering.nodup⟩).length_le_of_subset sub
  have count := entering.arrivals
  have alive := entering.alive
  simp only [List.length_cons] at more
  omega

theorem Entering.pass_orderly (entering : g.Entering register since worker) :
    (g.pass worker).2.Orderly register since := by
  obtain ⟨nodup, registered, arrivals, alive, past, served⟩ := entering
  obtain ⟨outside, nodup⟩ := List.nodup_cons.1 nodup
  have others : ∀ other ∈ g.parked, other ∈ register := fun other mem =>
    registered other (List.mem_cons_of_mem _ mem)
  unfold pass
  split
  · rename_i requested
    split
    · -- While the request stands, nobody has to have seen an episode.
      refine ⟨?_, ?_, ?_, alive, past, fun _ _ idle => ?_⟩
      · exact List.perm_append_comm.nodup_iff.2 (List.nodup_cons.2 ⟨outside, nodup⟩)
      · intro other mem
        rw [List.mem_append, List.mem_singleton] at mem
        obtain mem | rfl := mem
        · exact others other mem
        · exact registered other List.mem_cons_self
      · simpa using arrivals
      · exact absurd (requested.symm.trans idle) (by decide)
    · -- The episode is later than every arrival.
      refine ⟨nodup, others, by simp [arrivals], alive, fun other => ?_, fun other _ _ => ?_⟩
      · exact Nat.le_succ_of_le (past other)
      · exact Nat.lt_succ_of_le (past other)
  · exact ⟨nodup, others, by simp [arrivals], alive, past, served⟩

theorem mem_parked_pass (outside : worker ∉ g.parked) (other : WorkerId) :
    other ∈ (g.pass worker).2.parked ↔
      if worker = other then (g.pass worker).1 = .waiting else other ∈ g.parked := by
  unfold pass
  by_cases same : worker = other
  · subst same
    split
    · split <;> simp [outside]
    · simp [outside]
  · rw [if_neg same]
    split
    · split <;> simp [Ne.symm same]
    · rfl

theorem episodes_pass (g : Gate) (worker : WorkerId) :
    (g.pass worker).2.episodes =
      if g.requested = true ∧ g.alive ≤ g.arrivals then g.episodes + 1 else g.episodes := by
  unfold pass
  grind

/-- A call does not return before there was an episode, unless there was one before. -/
theorem Entering.served_pass (entering : g.Entering register since worker)
    (before : g.requested = false → since worker < g.episodes)
    (returns : (g.pass worker).1 ≠ .waiting) : since worker < (g.pass worker).2.episodes := by
  unfold pass at returns ⊢
  split
  · rename_i requested
    rw [if_pos requested] at returns
    split
    · rename_i short
      rw [if_pos short] at returns
      exact absurd rfl returns
    · exact Nat.lt_succ_of_le (entering.past worker)
  · exact before (by simpa using ‹¬g.requested = true›)

end Gate

namespace CollectedHeap

variable {H : Type} [Reclaimable H] {s : CollectedHeap H}

/-- A section comes to the barrier when a rendezvous is requested and everyone has
    arrived. -/
def Opens (s : CollectedHeap H) : Collector.Section → Prop
  | .arrive _ now =>
    s.requestedAt now = true ∧ s.collector.workers.alive ≤ s.collector.arrivals + 1
  | .resume _ =>
    s.collector.pending.rendezvous = true ∧ s.collector.workers.alive ≤ s.collector.arrivals
  | .addWorker _ | .removeWorker _ | .schedule | .collect => False

instance (s : CollectedHeap H) (part : Collector.Section) : Decidable (s.Opens part) :=
  match part with
  | .arrive _ _ | .resume _ => inferInstanceAs (Decidable (_ ∧ _))
  | .addWorker _ | .removeWorker _ | .schedule | .collect => .isFalse id

end CollectedHeap

namespace Floor

variable {H : Type} [Reclaimable H] {floor : Floor H} {part : Collector.Section}
  {o : Outcome (CollectedHeap H) (Except Misuse (Option Passage))}

/-- The gate of a floor is in order. -/
def Orderly (floor : Floor H) : Prop :=
  floor.state.gate.Orderly floor.register floor.since

omit [Reclaimable H] in
/-- If a section runs the episode, then every registered worker has a call at the
    rendezvous, that of the section itself included. -/
theorem Orderly.complete (orderly : floor.Orderly) (allowed : floor.Allows part)
    (opens : floor.state.Opens part) {worker : WorkerId} (registered : worker ∈ floor.register) :
    floor.InRendezvous worker ∨ part.caller = some worker := by
  cases part with
  | addWorker | removeWorker | schedule | collect => exact opens.elim
  | arrive caller now =>
    have entering := Gate.Orderly.arriving orderly allowed.1 allowed.2 (floor.state.scanDue now)
    obtain rfl | mem := List.mem_cons.1 (entering.complete opens.2 registered)
    · exact .inr rfl
    · exact .inl mem
  | resume caller =>
    have entering := Gate.Orderly.resuming orderly allowed
    obtain rfl | mem := List.mem_cons.1 (entering.complete opens.2 registered)
    · exact .inr rfl
    · exact .inl (List.mem_of_mem_erase mem)

/-- What an allowed section does on an orderly floor. -/
structure Moves (floor : Floor H) (part : Collector.Section)
    (o : Outcome (CollectedHeap H) (Except Misuse (Option Passage))) : Prop where
  orderly : (floor.after part o.state).Orderly
  registered : ∀ worker, o.answer ≠ .error (.unregisteredArrival worker)
  inside : ∀ worker, (floor.after part o.state).InRendezvous worker ↔
    if part.caller = some worker then o.answer = .ok (some .waiting) else floor.InRendezvous worker
  episodes : o.state.collector.statistics.episodes =
    if floor.state.Opens part then floor.state.collector.statistics.episodes + 1
    else floor.state.collector.statistics.episodes
  served : ∀ worker, part.caller = some worker →
    (∀ now, part = .arrive worker now → floor.state.requestedAt now = true) →
    o.answer ≠ .ok (some .waiting) →
    (floor.after part o.state).since worker < o.state.collector.statistics.episodes

omit [Reclaimable H] in
/-- A section of another call leaves those that wait where they are. -/
theorem Moves.away {g : Gate} (away : part.caller = none) (closed : ¬floor.state.Opens part)
    (next : o.state.gate = g)
    (orderly : g.Orderly (floor.after part o.state).register (floor.after part o.state).since)
    (parked : g.parked = floor.state.gate.parked) (episodes : g.episodes = floor.state.gate.episodes)
    (registered : ∀ worker, o.answer ≠ .error (.unregisteredArrival worker)) :
    floor.Moves part o := by
  subst next
  refine ⟨orderly, registered, fun worker => ?_, ?_, fun worker calls => ?_⟩
  · rw [away, if_neg (Option.some_ne_none worker).symm]
    exact iff_of_eq (congrArg (worker ∈ ·) parked)
  · rw [if_neg closed]
    exact episodes
  · exact absurd (away.symm.trans calls) (Option.some_ne_none worker).symm

omit [Reclaimable H] in
/-- A section of a rendezvous call comes to the barrier. -/
theorem Moves.of_pass {g : Gate} {caller : WorkerId} (calls : part.caller = some caller)
    (entering : g.Entering (floor.after part o.state).register (floor.after part o.state).since
      caller)
    (came : (o.answer, o.state.gate) = (.ok (some (g.pass caller).1), (g.pass caller).2))
    (opens : floor.state.Opens part ↔ g.requested = true ∧ g.alive ≤ g.arrivals)
    (episodes : g.episodes = floor.state.gate.episodes)
    (others : ∀ worker, caller ≠ worker → (worker ∈ g.parked ↔ floor.InRendezvous worker))
    (before : (∀ now, part = .arrive caller now → floor.state.requestedAt now = true) →
      g.requested = false → (floor.after part o.state).since caller < g.episodes) :
    floor.Moves part o := by
  obtain ⟨answer, next⟩ := Prod.mk.inj came
  have passed : (g.pass caller).2.episodes = o.state.collector.statistics.episodes :=
    (congrArg Gate.episodes next).symm
  refine ⟨?_, fun worker => ?_, fun worker => ?_, ?_, fun worker called wanted returns => ?_⟩
  · have orderly := entering.pass_orderly
    rwa [← next] at orderly
  · rw [answer]
    exact fun eq => nomatch eq
  · have moved := Gate.mem_parked_pass (List.nodup_cons.1 entering.nodup).1 worker
    rw [← next] at moved
    refine moved.trans ?_
    rw [calls, answer]
    by_cases same : caller = worker
    · rw [if_pos same, if_pos (congrArg some same)]
      simp
    · rw [if_neg same, if_neg (fun eq => same (Option.some.inj eq))]
      exact others worker same
  · rw [← passed, Gate.episodes_pass, episodes]
    simp only [opens]
    rfl
  · obtain rfl := Option.some.inj (calls.symm.trans called)
    rw [← passed]
    refine entering.served_pass (before wanted) fun waits => returns ?_
    rw [answer, waits]

theorem arrive_moves (orderly : floor.Orderly) {worker : WorkerId} {now : Instant}
    (allowed : floor.Allows (.arrive worker now)) :
    (floor.state.run (.arrive worker now)).Ensures (Fault.Foreign H)
      (floor.Moves (.arrive worker now)) := by
  refine Attempt.Ensures.map ((CollectedHeap.arrive_gate _ worker now).mono fun o came => ?_)
  have room := Gate.Orderly.room orderly allowed.1 allowed.2
  have entering := Gate.Orderly.arriving orderly allowed.1 allowed.2 (floor.state.scanDue now)
  rw [Gate.arrive, if_neg (Nat.not_lt_of_le room)] at came
  obtain ⟨answer, next⟩ := Prod.mk.inj came
  refine .of_pass rfl entering (Prod.ext ?_ next) Iff.rfl rfl (fun other _ => Iff.rfl) ?_
  · rw [answer]
    rfl
  · intro wanted idle
    exact absurd ((wanted now rfl).symm.trans idle) (by decide)

theorem resume_moves (orderly : floor.Orderly) {worker : WorkerId}
    (allowed : floor.Allows (.resume worker)) :
    (floor.state.run (.resume worker)).Ensures (Fault.Foreign H)
      (floor.Moves (.resume worker)) := by
  have arrived : 0 < floor.state.gate.arrivals := by
    rw [orderly.arrivals]
    exact List.length_pos_of_mem allowed
  rw [CollectedHeap.run]
  refine Attempt.Ensures.map ((CollectedHeap.resume_gate worker arrived).mono fun o came => ?_)
  have entering := Gate.Orderly.resuming orderly allowed
  obtain ⟨answer, next⟩ := Prod.mk.inj came
  refine .of_pass rfl entering (Prod.ext ?_ next) Iff.rfl rfl (fun other ne => ?_) ?_
  · rw [answer]
    rfl
  · exact List.mem_erase_of_ne (Ne.symm ne)
  · exact fun _ => orderly.served worker allowed

theorem removeWorker_moves (orderly : floor.Orderly) {worker : WorkerId}
    (allowed : floor.Allows (.removeWorker worker)) :
    (floor.state.run (.removeWorker worker)).Ensures (Fault.Foreign H)
      (floor.Moves (.removeWorker worker)) := by
  refine Attempt.Ensures.map ((CollectedHeap.deregister_gate _ worker).mono fun o came => ?_)
  have gate : o.state.gate = { floor.state.gate with alive := floor.state.gate.alive - 1 } :=
    (congrArg Prod.snd came).trans (Gate.deregister_snd ..)
  refine .away rfl id gate ?_ rfl rfl (fun other => ?_)
  · refine ⟨orderly.nodup, allowed.2, orderly.arrivals, ?_, orderly.past, orderly.served⟩
    have alive := orderly.alive
    dsimp only [after]
    obtain mem | empty := allowed.1
    · rw [List.length_erase_of_mem mem, alive]
    · rw [alive, empty]
      rfl
  · have answer : o.answer = _ := congrArg Prod.fst came
    rw [answer, Gate.deregister]
    intro eq
    split at eq <;> simp [Except.map] at eq

/-- An allowed section keeps the order, and meets no fault of the barrier. -/
theorem run_moves (orderly : floor.Orderly) (allowed : floor.Allows part) :
    (floor.state.run part).Ensures (Fault.Foreign H) (floor.Moves part) := by
  cases part with
  | addWorker worker =>
    refine .away rfl id rfl ?_ rfl rfl (fun _ eq => nomatch eq)
    exact ⟨orderly.nodup, fun other mem => List.mem_cons_of_mem _ (orderly.registered other mem),
      orderly.arrivals, congrArg (· + 1) orderly.alive, orderly.past, orderly.served⟩
  | removeWorker worker => exact removeWorker_moves orderly allowed
  | schedule =>
    refine .away rfl id (CollectedHeap.schedule_gate _) ?_ rfl rfl (fun _ eq => nomatch eq)
    exact ⟨orderly.nodup, orderly.registered, orderly.arrivals, orderly.alive, orderly.past,
      fun _ _ idle => nomatch idle⟩
  | collect =>
    rw [CollectedHeap.run]
    refine Attempt.Ensures.map ((CollectedHeap.collect_gate _).mono fun o same => ?_)
    exact .away rfl id same orderly rfl rfl (fun _ eq => nomatch eq)
  | arrive worker now => exact arrive_moves orderly allowed
  | resume worker => exact resume_moves orderly allowed

/-- Under any interleaving the floor stays in order. -/
theorem Interleaving.orderly (history : Interleaving floor) : floor.Orderly := by
  induction history with
  | created heap config now =>
    refine ⟨List.nodup_nil, ?_, rfl, rfl, fun _ => Nat.le_refl 0, ?_⟩
    · exact fun _ mem => absurd mem List.not_mem_nil
    · exact fun _ mem => absurd mem List.not_mem_nil
  | ran history part allowed performed ih => exact ((run_moves ih allowed).of_ok performed).orderly
  | mutated history heap ih => exact ih

/-- The barrier over all interleavings.

    The arrivals are the calls that are at the rendezvous, each of another
    registered worker, and never more than there are workers alive. The barrier
    makes no fault, and no call of a registered worker is one too many. An episode
    runs exactly in the sections that open one, and then every registered worker
    has a call at the rendezvous. A call is at the rendezvous until it returns; if
    one found a request when it arrived, it returns only after an episode that
    ended since. -/
theorem interleaved_barrier (history : Interleaving floor) :
    floor.state.collector.arrivals = floor.state.collector.parked.length ∧
    floor.state.collector.parked.Nodup ∧
    (∀ worker, floor.InRendezvous worker → worker ∈ floor.register) ∧
    floor.state.collector.workers.alive = floor.register.length ∧
    floor.state.collector.arrivals ≤ floor.state.collector.workers.alive ∧
    ∀ part, floor.Allows part →
      (∀ fault, floor.state.run part = .error fault → fault.Foreign H) ∧
      (floor.state.Opens part → ∀ worker ∈ floor.register,
        floor.InRendezvous worker ∨ part.caller = some worker) ∧
      ∀ outcome, floor.state.run part = .ok outcome →
        (∀ worker, outcome.answer ≠ .error (.unregisteredArrival worker)) ∧
        (outcome.state.collector.statistics.episodes =
          if floor.state.Opens part then floor.state.collector.statistics.episodes + 1
          else floor.state.collector.statistics.episodes) ∧
        (∀ worker, (floor.after part outcome.state).InRendezvous worker ↔
          if part.caller = some worker then outcome.answer = .ok (some .waiting)
          else floor.InRendezvous worker) ∧
        ∀ worker, part.caller = some worker → outcome.answer ≠ .ok (some .waiting) →
          (∀ now, part = .arrive worker now → floor.state.requestedAt now = true) →
          (floor.after part outcome.state).since worker <
            outcome.state.collector.statistics.episodes := by
  have orderly := history.orderly
  refine ⟨orderly.arrivals, orderly.nodup, orderly.registered, orderly.alive,
    Gate.Orderly.arrivals_le orderly, fun part allowed => ?_⟩
  have step := run_moves orderly allowed
  refine ⟨fun fault failed => step.of_error failed, fun opens worker registered => ?_,
    fun outcome performed => ?_⟩
  · exact orderly.complete allowed opens registered
  · have moved := step.of_ok performed
    refine ⟨moved.registered, moved.episodes, moved.inside, ?_⟩
    intro worker calls returns wanted
    exact moved.served worker calls wanted returns

/-- A call that was woken by an episode is overtaken by the next request and waits
    again. When the other worker has left, it runs the episode itself. -/
theorem interleaved_barrier_overtaken :
    ∃ floor : Floor ScriptedHeap, Interleaving floor ∧
      floor.state.collector.arrivals = 1 ∧ floor.state.collector.statistics.episodes = 1 ∧
      ∃ outcome, floor.state.run (.resume ⟨1, by decide⟩) = .ok outcome ∧
        outcome.state.collector.statistics.episodes = 1 + 1 := by
  let worker (n : Nat) : WorkerId := ⟨n + 1, Nat.succ_pos n⟩
  let start : Floor ScriptedHeap :=
    ⟨(CollectedHeap.create .empty Config.default .zero).state, [], fun _ => 0⟩
  let parts : List Collector.Section :=
    [.addWorker (worker 0), .addWorker (worker 1), .schedule, .arrive (worker 0) .zero,
      .arrive (worker 1) .zero, .schedule, .resume (worker 0), .removeWorker (worker 1)]
  have view : (start.play parts).map (fun floor =>
      (floor.state.gate, (floor.state.run (.resume (worker 0))).toBool)) =
      some (⟨1, 1, true, [worker 0], 1⟩, true) := by cbv
  obtain ⟨floor, played, eq⟩ := Option.map_eq_some_iff.1 view
  obtain ⟨gate, carried⟩ := Prod.mk.inj eq
  have history := (Interleaving.created ScriptedHeap.empty Config.default .zero).play played
  have parked : floor.state.gate.parked = [worker 0] := by rw [gate]
  have once : floor.state.collector.statistics.episodes = 1 := congrArg Gate.episodes gate
  have opens : floor.state.Opens (.resume (worker 0)) := by
    show floor.state.gate.requested = true ∧ floor.state.gate.alive ≤ floor.state.gate.arrivals
    rw [gate]
    exact ⟨rfl, Nat.le_refl 1⟩
  have inside : floor.Allows (.resume (worker 0)) := by
    show worker 0 ∈ floor.state.gate.parked
    rw [parked]
    exact List.mem_cons_self
  obtain ⟨arrivals, -, -, -, -, moved⟩ := interleaved_barrier history
  refine ⟨floor, history, ?_, once, ?_⟩
  · rw [arrivals]
    exact congrArg List.length parked
  · cases run : floor.state.run (.resume (worker 0)) with
    | error fault => simp [run, Except.toBool] at carried
    | ok outcome =>
      have ran := ((moved _ inside).2.2 outcome run).2.1
      rw [if_pos opens, once] at ran
      exact ⟨outcome, rfl, ran⟩

end Floor

end RefCycle
