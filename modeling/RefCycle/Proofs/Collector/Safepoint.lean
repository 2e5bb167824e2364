import Mathlib
import RefCycle.Collector.Journal
import RefCycle.ScriptedHeap
import RefCycle.Proofs.Collector.Conservation
/-!
# A snapshot does not outlive a safepoint

A call that comes to a safepoint while a snapshot is pending either consumes it or waits
until it is consumed. Only the first worker may be spared.

## Main definitions

* `CollectedHeap.Stands` — a rendezvous is requested, and a snapshot is pending for it.
* `CollectedHeap.StartsWith` — the first thing that is asked is asked to consume a snapshot.
* `CollectedHeap.Carries` — what passes and episodes leave alone, and how many passes are
  counted.

## Main statements

* `Turns.stands` — while a snapshot stands, a section consumes it, or nothing is asked and
  no call returns.
* `Chronicle.released` — so when a call that waited returns, the snapshot is consumed.
* `Pass.takes`, `runEpisode_takes` — a pass, or an episode, consumes a pending snapshot once.
* `Journal.first` — a collector knows the worker that registered first.
* `safepoint_consumes_snapshot` — what becomes of a pending snapshot at a safepoint.
-/

namespace RefCycle.CollectedHeap

variable {H : Type} [Reclaimable H] {s t : CollectedHeap H} {heap : H} {config : Config}
  {snapshot : Snapshot} {worker : WorkerId} {now : Instant} {part : Collector.Section}
  {steps : List (Step H)} {asked : List Consultation}

/-! ### While a rendezvous is requested -/

/-- A rendezvous is requested, and a snapshot is pending for it. -/
structure Stands (snapshot : Snapshot) (s : CollectedHeap H) : Prop where
  agrees : s.Agrees
  pending : s.collector.snapshot = some snapshot
  requested : s.collector.pending.rendezvous = true

/-- The questions with which a snapshot is consumed come first, with what a heap answers
    to them. -/
def StartsWith (snapshot : Snapshot) (heap : H) (asked : List Consultation) : Prop :=
  ∃ reclaimed rest, asked = snapshot.questions (Reclaimable.refCount? heap) reclaimed ++ rest

theorem StartsWith.append (starts : StartsWith snapshot heap asked) (more : List Consultation) :
    StartsWith snapshot heap (asked ++ more) := by
  obtain ⟨reclaimed, rest, rfl⟩ := starts
  exact ⟨reclaimed, rest ++ more, List.append_assoc ..⟩

theorem Tried.startsWith {next : H} (tried : Tried heap (some snapshot) asked next) :
    StartsWith snapshot heap asked := by
  obtain ⟨reclaimed, rfl⟩ := tried.eq_questions
  exact ⟨reclaimed, [], (List.append_nil _).symm⟩

theorem Pass.startsWith {o : Outcome (CollectedHeap H) Nat} (pass : s.Pass o)
    (pending : s.collector.snapshot = some snapshot) :
    StartsWith snapshot s.heap (Trace.consultations o.trace) := by
  have tried := pass.tried
  rw [pending] at tried
  exact tried.startsWith

/-- Who comes to the barrier waits, or conducts the episode. -/
theorem AtBarrier.stands {o : Outcome (CollectedHeap H) Passage} (barrier : s.AtBarrier worker o)
    (stands : s.Stands snapshot) :
    (o.answer = .waiting ∧ Trace.consultations o.trace = [] ∧ o.state.Stands snapshot) ∨
    StartsWith snapshot s.heap (Trace.consultations o.trace) := by
  cases barrier with
  | passes idle => exact absurd (idle.symm.trans stands.requested) Bool.false_ne_true
  | waits =>
    exact .inl ⟨rfl, rfl, ⟨stands.agrees.collection, stands.agrees.scan⟩, stands.pending,
      stands.requested⟩
  | @completes arrivals episode wanted full ran came =>
    obtain ⟨during, trace, conducted⟩ := stands.agrees.conducted ran
    obtain ⟨questions, tried, asked⟩ := conducted.asked
    rw [stands.pending] at tried
    rw [trace, Trace.consultations_collector, asked]
    exact .inr (tried.startsWith.append _)

omit [Reclaimable H] in
theorem Stands.counted (stands : s.Stands snapshot) (now : Instant) :
    (s.counted now).Stands snapshot :=
  ⟨stands.agrees.counted now, stands.pending, requested_pendingAt stands.requested now⟩

/-- While a rendezvous is requested, a section consumes the pending snapshot, or asks
    nothing and lets no call return. -/
theorem Turns.stands {o : Outcome (CollectedHeap H) (Except Misuse (Option Passage))}
    (turns : s.Turns part o) (stands : s.Stands snapshot) :
    ((∀ passage, o.answer = .ok (some passage) → passage = .waiting) ∧
      Trace.consultations o.trace = [] ∧ o.state.Stands snapshot) ∨
    StartsWith snapshot s.heap (Trace.consultations o.trace) := by
  have agrees := stands.agrees.turns turns
  cases turns with
  | added =>
    exact .inl ⟨fun _ answered => absurd answered (by simp), consultations_addWorker _, agrees,
      stands.pending, stands.requested⟩
  | scheduled =>
    refine .inl ⟨fun _ answered => absurd answered (by simp), rfl, agrees, stands.pending, ?_⟩
    simp only [schedule, stands.pending]
    rfl
  | collected pass | unmanned pass =>
    exact .inr (pass.startsWith stands.pending)
  | removed pass =>
    rw [Trace.consultations_append]
    exact .inr ((pass.startsWith stands.pending).append _)
  | lost =>
    exact .inl ⟨fun _ answered => absurd answered (by simp), rfl, agrees, stands.pending,
      stands.requested⟩
  | swept room idle =>
    exact absurd (idle.symm.trans (requested_pendingAt stands.requested _)) Bool.false_ne_true
  | @arrived worker now o before room left barrier silent =>
    rw [Trace.consultations_append, silent]
    refine (barrier.stands (stands.counted now)).imp_left ?_
    rintro ⟨waits, asked, stands⟩
    exact ⟨fun passage eq => by cases eq; exact waits, asked, stands⟩
  | @resumed worker o barrier =>
    have left : (s.modifyCollector fun c =>
        { c with parked := c.parked.erase worker }).Stands snapshot :=
      ⟨⟨stands.agrees.collection, stands.agrees.scan⟩, stands.pending, stands.requested⟩
    refine (barrier.stands left).imp_left ?_
    rintro ⟨waits, asked, stands⟩
    exact ⟨fun passage eq => by cases eq; exact waits, asked, stands⟩

/-- A snapshot that stands is consumed, or it still stands and nothing was asked. -/
theorem Chronicle.stands (chronicle : s.Chronicle asked t) (stands : s.Stands snapshot) :
    (asked = [] ∧ t.Stands snapshot) ∨
    ∃ u, s.Chronicle [] u ∧ u.collector.snapshot = some snapshot ∧
      StartsWith snapshot u.heap asked := by
  induction chronicle with
  | start => exact .inl ⟨rfl, stands⟩
  | @ran asked t outcome before part enabled performed ih =>
    obtain ⟨rfl, still⟩ | ⟨u, waits, frozen, starts⟩ := ih
    · obtain ⟨-, silent, stands⟩ | starts := (turns_of_run performed).stands still
      · exact .inl ⟨silent, stands⟩
      · exact .inr ⟨t, before, still.pending, starts⟩
    · exact .inr ⟨u, waits, frozen, starts.append _⟩
  | mutated before heap ih =>
    exact ih.imp_left fun ⟨silent, still⟩ =>
      ⟨silent, ⟨still.agrees.collection, still.agrees.scan⟩, still.pending, still.requested⟩

/-- When a call that waited returns, the snapshot that stood is consumed. -/
theorem Chronicle.released {other : WorkerId} {passage : Passage}
    {o : Outcome (CollectedHeap H) (Except Misuse (Option Passage))}
    (chronicle : s.Chronicle asked t) (stands : s.Stands snapshot)
    (performed : t.run (.resume other) = .ok o) (answered : o.answer = .ok (some passage))
    (returned : passage ≠ .waiting) :
    ∃ u, s.Chronicle [] u ∧ u.collector.snapshot = some snapshot ∧
      StartsWith snapshot u.heap (asked ++ Trace.consultations o.trace) := by
  obtain ⟨rfl, still⟩ | ⟨u, waits, frozen, starts⟩ := chronicle.stands stands
  · obtain ⟨waiting, -, -⟩ | starts := (turns_of_run performed).stands still
    · exact absurd (waiting passage answered) returned
    · exact ⟨t, chronicle, still.pending, starts⟩
  · exact ⟨u, waits, frozen, starts.append _⟩

/-! ### What passes and episodes leave alone -/

/-- The settings and the workers stay, and so many passes more are counted. -/
structure Carries (passes : Nat) (s t : CollectedHeap H) : Prop where
  config : t.collector.config = s.collector.config
  workers : t.collector.workers = s.collector.workers
  collections : t.collector.statistics.collections = s.collector.statistics.collections + passes

/-- A pass is counted once, if there is a snapshot. -/
theorem Pass.carries {o : Outcome (CollectedHeap H) Nat} (pass : s.Pass o) :
    Carries (if s.collector.snapshot.isSome then 1 else 0) s o.state := by
  cases pass with
  | nothing empty =>
    rw [empty]
    exact ⟨rfl, rfl, rfl⟩
  | consumed pending tried released recorded =>
    obtain rfl := Statistics.record_eq_ok recorded
    rw [pending]
    exact ⟨rfl, rfl, rfl⟩

/-- A scan is not a pass. -/
theorem scanIfPending_carries {o : Outcome (CollectedHeap H) Unit}
    (run : s.scanIfPending = .ok o) : Carries 0 s o.state := by
  unfold scanIfPending at run
  split at run
  · cases scan_of_run run with
    | captured found recorded | foundNothing none recorded =>
      obtain rfl := Statistics.record_eq_ok recorded
      exact ⟨rfl, rfl, rfl⟩
  · cases run
    exact ⟨rfl, rfl, rfl⟩

theorem runEpisode_carries {o : Outcome (CollectedHeap H) Unit} (run : s.runEpisode = .ok o)
    (agrees : s.Agrees) :
    Carries (if s.collector.snapshot.isSome then 1 else 0) s o.state := by
  obtain ⟨statistics, first, second, recorded, takes, scans, state, -⟩ := runEpisode_eq_ok run
  have opened : (s.modifyCollector ({ · with statistics })).Agrees :=
    ⟨agrees.collection, agrees.scan⟩
  obtain ⟨answer, pass⟩ := opened.pass takes
  have passed := pass.carries
  have scanned := scanIfPending_carries scans
  obtain rfl := Statistics.record_eq_ok recorded
  rw [state]
  refine ⟨scanned.config.trans passed.config, scanned.workers.trans passed.workers, ?_⟩
  exact scanned.collections.trans passed.collections

theorem AtBarrier.carries {o : Outcome (CollectedHeap H) Passage} (barrier : s.AtBarrier worker o)
    (agrees : s.Agrees) : ∃ passes, Carries passes s o.state := by
  cases barrier with
  | passes | waits => exact ⟨0, rfl, rfl, rfl⟩
  | completes wanted full ran came =>
    obtain ⟨config, workers, collections⟩ := runEpisode_carries ran agrees
    exact ⟨_, config, workers, collections⟩

/-- A pass consumes the pending snapshot, once. -/
theorem Pass.takes {o : Outcome (CollectedHeap H) Nat} (pass : s.Pass o)
    (pending : s.collector.snapshot = some snapshot) :
    Tried s.heap (some snapshot) (Trace.consultations o.trace) o.state.heap ∧
      o.state.collector.snapshot = none ∧
      o.state.collector.statistics.collections = s.collector.statistics.collections + 1 := by
  have tried := pass.tried
  have collections := pass.carries.collections
  rw [pending] at tried collections
  exact ⟨tried, pass.swept.snapshot, collections⟩

/-- An episode consumes the pending snapshot, once, and scans only after that. -/
theorem runEpisode_takes {o : Outcome (CollectedHeap H) Unit} (run : s.runEpisode = .ok o)
    (agrees : s.Agrees) (pending : s.collector.snapshot = some snapshot) :
    o.state.collector.statistics.episodes = s.collector.statistics.episodes + 1 ∧
      o.state.collector.statistics.collections = s.collector.statistics.collections + 1 ∧
      ∃ during questions, o.trace =
          .collector (.episode s.collector.workers.alive s.collector.pending) :: during ∧
        Tried s.heap (some snapshot) questions o.state.heap ∧
        Trace.consultations during =
          questions ++ (if s.collector.pending.scan then survey o.state.heap else []) ∧
        o.state.collector.snapshot =
          if s.collector.pending.scan then candidates o.state.heap else none := by
  have episodes := congrArg Gate.episodes ((runEpisode_gate s).of_ok run)
  have collections := (runEpisode_carries run agrees).collections
  obtain ⟨during, trace, conducted⟩ := agrees.conducted run
  obtain ⟨questions, tried, asked⟩ := conducted.asked
  rw [pending] at collections tried
  exact ⟨episodes, collections, during, questions, trace, tried, asked, conducted.snapshot⟩

/-! ### Who was first -/

/-- The settings stay, and the worker that registered first stays the first. -/
theorem Turns.first {o : Outcome (CollectedHeap H) (Except Misuse (Option Passage))}
    (turns : s.Turns part o) (agrees : s.Agrees) :
    o.state.collector.config = s.collector.config ∧
      o.state.collector.workers.first =
        s.collector.workers.first.or (Step.registered? ⟨s, part, o⟩) := by
  cases turns with
  | added => exact ⟨rfl, rfl⟩
  | scheduled | lost => exact ⟨rfl, Option.or_none.symm⟩
  | collected pass | unmanned pass | removed pass =>
    exact ⟨pass.carries.config,
      (congrArg Workers.first pass.carries.workers).trans Option.or_none.symm⟩
  | swept room idle wanted pass =>
    exact ⟨pass.carries.config,
      (congrArg Workers.first pass.carries.workers).trans Option.or_none.symm⟩
  | arrived room left barrier =>
    obtain ⟨passes, carries⟩ := barrier.carries (agrees.counted _)
    exact ⟨carries.config, (congrArg Workers.first carries.workers).trans Option.or_none.symm⟩
  | resumed barrier =>
    obtain ⟨passes, carries⟩ := barrier.carries ⟨agrees.collection, agrees.scan⟩
    exact ⟨carries.config, (congrArg Workers.first carries.workers).trans Option.or_none.symm⟩

/-- A collector knows its settings, and the worker that registered first, even if it is
    gone. -/
theorem Journal.first (journal : (create heap config now).state.Journal steps s) :
    s.collector.config = config ∧
      s.collector.workers.first = (steps.filterMap Step.registered?).getLast? := by
  have created : (create heap config now).state.Reached := .created heap config now
  induction journal with
  | start => exact ⟨rfl, rfl⟩
  | @ran steps t outcome before part enabled performed ih =>
    obtain ⟨same, first⟩ := (turns_of_run performed).first (before.reached created).agrees
    refine ⟨same.trans ih.1, ?_⟩
    rw [first, ih.2]
    cases registered : Step.registered? (⟨t, part, outcome⟩ : Step H) with
    | none => rw [List.filterMap_cons_none registered, Option.or_none]
    | some worker =>
      rw [List.filterMap_cons_some registered, List.getLast?_cons]
      cases (steps.filterMap Step.registered?).getLast? <;> rfl
  | mutated before heap ih => exact ih

/-! ### Safepoints -/

omit [Reclaimable H] in
/-- If no rendezvous is requested after the scheduler had its turn, nothing new is pending. -/
theorem pendingAt_of_idle (idle : (s.pendingAt now).rendezvous = false) :
    s.pendingAt now = s.collector.pending := by
  unfold pendingAt at idle ⊢
  split at idle
  · contradiction
  · rw [if_neg ‹_›]

/-- The first worker passes without doing anything, if it is spared. -/
theorem run_arrive_spared (room : s.collector.arrivals + 1 ≤ s.collector.workers.alive)
    (idle : (s.pendingAt now).rendezvous = false)
    (spared : s.collector.config.spareFirstWorker = true ∧
      s.collector.workers.isFirst worker = true) :
    ∃ trace, Trace.consultations trace = [] ∧
      s.run (.arrive worker now) = .ok ⟨.ok (some .passed),
        s.modifyCollector fun c => { c with scheduler := (c.scheduler.advance now).2 }, trace⟩ := by
  obtain ⟨before, silent, counts⟩ := s.countSafepoint_eq_ok now
  obtain ⟨skipped, quiet, skips⟩ : ∃ trace, Trace.consultations trace = [] ∧
      (s.counted now).collectAtSafepoint worker = .ok ⟨(), s.counted now, trace⟩ := by
    unfold collectAtSafepoint
    split
    · exact ⟨[.collector (.spared worker)], rfl, if_pos spared⟩
    · exact ⟨[], rfl, rfl⟩
  have passes : (s.counted now).barrier worker = .ok ⟨.passed,
      s.modifyCollector fun c => { c with scheduler := (c.scheduler.advance now).2 }, []⟩ := by
    have unwanted : ¬(s.counted now).collector.pending.rendezvous = true :=
      Bool.eq_false_iff.1 idle
    rw [barrier, if_neg unwanted, counted, pendingAt_of_idle idle]
    rfl
  refine ⟨before ++ (skipped ++ []), ?_, ?_⟩
  · rw [Trace.consultations_append, Trace.consultations_append, silent, quiet]
    rfl
  · have fits : ¬s.collector.workers.alive < (s.modifyCollector fun c =>
        { c with arrivals := c.arrivals + 1 }).collector.arrivals := Nat.not_lt_of_le room
    rw [CollectedHeap.run, arrive, if_neg fits, counts, Attempt.ok_andThen, skips,
      Attempt.ok_andThen, passes]
    rfl

/-- A call that arrives in vain is not answered. -/
theorem Turns.room {o : Outcome (CollectedHeap H) (Except Misuse (Option Passage))}
    {passage : Passage} (turns : s.Turns (.arrive worker now) o)
    (answered : o.answer = .ok (some passage)) :
    s.collector.arrivals + 1 ≤ s.collector.workers.alive := by
  cases turns with
  | lost => contradiction
  | swept room | arrived room => exact room

/-- What becomes of a pending snapshot at a safepoint.

    Of a new collector, any sections ran and the heap changed in between, and a snapshot is
    pending. Then a call to a rendezvous arrives. If it waits, the snapshot is as it was and
    the heap was not asked; but whatever runs until a call that waits returns, the snapshot
    is consumed by then, and the first thing that is asked is asked to consume it. If the
    call returns, the snapshot was consumed during it, once: by a pass if no rendezvous is
    requested after the scheduler had its turn, and otherwise by the episode, before it
    scans. There is one exception. If no rendezvous is requested and the first worker is
    spared, the worker that registered first passes, be it still registered or not, and
    nothing changes but the scheduler. -/
theorem safepoint_consumes_snapshot
    {outcome : Outcome (CollectedHeap H) (Except Misuse (Option Passage))} {passage : Passage}
    {start : Instant} (journal : (create heap config start).state.Journal steps s)
    (pending : s.collector.snapshot = some snapshot)
    (performed : s.run (.arrive worker now) = .ok outcome)
    (answered : outcome.answer = .ok (some passage)) :
    match passage with
    | .waiting =>
      (s.pendingAt now).rendezvous = true ∧
      outcome.state.collector.snapshot = some snapshot ∧ outcome.state.heap = s.heap ∧
      Trace.consultations outcome.trace = [] ∧
      ∀ (asked : List Consultation) (t : CollectedHeap H) (other : WorkerId)
        (last : Outcome (CollectedHeap H) (Except Misuse (Option Passage))) (returned : Passage),
        outcome.state.Chronicle asked t → t.run (.resume other) = .ok last →
        last.answer = .ok (some returned) → returned ≠ .waiting →
        ∃ u, outcome.state.Chronicle [] u ∧ u.collector.snapshot = some snapshot ∧
          StartsWith snapshot u.heap (asked ++ Trace.consultations last.trace)
    | .passed =>
      (s.pendingAt now).rendezvous = false ∧
      outcome.state.collector.statistics.episodes = s.collector.statistics.episodes ∧
      if config.spareFirstWorker = true ∧
          (steps.filterMap Step.registered?).getLast? = some worker then
        Trace.consultations outcome.trace = [] ∧
        outcome.state = s.modifyCollector fun c =>
          { c with scheduler := (c.scheduler.advance now).2 }
      else
        Tried s.heap (some snapshot) (Trace.consultations outcome.trace) outcome.state.heap ∧
        outcome.state.collector.snapshot = none ∧
        outcome.state.collector.statistics.collections =
          s.collector.statistics.collections + 1
    | .completed =>
      (s.pendingAt now).rendezvous = true ∧
      outcome.state.collector.statistics.episodes = s.collector.statistics.episodes + 1 ∧
      outcome.state.collector.statistics.collections =
        s.collector.statistics.collections + 1 ∧
      ∃ before during questions, outcome.trace = before ++
          .collector (.episode s.collector.workers.alive (s.pendingAt now)) :: during ∧
        Trace.consultations before = [] ∧
        Tried s.heap (some snapshot) questions outcome.state.heap ∧
        Trace.consultations during =
          questions ++ (if (s.pendingAt now).scan then survey outcome.state.heap else []) ∧
        outcome.state.collector.snapshot =
          if (s.pendingAt now).scan then candidates outcome.state.heap else none := by
  have agrees := (journal.reached (.created heap config start)).agrees
  have counted := agrees.counted now
  have here : (s.counted now).collector.snapshot = some snapshot := pending
  obtain ⟨rfl, first⟩ := journal.first
  have turns := turns_of_run performed
  by_cases exception : (s.pendingAt now).rendezvous = false ∧
      s.collector.config.spareFirstWorker = true ∧
        (steps.filterMap Step.registered?).getLast? = some worker
  · obtain ⟨idle, spared⟩ := exception
    have isFirst : s.collector.workers.isFirst worker = true :=
      decide_eq_true (first.trans spared.2)
    obtain ⟨trace, silent, ran⟩ :=
      run_arrive_spared (turns.room answered) idle ⟨spared.1, isFirst⟩
    obtain rfl := Except.ok.inj (performed.symm.trans ran)
    cases answered
    refine ⟨idle, rfl, ?_⟩
    rw [if_pos spared]
    exact ⟨silent, rfl⟩
  · cases turns with
    | lost => contradiction
    | swept room idle wanted pass silent =>
      cases answered
      refine ⟨idle, pass.uneventful.episodes, ?_⟩
      rw [if_neg fun spared => exception ⟨idle, spared⟩, Trace.consultations_append, silent]
      exact pass.takes here
    | @arrived worker now o before room left barrier silent =>
      cases barrier with
      | passes idle came =>
        -- The pass was left to nobody else, as the snapshot is pending.
        have wanted : s.collector.pending.collection = true := by
          rw [agrees.collection, pending]
          rfl
        obtain requested | ⟨spares, isFirst⟩ := left wanted
        · exact absurd (idle.symm.trans requested) Bool.false_ne_true
        · have same : s.collector.workers.first = some worker := of_decide_eq_true isFirst
          exact absurd ⟨idle, spares, first.symm.trans same⟩ exception
      | waits wanted short =>
        cases answered
        refine ⟨wanted, pending, rfl, ?_, fun asked t other last returned chronicle resumes
          answer back => ?_⟩
        · rw [Trace.consultations_append, silent]
          rfl
        · exact chronicle.released ⟨⟨counted.collection, counted.scan⟩, pending, wanted⟩
            resumes answer back
      | completes wanted full ran came =>
        cases answered
        obtain ⟨episodes, collections, during, questions, trace, taken⟩ :=
          runEpisode_takes ran counted here
        exact ⟨wanted, episodes, collections, before, during, questions,
          congrArg (before ++ ·) trace, silent, taken⟩

omit [Reclaimable H] in
theorem eq_ok_of_toOption {α : Type} {x : Except Fault α} {a : α} (here : x.toOption = some a) :
    x = .ok a := by
  cases x with
  | error => contradiction
  | ok b => exact congrArg Except.ok (Option.some.inj here)

/-- The worker that registered first is removed before a snapshot is captured, and is spared
    all the same. And where a rendezvous is requested, another worker waits until the first
    one consumes the snapshot. -/
theorem safepoint_consumes_snapshot_two_runs :
    (∃ (heap : ScriptedHeap) (config : Config) (start now : Instant)
      (steps : List (Step ScriptedHeap)) (s : CollectedHeap ScriptedHeap) (snapshot : Snapshot)
      (worker : WorkerId) (outcome : Outcome (CollectedHeap ScriptedHeap)
        (Except Misuse (Option Passage))),
      (create heap config start).state.Journal steps s ∧
      .removeWorker worker ∈ steps.map Step.part ∧ s.collector.snapshot = some snapshot ∧
      s.run (.arrive worker now) = .ok outcome ∧ outcome.answer = .ok (some .passed) ∧
      outcome.state = s.modifyCollector fun c =>
        { c with scheduler := (c.scheduler.advance now).2 }) ∧
    ∃ (heap : ScriptedHeap) (config : Config) (start now : Instant)
      (steps : List (Step ScriptedHeap)) (s t : CollectedHeap ScriptedHeap) (snapshot : Snapshot)
      (worker : WorkerId) (asked : List Consultation)
      (outcome last : Outcome (CollectedHeap ScriptedHeap) (Except Misuse (Option Passage))),
      (create heap config start).state.Journal steps s ∧
      s.collector.snapshot = some snapshot ∧ s.run (.arrive worker now) = .ok outcome ∧
      outcome.answer = .ok (some .waiting) ∧ outcome.state.Chronicle asked t ∧
      t.run (.resume worker) = .ok last ∧ last.answer = .ok (some .passed) ∧
      ∃ u, outcome.state.Chronicle [] u ∧ u.collector.snapshot = some snapshot ∧
        StartsWith snapshot u.heap (asked ++ Trace.consultations last.trace) := by
  let worker (n : Nat) : WorkerId := ⟨n + 1, Nat.succ_pos n⟩
  let pair : ScriptedHeap := ⟨some [⟨0⟩, ⟨1⟩], [(⟨0⟩, 1), (⟨1⟩, 1)], none⟩
  let config : Config := ⟨1, .zero, true⟩
  let captured : Snapshot := ⟨[(⟨0⟩, 1), (⟨1⟩, 1)], List.cons_ne_nil _ _⟩
  constructor
  · let parts : List Collector.Section :=
      [.addWorker (worker 0), .addWorker (worker 1), .removeWorker (worker 0), .schedule,
        .arrive (worker 1) .zero]
    have view : (((create pair config .zero).state.journal [] parts).bind fun next =>
        (next.2.run (.arrive (worker 0) .zero)).toOption.map fun outcome =>
          (next.1.map Step.part, next.1.filterMap Step.registered?, next.2.collector.snapshot,
            outcome.answer)) =
        some (parts.reverse, [worker 1, worker 0], some captured, .ok (some .passed)) := by cbv
    obtain ⟨⟨steps, s⟩, kept, ran⟩ := Option.bind_eq_some_iff.1 view
    obtain ⟨outcome, performed, eq⟩ := Option.map_eq_some_iff.1 ran
    obtain ⟨ranParts, registered, pending, answered⟩ : _ ∧ _ ∧ _ ∧ _ := by
      simpa only [Prod.mk.injEq] using eq
    have performed := eq_ok_of_toOption performed
    have journal : (create pair config .zero).state.Journal steps s := Journal.start.keep kept
    obtain ⟨-, -, spared⟩ := safepoint_consumes_snapshot journal pending performed answered
    rw [registered, if_pos ⟨rfl, rfl⟩] at spared
    exact ⟨_, _, _, _, steps, s, captured, worker 0, outcome, journal, by rw [ranParts]; decide,
      pending, performed, answered, spared.2⟩
  · let parts : List Collector.Section :=
      [.addWorker (worker 0), .schedule, .arrive (worker 0) .zero, .addWorker (worker 1), .schedule]
    have view : (((create pair config .zero).state.journal [] parts).bind fun next =>
        (next.2.run (.arrive (worker 1) .zero)).toOption.bind fun outcome =>
          (outcome.state.attend [] [.arrive (worker 0) .zero]).bind fun later =>
            (later.2.run (.resume (worker 1))).toOption.map fun last =>
              (next.2.collector.snapshot, outcome.answer, last.answer)) =
        some (some captured, .ok (some .waiting), .ok (some .passed)) := by cbv
    obtain ⟨⟨steps, s⟩, kept, arrives⟩ := Option.bind_eq_some_iff.1 view
    obtain ⟨outcome, performed, follows⟩ := Option.bind_eq_some_iff.1 arrives
    obtain ⟨⟨asked, t⟩, attended, resumes⟩ := Option.bind_eq_some_iff.1 follows
    obtain ⟨last, resumed, eq⟩ := Option.map_eq_some_iff.1 resumes
    obtain ⟨pending, answered, back⟩ : _ ∧ _ ∧ _ := by simpa only [Prod.mk.injEq] using eq
    have performed := eq_ok_of_toOption performed
    have resumed := eq_ok_of_toOption resumed
    have journal : (create pair config .zero).state.Journal steps s := Journal.start.keep kept
    have chronicle : outcome.state.Chronicle asked t := Chronicle.start.attend attended
    obtain ⟨-, -, -, -, released⟩ :=
      safepoint_consumes_snapshot journal pending performed answered
    exact ⟨_, _, _, _, steps, s, t, captured, worker 1, asked, outcome, last, journal, pending,
      performed, answered, chronicle, resumed, back,
      released asked t (worker 1) last .passed chronicle resumed back (by decide)⟩

end RefCycle.CollectedHeap
