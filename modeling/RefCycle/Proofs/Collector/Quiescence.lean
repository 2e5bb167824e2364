import Mathlib
import RefCycle.Collector.Journal
import RefCycle.ScriptedHeap
import RefCycle.Proofs.Collector.Step
import RefCycle.Proofs.Scheduler.Gating
/-!
# A collector that nobody asks is quiet

Rendezvous are requested by workers and by the scheduler, and each request is good for
one episode at most. While there is no request, nothing that a collector does can be
noticed: it neither stops anyone nor talks to its heap. Safepoints still count, and only
the scheduler remembers them; so it can be said from the number of safepoints alone, or
from what the clock read, that the scheduler requests nothing either.

## Main definitions

* `Gate.demand` — the episodes that took place, and the one that is requested.
* `CollectedHeap.Undisturbed` — a collector has nothing to do and has not done anything.
* `Step.Calm` — a section went by unnoticed.

## Main statements

* `Scheduler.of_due` — what it takes for a scan to be due.
* `demand_run` — a section raises the demand only by asking.
* `Turns.calm` — without a request, a section goes by unnoticed.
* `Journal.undisturbed` — and so does a run, with the scheduler counting its safepoints.
* `quiet_unless_asked` — all of this over any run of a new collector.
-/

namespace RefCycle

namespace Scheduler

variable {scheduler : Scheduler} {now : Instant}

/-- A scan is due only if both the threshold and the interval were exceeded. -/
theorem of_due (due : (scheduler.advance now).1 = .due) :
    scheduler.threshold < scheduler.tick + 1 - scheduler.lastTick ∧
      scheduler.lastScan.toNanos + scheduler.interval.toNanos < now.toNanos := by
  obtain ⟨many, late⟩ := advance_eq_due_iff.1 due
  exact ⟨many, by omega⟩

/-- Unless a scan is due, a safepoint is counted and nothing else. -/
theorem advance_of_ne_due (early : (scheduler.advance now).1 ≠ .due) :
    (scheduler.advance now).2 = { scheduler with tick := scheduler.tick + 1 } := by
  rw [advance_snd, if_neg early]

end Scheduler

namespace Gate

/-! ### What was asked for -/

/-- The episodes that took place, and the one that is requested. -/
def demand (g : Gate) : Nat :=
  g.episodes + g.requested.toNat

/-- An episode takes place at the expense of its request. -/
theorem demand_pass (worker : WorkerId) (g : Gate) : (g.pass worker).2.demand = g.demand := by
  rw [pass]
  split
  · rename_i wanted
    split
    · rfl
    · simp only [demand, wanted]
      rfl
  · rfl

theorem demand_arrive (worker : WorkerId) (due : Bool) (g : Gate) :
    (g.arrive worker due).2.demand ≤
      g.demand + if g.arrivals + 1 ≤ g.alive ∧ due = true then 1 else 0 := by
  rw [arrive]
  split
  · exact Nat.le_add_right _ _
  · rename_i room
    dsimp only
    rw [demand_pass]
    cases due with
    | true =>
      have raised := Bool.toNat_le (g.requested || true)
      rw [if_pos ⟨Nat.le_of_not_lt room, rfl⟩]
      simp only [demand]
      omega
    | false =>
      simp only [demand, Bool.or_false]
      omega

end Gate

namespace CollectedHeap

variable {H : Type} [Reclaimable H] {s t : CollectedHeap H} {heap : H} {config : Config}
  {worker : WorkerId} {now : Instant} {part : Collector.Section} {steps : List (Step H)}
  {o : Outcome (CollectedHeap H) (Except Misuse (Option Passage))}

theorem AtBarrier.demand {o : Outcome (CollectedHeap H) Passage}
    (barrier : s.AtBarrier worker o) : o.state.gate.demand = s.gate.demand := by
  cases barrier with
  | passes | waits => rfl
  | @completes arrivals episode wanted full ran came =>
    have episodes : episode.state.collector.statistics.episodes =
        s.collector.statistics.episodes + 1 :=
      congrArg Gate.episodes ((runEpisode_gate s).of_ok ran)
    simp only [Gate.demand, gate, modifyCollector, wanted, episodes]
    rfl

omit [Reclaimable H] in
theorem verdict?_eq_due_iff {worker : WorkerId} :
    s.verdict? (.arrive worker now) = some .due ↔
      s.collector.arrivals + 1 ≤ s.collector.workers.alive ∧ s.scanDue now = true := by
  rw [verdict?, scanDue, decide_eq_true_eq]
  split
  · rename_i room
    simp [room]
  · rename_i excess
    simp [excess]

/-- A section raises the demand by one if it schedules a rendezvous or finds a scan due. -/
theorem demand_run (performed : s.run part = .ok o) :
    o.state.gate.demand ≤ s.gate.demand +
      ((if part = .schedule then 1 else 0) +
        if s.verdict? part = some .due then 1 else 0) := by
  cases part with
  | addWorker worker =>
    cases performed
    exact Nat.le_add_right _ _
  | schedule =>
    cases performed
    have requested : Gate.demand { s.gate with requested := true } ≤ s.gate.demand + 1 :=
      Nat.add_le_add_right (Nat.le_add_right _ _) 1
    rw [← schedule_gate] at requested
    exact requested
  | collect =>
    rw [run] at performed
    obtain ⟨pass, collects, rfl⟩ := Attempt.map_eq_ok_iff.1 performed
    have same : pass.state.gate = s.gate := (collect_gate s).of_ok collects
    exact same ▸ Nat.le_add_right _ _
  | removeWorker worker =>
    obtain ⟨taken, deregisters, rfl⟩ := Attempt.map_eq_ok_iff.1 performed
    have gate : taken.state.gate = (s.gate.deregister worker).2 :=
      congrArg Prod.snd ((deregister_gate s worker).of_ok deregisters)
    rw [Gate.deregister_snd] at gate
    exact gate ▸ Nat.le_add_right _ _
  | resume worker =>
    rw [run] at performed
    obtain ⟨reached, resumes, rfl⟩ := Attempt.map_eq_ok_iff.1 performed
    exact (atBarrier_of_barrier resumes).demand ▸ Nat.le_add_right _ _
  | arrive worker now =>
    obtain ⟨came, arrives, rfl⟩ := Attempt.map_eq_ok_iff.1 performed
    have gate : came.state.gate = (s.gate.arrive worker (s.scanDue now)).2 :=
      congrArg Prod.snd ((arrive_gate s worker now).of_ok arrives)
    have bound := s.gate.demand_arrive worker (s.scanDue now)
    rw [← gate] at bound
    simp only [verdict?_eq_due_iff, reduceCtorEq, if_false, Nat.zero_add]
    exact bound

/-- Over a run, the demand rises by what is asked for at most. -/
theorem Journal.demand (journal : s.Journal steps t) :
    t.gate.demand ≤
      s.gate.demand + (steps.countP Step.schedules + steps.countP Step.findsDue) := by
  induction journal with
  | start => exact Nat.le_add_right _ _
  | ran before part enabled performed ih =>
    have step := demand_run performed
    simp only [List.countP_cons, Step.schedules, Step.findsDue, decide_eq_true_eq]
    omega
  | mutated before heap ih => exact ih

/-! ### Without a request -/

/-- A collector has nothing to do, nobody waits in it, and it has not done anything. -/
structure Undisturbed (s : CollectedHeap H) : Prop where
  pending : s.collector.pending = .empty
  snapshot : s.collector.snapshot = none
  parked : s.collector.parked = []
  statistics : s.collector.statistics = .zero

/-- A section went by unnoticed: it asked the heap nothing and left it alone, and its
    call does not wait. -/
structure Step.Calm (step : Step H) : Prop where
  unasked : Trace.consultations step.outcome.trace = []
  heap : step.outcome.state.heap = step.before.heap
  returned : step.outcome.answer ≠ .ok (some .waiting)

/-- The scheduler after a section. -/
def schedulerAfter (s : CollectedHeap H) : Collector.Section → Scheduler
  | .arrive _ now =>
    if s.collector.arrivals + 1 ≤ s.collector.workers.alive then
      (s.collector.scheduler.advance now).2
    else s.collector.scheduler
  | .addWorker _ | .removeWorker _ | .schedule | .collect | .resume _ => s.collector.scheduler

theorem Pass.eq_of_none {o : Outcome (CollectedHeap H) Nat} (pass : s.Pass o)
    (empty : s.collector.snapshot = none) : o = ⟨0, s, []⟩ := by
  cases pass with
  | nothing => rfl
  | consumed pending =>
    rw [empty] at pending
    contradiction

omit [Reclaimable H] in
theorem pendingAt_of_not_due (early : s.scanDue now = false) :
    s.pendingAt now = s.collector.pending := by
  rw [pendingAt, early]
  rfl

/-- If nothing is requested, neither before a section nor by it, the section goes by
    unnoticed. -/
theorem Turns.calm (turns : s.Turns part o) (enabled : s.Enabled part)
    (undisturbed : s.Undisturbed) (unscheduled : part ≠ .schedule)
    (early : s.verdict? part ≠ some .due) :
    o.state.Undisturbed ∧ (⟨s, part, o⟩ : Step H).Calm ∧
      o.state.collector.scheduler = s.schedulerAfter part := by
  obtain ⟨pending, snapshot, parked, statistics⟩ := undisturbed
  cases turns with
  | scheduled => contradiction
  | @added worker =>
    refine ⟨⟨pending, snapshot, parked, statistics⟩, ⟨?_, rfl, nofun⟩, rfl⟩
    show Trace.consultations (_ ++ _) = []
    rw [Trace.consultations_append]
    split <;> rfl
  | collected pass | unmanned pass | removed pass =>
    -- There is nothing to pass over.
    obtain rfl := pass.eq_of_none snapshot
    exact ⟨⟨pending, snapshot, parked, statistics⟩, ⟨rfl, rfl, nofun⟩, rfl⟩
  | lost excess =>
    refine ⟨⟨pending, snapshot, parked, statistics⟩, ⟨rfl, rfl, nofun⟩, ?_⟩
    exact (if_neg (Nat.not_le_of_lt excess)).symm
  | swept room idle wanted =>
    rw [pending] at wanted
    contradiction
  | @arrived worker now o before room left barrier silent =>
    have notDue : s.scanDue now = false := by
      cases due : s.scanDue now with
      | false => rfl
      | true => exact absurd (verdict?_eq_due_iff.2 ⟨room, due⟩) early
    have nothing : (s.counted now).collector.pending = .empty :=
      (pendingAt_of_not_due notDue).trans pending
    cases barrier with
    | passes =>
      refine ⟨⟨nothing, snapshot, parked, statistics⟩, ⟨?_, rfl, nofun⟩, (if_pos room).symm⟩
      rw [Trace.consultations_append, silent]
      rfl
    | waits wanted | completes wanted =>
      rw [nothing] at wanted
      contradiction
  | @resumed worker =>
    have waits := enabled worker rfl
    rw [parked] at waits
    contradiction

/-- As long as nothing is requested, nothing is noticed of a new collector, and its
    scheduler counts safepoints. -/
theorem Journal.undisturbed (journal : (create heap config now).state.Journal steps t)
    (unscheduled : steps.countP Step.schedules = 0)
    (early : steps.countP Step.findsDue = 0) :
    t.Undisturbed ∧ (∀ step ∈ steps, step.Calm) ∧
      t.collector.scheduler = { Scheduler.create config now with
        tick := UInt32.ofNat (steps.countP Step.countsSafepoint) } := by
  induction journal with
  | start => exact ⟨⟨rfl, rfl, rfl, rfl⟩, by simp, rfl⟩
  | mutated before heap ih =>
    obtain ⟨⟨pending, snapshot, parked, statistics⟩, rest⟩ := ih unscheduled early
    exact ⟨⟨pending, snapshot, parked, statistics⟩, rest⟩
  | @ran steps t outcome before part enabled performed ih =>
    rw [List.countP_cons, Nat.add_eq_zero_iff] at unscheduled early
    obtain ⟨undisturbed, calm, scheduler⟩ := ih unscheduled.1 early.1
    have other : part ≠ .schedule := by simpa [Step.schedules] using unscheduled.2
    have notDue : t.verdict? part ≠ some .due := by simpa [Step.findsDue] using early.2
    obtain ⟨undisturbed', calm', scheduler'⟩ :=
      (turns_of_run performed).calm enabled undisturbed other notDue
    refine ⟨undisturbed', List.forall_mem_cons.2 ⟨calm', calm⟩, scheduler'.trans ?_⟩
    rw [List.countP_cons]
    cases part with
    | addWorker | removeWorker | schedule | collect | resume => exact scheduler
    | arrive worker reading =>
      simp only [schedulerAfter, Step.countsSafepoint, verdict?] at notDue ⊢
      split at notDue
      · rename_i room
        rw [if_pos room, Scheduler.advance_of_ne_due fun due => notDue (congrArg some due),
          scheduler]
        simp [room]
      · rename_i excess
        rw [if_neg excess, scheduler]
        simp [excess]

omit [Reclaimable H] in
/-- A verdict was reached at a safepoint that was counted, and if it was that a scan is
    due, the clock was read for it. -/
theorem Step.of_findsDue {step : Step H} (due : step.findsDue = true) :
    step.countsSafepoint = true ∧
      ∃ reading ∈ step.reading?, (step.before.collector.scheduler.advance reading).1 = .due := by
  obtain ⟨s, part, o⟩ := step
  have verdict : s.verdict? part = some .due := by simpa [findsDue] using due
  refine ⟨congrArg Option.isSome verdict, ?_⟩
  cases part with
  | addWorker | removeWorker | schedule | collect | resume => cases verdict
  | arrive worker now =>
    obtain ⟨-, scanDue⟩ := verdict?_eq_due_iff.1 verdict
    refine ⟨now, ?_, of_decide_eq_true scanDue⟩
    simp [reading?, verdict, Scheduler.Verdict.readsClock]

/-- If few safepoints were counted, or the clock never read late, no scan was due. -/
theorem Journal.never_due (journal : (create heap config now).state.Journal steps t)
    (unscheduled : steps.countP Step.schedules = 0)
    (seldom : steps.countP Step.countsSafepoint ≤ config.tickThreshold.toNat ∨
      ∀ step ∈ steps, ∀ reading ∈ step.reading?,
        reading.toNanos ≤ now.toNanos + config.scanInterval.toNanos) :
    steps.countP Step.findsDue = 0 := by
  induction journal with
  | start => rfl
  | mutated before heap ih => exact ih unscheduled seldom
  | @ran steps t outcome before part enabled performed ih =>
    rw [List.countP_cons, Nat.add_eq_zero_iff] at unscheduled
    rw [List.countP_cons] at seldom ⊢
    have earlier : steps.countP Step.findsDue = 0 := by
      refine ih unscheduled.1 (seldom.imp (fun few => by omega) fun soon step mem => ?_)
      exact soon step (List.mem_cons_of_mem _ mem)
    obtain ⟨-, -, scheduler⟩ := before.undisturbed unscheduled.1 earlier
    rw [earlier, Nat.zero_add, ite_eq_right_iff]
    intro due
    -- The scheduler still measures from the start.
    obtain ⟨counted, reading, read, due⟩ := Step.of_findsDue due
    dsimp only at due
    rw [scheduler] at due
    obtain ⟨many, late⟩ := Scheduler.of_due due
    rcases seldom with few | soon
    · -- The counter may wrap around, but that does not make it larger.
      have ticks : (UInt32.ofNat (steps.countP Step.countsSafepoint) + 1 - 0).toNat ≤
          steps.countP Step.countsSafepoint + 1 := by
        rw [UInt32.sub_zero, ← UInt32.ofNat_one, ← UInt32.ofNat_add, UInt32.toNat_ofNat']
        exact Nat.mod_le _ _
      have more := UInt32.lt_iff_toNat_lt.1 many
      rw [if_pos counted] at few
      exact absurd (Nat.le_trans ticks few) (Nat.not_le_of_lt more)
    · have early := soon _ List.mem_cons_self reading read
      exact absurd late (Int.not_lt.2 early)

/-- A collector that nobody asks is quiet.

    Of a new collector, any sections ran and the heap changed in between. The episodes
    and the request that may stand are no more than the calls that scheduled a rendezvous
    and the safepoints at which a scan was due. If there were neither, nothing is pending
    or counted and nobody waits, and no section asked the heap anything or changed it, or
    left its call waiting. And if nobody scheduled, there was no such safepoint if no more
    safepoints were counted than the threshold says, or if the clock, as far as it was
    read, never read later than the interval after the collector was created. -/
theorem quiet_unless_asked (journal : (create heap config now).state.Journal steps s) :
    (s.collector.statistics.episodes + (if s.collector.pending.rendezvous then 1 else 0) ≤
      steps.countP Step.schedules + steps.countP Step.findsDue) ∧
    (steps.countP Step.schedules = 0 → steps.countP Step.findsDue = 0 →
      s.collector.pending = .empty ∧ s.collector.statistics = .zero ∧
      s.collector.parked = [] ∧ ∀ step ∈ steps,
        step.outcome.answer ≠ .ok (some .waiting) ∧
        Trace.consultations step.outcome.trace = [] ∧
        step.outcome.state.heap = step.before.heap) ∧
    (steps.countP Step.schedules = 0 →
      (steps.countP Step.countsSafepoint ≤ config.tickThreshold.toNat ∨
        ∀ step ∈ steps, ∀ reading ∈ step.reading?,
          reading.toNanos ≤ now.toNanos + config.scanInterval.toNanos) →
      steps.countP Step.findsDue = 0) := by
  refine ⟨?_, fun unscheduled early => ?_, fun unscheduled seldom => ?_⟩
  · have bound := journal.demand
    have start : (create heap config now).state.gate.demand = 0 := rfl
    rw [start, Nat.zero_add, Gate.demand, Bool.toNat, Bool.cond_eq_ite] at bound
    exact bound
  · obtain ⟨undisturbed, calm, -⟩ := journal.undisturbed unscheduled early
    refine ⟨undisturbed.pending, undisturbed.statistics, undisturbed.parked, fun step mem => ?_⟩
    exact ⟨(calm step mem).returned, (calm step mem).unasked, (calm step mem).heap⟩
  · exact journal.never_due unscheduled seldom

/-- One rendezvous was scheduled and took place, another one was due and somebody waits
    for it: that is all that was asked for. And where an arrival was lost and more
    safepoints were counted than the threshold says, but the clock read too early, a
    collector was never disturbed. -/
theorem quiet_unless_asked_two_runs :
    (∃ (heap : ScriptedHeap) (config : Config) (now : Instant) (steps : List (Step ScriptedHeap))
      (s : CollectedHeap ScriptedHeap), (create heap config now).state.Journal steps s ∧
      steps.countP Step.schedules = 1 ∧ steps.countP Step.findsDue = 1 ∧
      s.collector.pending.rendezvous = true ∧ s.collector.parked ≠ [] ∧
      s.collector.statistics.episodes ≤ 1) ∧
    ∃ (heap : ScriptedHeap) (config : Config) (now : Instant) (steps : List (Step ScriptedHeap))
      (s : CollectedHeap ScriptedHeap), (create heap config now).state.Journal steps s ∧
      config.tickThreshold.toNat < steps.countP Step.countsSafepoint ∧
      s.collector.arrivals = 1 ∧ s.collector.pending = .empty ∧
      s.collector.statistics = .zero := by
  let worker (n : Nat) : WorkerId := ⟨n + 1, Nat.succ_pos n⟩
  let late : Instant := ⟨1, 0, by decide, by decide, by decide⟩
  let once : List Collector.Section :=
    [.addWorker (worker 0), .schedule, .arrive (worker 0) .zero, .addWorker (worker 1),
      .arrive (worker 0) late]
  let often : List Collector.Section :=
    [.arrive (worker 0) .zero, .addWorker (worker 0), .addWorker (worker 1),
      .arrive (worker 1) late, .arrive (worker 1) late, .arrive (worker 0) .zero]
  constructor
  · let config : Config := ⟨1, .ofMicros 10000, false⟩
    have view : ((create ScriptedHeap.empty config .zero).state.journal [] once).map (fun next =>
        (next.1.countP Step.schedules, next.1.countP Step.findsDue,
          next.2.collector.pending.rendezvous, next.2.collector.parked)) =
        some (1, 1, true, [worker 0]) := by cbv
    obtain ⟨⟨steps, s⟩, kept, eq⟩ := Option.map_eq_some_iff.1 view
    obtain ⟨scheduled, due, requested, waits⟩ : _ ∧ _ ∧ _ ∧ _ := by
      simpa only [Prod.mk.injEq] using eq
    have journal : (create ScriptedHeap.empty config .zero).state.Journal steps s :=
      Journal.start.keep kept
    obtain ⟨bound, -⟩ := quiet_unless_asked journal
    rw [scheduled, due, requested, if_pos rfl] at bound
    exact ⟨_, _, _, steps, s, journal, scheduled, due, requested,
      waits ▸ List.cons_ne_nil _ _, by omega⟩
  · let config : Config := ⟨2, .ofMicros 10000, false⟩
    have view : ((create ScriptedHeap.empty config .zero).state.journal [] often).map (fun next =>
        (next.1.countP Step.schedules, next.1.countP Step.countsSafepoint,
          next.1.filterMap Step.reading?, next.2.collector.arrivals)) =
        some (0, 3, [.zero], 1) := by cbv
    obtain ⟨⟨steps, s⟩, kept, eq⟩ := Option.map_eq_some_iff.1 view
    obtain ⟨unscheduled, counted, readings, lost⟩ : _ ∧ _ ∧ _ ∧ _ := by
      simpa only [Prod.mk.injEq] using eq
    have journal : (create ScriptedHeap.empty config .zero).state.Journal steps s :=
      Journal.start.keep kept
    obtain ⟨-, quiet, never⟩ := quiet_unless_asked journal
    have early : steps.countP Step.findsDue = 0 := by
      refine never unscheduled (.inr fun step mem reading read => ?_)
      have all : reading ∈ steps.filterMap Step.reading? := List.mem_filterMap.2 ⟨step, mem, read⟩
      rw [readings, List.mem_singleton] at all
      subst all
      decide
    obtain ⟨nothing, zero, -⟩ := quiet unscheduled early
    exact ⟨_, _, _, steps, s, journal, by rw [counted]; decide, lost, nothing, zero⟩

end CollectedHeap

end RefCycle
