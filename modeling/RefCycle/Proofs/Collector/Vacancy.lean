import Mathlib
import RefCycle.Installation.History
import RefCycle.ScriptedHeap
import RefCycle.Proofs.Collector.Floor
import RefCycle.Proofs.Collector.Settled
import RefCycle.Proofs.Collector.Step
/-!
# Nothing is pending without workers

Scans take place only while workers are stopped, and a worker takes the pending snapshot
with it when it goes. So the last worker leaves neither a snapshot nor a call that waits;
to remove one more worker has nothing to pass over, and the collector may go too.

A departure can complete a rendezvous for those that are left, and then there is a new
snapshot; but whoever waits is still registered, and takes it in turn.

## Main definitions

* `CollectedHeap.Vacated` — without workers, no snapshot is pending.

## Main statements

* `Turns.vacated` — sections keep this up, if only workers come back to the barrier.
* `History.vacated` — and so do requests, whoever makes them.
* `nothing_left_behind` — what this means for removals and for the end of a collector.

## Design notes

A request ends only when the calls that it woke have come to the barrier. At the level
of the lock somebody else may come first; and if a worker is removed then, although its
own call has not returned, that call finds an empty register and scans all the same. The
rules that workers keep to exclude this, and requests cannot get in between.
-/

namespace RefCycle

namespace Gate

variable {g : Gate}

/-! ### Who is alive -/

theorem alive_pass (worker : WorkerId) (g : Gate) : (g.pass worker).2.alive = g.alive := by
  rw [pass]
  split
  · split <;> rfl
  · rfl

theorem alive_wake (workers : List WorkerId) (g : Gate) : (g.wake workers).2.alive = g.alive := by
  induction workers generalizing g with
  | nil => rfl
  | cons worker workers ih => exact (ih _).trans (alive_pass worker _)

theorem alive_arrive (worker : WorkerId) (due : Bool) (g : Gate) :
    (g.arrive worker due).2.alive = g.alive := by
  rw [arrive]
  split
  · rfl
  · exact alive_pass worker _

/-- Nobody is registered or removed at a rendezvous. -/
theorem alive_meet (worker : WorkerId) (due : Bool) (g : Gate) :
    (g.meet worker due).2.alive = g.alive := by
  have same := alive_arrive worker due g
  rw [meet]
  split
  · rename_i came
    rwa [came] at same
  · rename_i next came
    rw [came] at same
    exact (alive_wake next.parked next).trans same
  · rename_i came
    rwa [came] at same

theorem alive_remove (worker : WorkerId) (g : Gate) :
    (g.remove worker).2.alive = g.alive - 1 := by
  have fewer : (g.deregister worker).2.alive = g.alive - 1 := by
    rw [deregister_snd]
  rw [remove]
  split
  · rename_i taken
    rwa [taken] at fewer
  · rename_i next taken
    rw [taken] at fewer
    exact (alive_wake next.parked next).trans fewer

/-- Where a call waits, there are two workers at least: its own and one that is missing. -/
theorem Settled.two_alive {lost : Nat} (settled : g.Settled lost) (waits : g.parked ≠ []) :
    2 ≤ g.alive := by
  have count := settled.arrivals
  have short := (settled.waiting waits).2
  have parked := List.length_pos_of_ne_nil waits
  omega

end Gate

namespace CollectedHeap

variable {H : Type} [Reclaimable H] {s : CollectedHeap H} {worker : WorkerId}
  {part : Collector.Section}

/-! ### Sections -/

/-- Without registered workers, no snapshot is pending. -/
def Vacated (s : CollectedHeap H) : Prop :=
  s.collector.workers.alive = 0 → s.collector.snapshot = none

omit [Reclaimable H] in
theorem vacated_of_manned (manned : 0 < s.collector.workers.alive) : s.Vacated := by
  intro nobody
  omega

theorem AtBarrier.alive {o : Outcome (CollectedHeap H) Passage} (barrier : s.AtBarrier worker o) :
    o.state.collector.workers.alive = s.collector.workers.alive := by
  cases barrier with
  | passes | waits => rfl
  | completes wanted full ran came =>
    exact congrArg Gate.alive ((runEpisode_gate s).of_ok ran)

/-- A section leaves no snapshot without workers, unless a call comes back to the barrier
    after its worker was removed. -/
theorem Turns.vacated {o : Outcome (CollectedHeap H) (Except Misuse (Option Passage))}
    (turns : s.Turns part o)
    (manned : ∀ worker, part = .resume worker → 0 < s.collector.workers.alive)
    (vacated : s.Vacated) : o.state.Vacated := by
  cases turns with
  | added => exact vacated_of_manned (Nat.succ_pos _)
  | scheduled | lost => exact vacated
  | collected pass | unmanned pass | removed pass => exact fun _ => pass.swept.snapshot
  | swept room idle wanted pass => exact fun _ => pass.swept.snapshot
  | arrived room left barrier =>
    have registered : 0 < s.collector.workers.alive := Nat.lt_of_lt_of_le (Nat.succ_pos _) room
    exact vacated_of_manned (barrier.alive ▸ registered)
  | resumed barrier => exact vacated_of_manned (barrier.alive ▸ manned _ rfl)

/-! ### Requests -/

/-- If nobody waits, to remove a worker leaves no snapshot. -/
theorem removeWorker_snapshot {o : Outcome (CollectedHeap H) (Except Misuse (List WorkerId))}
    (nobody : s.collector.parked = []) (run : s.removeWorker worker = .ok o) :
    o.state.collector.snapshot = none := by
  obtain ⟨taken, rest, deregisters, follows, rfl⟩ := Attempt.andThen_eq_ok_iff.1 run
  obtain ⟨pass, left, collects, leaves, rfl⟩ := Attempt.andThen_eq_ok_iff.1 deregisters
  have swept := (pass_of_collect collects).swept
  have emptied : left.state.collector.snapshot = none ∧ left.state.collector.parked = [] := by
    split at leaves
    · cases leaves
      exact ⟨swept.snapshot, swept.parked.trans nobody⟩
    · cases leaves
      exact ⟨swept.snapshot, swept.parked.trans nobody⟩
  dsimp only at follows
  rw [emptied.2] at follows
  split at follows
  · cases follows
    exact emptied.1
  · cases follows
    exact emptied.1

/-- Without workers, a call to a rendezvous is misuse, and only leaves its arrival. -/
theorem rendezvous_unmanned (nobody : s.collector.workers.alive = 0) (worker : WorkerId)
    (now : Instant) :
    s.rendezvous worker now = .ok ⟨.error (.unregisteredArrival worker),
      s.modifyCollector fun c => { c with arrivals := c.arrivals + 1 }, []⟩ := by
  have excess : s.collector.workers.alive < s.collector.arrivals + 1 := by omega
  have arrives : s.arrive worker now = .done (.error (.unregisteredArrival worker))
      (s.modifyCollector fun c => { c with arrivals := c.arrivals + 1 }) := if_pos excess
  rw [rendezvous, arrives, Attempt.done_andThen]
  rfl

/-- Without workers and without a snapshot, to remove a worker is misuse and nothing else. -/
theorem removeWorker_unmanned (nobody : s.collector.workers.alive = 0)
    (empty : s.collector.snapshot = none) (worker : WorkerId) :
    s.perform (.removeWorker worker) = .ok ⟨.error (.noWorkerToRemove worker), s, []⟩ := by
  have deregisters : s.deregister worker = .done (.error (.noWorkerToRemove worker)) s := by
    simp only [deregister, collect, empty, Attempt.done_andThen, nobody]
  simp only [perform, removeWorker, deregisters, Attempt.done_andThen]
  rfl

theorem perform_vacated {lost : Nat} (settled : s.gate.Settled lost) (vacated : s.Vacated)
    {request : Collector.Request}
    {o : Outcome (CollectedHeap H) (Except Misuse Collector.Response)}
    (performed : s.perform request = .ok o) : o.state.Vacated := by
  have fits : s.gate.parked.length ≤ s.gate.arrivals := settled.arrivals ▸ Nat.le_add_right ..
  cases request with
  | addWorker worker =>
    cases performed
    exact vacated_of_manned (Nat.succ_pos _)
  | schedule =>
    cases performed
    exact vacated
  | collect =>
    rw [perform] at performed
    obtain ⟨pass, collects, rfl⟩ := Attempt.map_eq_ok_iff.1 performed
    exact fun _ => (pass_of_collect collects).swept.snapshot
  | removeWorker worker =>
    obtain ⟨o, run, rfl⟩ := Attempt.map_eq_ok_iff.1 performed
    by_cases nobody : s.gate.parked = []
    · exact fun _ => removeWorker_snapshot nobody run
    · have two := settled.two_alive nobody
      have gate : o.state.gate = (s.gate.remove worker).2 :=
        congrArg Prod.snd ((removeWorker_gate worker fits).of_ok run)
      have fewer : o.state.gate.alive = s.gate.alive - 1 := by rw [gate, Gate.alive_remove]
      exact vacated_of_manned (show 0 < o.state.gate.alive by omega)
  | rendezvous worker now =>
    obtain ⟨o, run, rfl⟩ := Attempt.map_eq_ok_iff.1 performed
    rcases Nat.eq_zero_or_pos s.collector.workers.alive with nobody | manned
    · rw [rendezvous_unmanned nobody] at run
      cases run
      exact vacated
    · have gate : o.state.gate = (s.gate.meet worker (s.scanDue now)).2 :=
        congrArg Prod.snd ((rendezvous_gate worker now fits).of_ok run)
      have same : o.state.gate.alive = s.gate.alive := by rw [gate, Gate.alive_meet]
      exact vacated_of_manned (show 0 < o.state.gate.alive from same ▸ manned)

/-- After any requests, also such as were misuse, no snapshot is left without workers. -/
theorem History.vacated {entries : List (Entry H)} (history : History entries s) : s.Vacated := by
  induction history with
  | created => exact fun _ => rfl
  | request history request performed ih => exact perform_vacated history.settled ih performed
  | mutated history heap ih => exact ih

theorem History.parked_eq_nil {entries : List (Entry H)} (history : History entries s)
    (nobody : s.collector.workers.alive = 0) : s.collector.parked = [] := by
  by_contra waits
  have two : 2 ≤ s.collector.workers.alive := history.settled.two_alive waits
  omega

end CollectedHeap

namespace Floor

variable {H : Type} [Reclaimable H] {floor : Floor H}

theorem Interleaving.manned (history : Interleaving floor)
    (waits : floor.state.collector.parked ≠ []) : 0 < floor.state.collector.workers.alive := by
  obtain ⟨worker, mem⟩ := List.exists_mem_of_ne_nil _ waits
  have alive : floor.state.collector.workers.alive = floor.register.length := history.orderly.alive
  rw [alive]
  exact List.length_pos_of_mem (history.orderly.registered worker mem)

/-- In any interleaving, no snapshot is left without workers. -/
theorem Interleaving.vacated (history : Interleaving floor) : floor.state.Vacated := by
  induction history with
  | created => exact fun _ => rfl
  | ran history part allowed performed ih =>
    refine (CollectedHeap.turns_of_run performed).vacated (fun worker resumes => ?_) ih
    subst resumes
    exact history.manned (List.ne_nil_of_mem allowed)
  | mutated history heap ih => exact ih

end Floor

/-- What is left behind by the workers.

    After any requests, also such as were misuse, without workers no snapshot is pending
    and nobody waits; so to remove a worker then is misuse and changes nothing, and
    neither asks the heap nor reports anything. To uninstall a collector, if it is not
    misuse, discards no snapshot and strands no call. And if workers keep to the rules,
    nothing is left at the level of the lock either, in whatever order woken calls run. -/
theorem nothing_left_behind (H : Type) [Reclaimable H] :
    (∀ (entries : List (CollectedHeap.Entry H)) (s : CollectedHeap H),
      CollectedHeap.History entries s → s.collector.workers.alive = 0 →
        s.collector.snapshot = none ∧ s.collector.parked = [] ∧
        ∀ worker, s.perform (.removeWorker worker) =
          .ok ⟨.error (.noWorkerToRemove worker), s, []⟩) ∧
    (∀ s : Installation H, s.Reached → s.uninstall.answer = .ok () →
      ∃ collector, s.collector = some collector ∧ collector.workers.alive = 0 ∧
        collector.snapshot = none ∧ collector.parked = [] ∧
        s.uninstall.state = { s with collector := none }) ∧
    ∀ floor : Floor H, floor.Interleaving → floor.state.collector.workers.alive = 0 →
      floor.state.collector.snapshot = none ∧ floor.state.collector.parked = [] := by
  refine ⟨fun entries s history nobody => ?_, fun s reached uninstalls => ?_,
    fun floor history nobody => ?_⟩
  · have empty := history.vacated nobody
    exact ⟨empty, history.parked_eq_nil nobody, CollectedHeap.removeWorker_unmanned nobody empty⟩
  · cases installed : s.collector with
    | none => simp [Installation.uninstall, installed] at uninstalls
    | some collector =>
      obtain ⟨entries, history⟩ := reached.history installed
      rcases Nat.eq_zero_or_pos collector.workers.alive with nobody | manned
      · have waits : collector.parked = [] := history.parked_eq_nil nobody
        refine ⟨collector, rfl, nobody, history.vacated nobody, waits, ?_⟩
        simp [Installation.uninstall, installed, nobody, waits]
      · simp [Installation.uninstall, installed, Nat.ne_of_gt manned] at uninstalls
  · refine ⟨history.vacated nobody, ?_⟩
    by_contra waits
    exact absurd nobody (Nat.ne_of_gt (history.manned waits))

/-- A call was lost and a removal was refused before there were workers. Of three workers
    one waits, and the next departure completes the rendezvous and captures a snapshot,
    with two workers left. The departure after that takes it, and so the last one leaves
    nothing. At the level of the lock, the worker that waited is also the last to go. -/
theorem nothing_left_behind_departures :
    (∃ s t : Installation ScriptedHeap, s.Reached ∧ t.Reached ∧
      s.collector.map (fun c => (c.snapshot.isSome, c.workers.alive)) = some (true, 2) ∧
      t.collector.map (fun c => (c.workers.alive, c.arrivals, c.statistics.collections)) =
        some (0, 1, 1) ∧
      t.uninstall.answer = .ok () ∧ t.uninstall.state = { t with collector := none } ∧
      ∀ worker, t.forward (.removeWorker worker) =
        .ok ⟨.error (.noWorkerToRemove worker), t, []⟩) ∧
    ∃ floor : Floor ScriptedHeap, floor.Interleaving ∧
      floor.state.collector.statistics.collections = 1 ∧
      floor.state.collector.workers.alive = 0 ∧ floor.state.collector.snapshot = none ∧
      floor.state.collector.parked = [] := by
  let worker (n : Nat) : WorkerId := ⟨n + 1, Nat.succ_pos n⟩
  let pair : ScriptedHeap := ⟨some [⟨0⟩, ⟨1⟩], [(⟨0⟩, 1), (⟨1⟩, 1)], none⟩
  let first : List Installation.Request :=
    [.install Config.default .zero, .collector (.rendezvous (worker 0) .zero),
      .collector (.removeWorker (worker 0)), .collector (.addWorker (worker 0)),
      .collector (.addWorker (worker 1)), .collector (.addWorker (worker 2)),
      .collector .schedule, .collector (.rendezvous (worker 0) .zero),
      .collector (.removeWorker (worker 1))]
  let second : List Installation.Request :=
    [.collector (.removeWorker (worker 0)), .collector (.removeWorker (worker 2))]
  let parts : List Collector.Section :=
    [.addWorker (worker 0), .addWorker (worker 1), .schedule, .arrive (worker 0) .zero,
      .removeWorker (worker 1), .resume (worker 0), .removeWorker (worker 0)]
  obtain ⟨vacant, uninstalls, all⟩ := nothing_left_behind ScriptedHeap
  constructor
  · have view : ((Installation.bare pair).play first).map
        (fun s => s.collector.map fun c => (c.snapshot.isSome, c.workers.alive)) =
        some (some (true, 2)) := by cbv
    have later : (((Installation.bare pair).play first).bind fun s => s.play second).map
        (fun t => (t.collector.map fun c => (c.workers.alive, c.arrivals, c.statistics.collections),
          t.uninstall.answer)) = some (some (0, 1, 1), .ok ()) := by cbv
    obtain ⟨s, played, captured⟩ := Option.map_eq_some_iff.1 view
    obtain ⟨t, goes, eq⟩ := Option.map_eq_some_iff.1 later
    obtain ⟨s', same, played'⟩ := Option.bind_eq_some_iff.1 goes
    obtain rfl : s = s' := Option.some.inj (played.symm.trans same)
    obtain ⟨left, answer⟩ : _ ∧ _ := by simpa only [Prod.mk.injEq] using eq
    have reached : s.Reached := (Installation.Reached.bare pair).play played
    have reached' : t.Reached := reached.play played'
    obtain ⟨collector, installed, nobody, -, -, gone⟩ := uninstalls t reached' answer
    obtain ⟨entries, history⟩ := reached'.history installed
    obtain ⟨-, -, refused⟩ := vacant entries _ history nobody
    refine ⟨s, t, reached, reached', captured, left, answer, gone, fun worker => ?_⟩
    obtain ⟨heap, installed', stranded⟩ := t
    subst installed
    simp only [Installation.forward, refused]
    rfl
  · have view : (Floor.play ⟨(CollectedHeap.create pair Config.default .zero).state, [],
        fun _ => 0⟩ parts).map (fun floor => (floor.state.collector.statistics.collections,
          floor.state.collector.workers.alive)) = some (1, 0) := by cbv
    obtain ⟨floor, played, eq⟩ := Option.map_eq_some_iff.1 view
    obtain ⟨one, nobody⟩ : _ ∧ _ := by simpa only [Prod.mk.injEq] using eq
    have history := (Floor.Interleaving.created pair Config.default .zero).play played
    exact ⟨floor, history, one, nobody, all floor history nobody⟩

end RefCycle
