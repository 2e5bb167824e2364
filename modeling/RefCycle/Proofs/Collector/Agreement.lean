import Mathlib
import RefCycle.Collector.Chronicle
import RefCycle.Collector.History
import RefCycle.ScriptedHeap
import RefCycle.Proofs.Collector.Step
/-!
# Flags and snapshots agree

A collection is wanted exactly while a snapshot is pending. So the pass of an
episode always makes room for its scan, and no scan that was requested is dropped,
whatever requested it and however the heap answers.

## Main definitions

* `CollectedHeap.Agrees` — the flags agree with the snapshot and with each other.
* `CollectedHeap.Tried` — the questions with which a snapshot is consumed.
* `CollectedHeap.Conducted` — what an episode asks, and what is pending after it.

## Main statements

* `Agrees.turns` — a section keeps the agreement.
* `Chronicle.perform`, `History.reached` — requests are carried out by sections.
* `no_scan_lost` — an episode scans exactly if a scan was requested.
-/

namespace RefCycle

/-- Whether a question is one to the detector. -/
def Consultation.asksDetector : Consultation → Bool
  | .detect _ => true
  | .count _ _ | .releaseGroup _ _ => false

namespace Snapshot

variable {refCount? : ObjectId → Option Nat} {objects : List ObjectId}

theorem capture_ne_none_iff :
    capture refCount? objects ≠ none ↔ ∃ object ∈ objects, (refCount? object).isSome := by
  unfold capture
  dsimp only
  split
  · rename_i empty
    simpa [List.filterMap_eq_nil_iff] using empty
  · rename_i nonempty
    simpa [List.filterMap_eq_nil_iff, Option.isSome_iff_ne_none] using nonempty

end Snapshot

namespace CollectedHeap

variable {H : Type} [Reclaimable H] {s t : CollectedHeap H} {worker : WorkerId}
  {part : Collector.Section} {heap next : H}

/-- A collection is wanted exactly while a snapshot is pending, and a scan only
    together with a rendezvous. -/
structure Agrees (s : CollectedHeap H) : Prop where
  collection : s.collector.pending.collection = s.collector.snapshot.isSome
  scan : s.collector.pending.scan = true → s.collector.pending.rendezvous = true

/-! ### Questions -/

def counts (heap : H) (objects : List ObjectId) : List Consultation :=
  objects.map fun object => .count object (Reclaimable.refCount? heap object)

/-- The questions of a scan. -/
def survey (heap : H) : List Consultation :=
  .detect (Reclaimable.detect heap).candidates ::
    counts heap ((Reclaimable.detect heap).candidates.getD [])

/-- The questions with which the pending snapshot is consumed, and the heap that they
    leave. The confirmed candidates are released, unless there are none. -/
inductive Tried (heap : H) : Option Snapshot → List Consultation → H → Prop where
  | nothing : Tried heap none [] heap
  | kept {snapshot : Snapshot}
      (unconfirmed : (snapshot.trialDelete (Reclaimable.refCount? heap)).confirmed = []) :
      Tried heap (some snapshot) (counts heap snapshot.roots) heap
  | released {snapshot : Snapshot} {group : List ObjectId} {release : Reclamation H}
      (confirmed : (snapshot.trialDelete (Reclaimable.refCount? heap)).confirmed = group)
      (nonempty : group ≠ []) (run : Reclaimable.releaseGroup heap group = .ok release) :
      Tried heap (some snapshot)
        (counts heap snapshot.roots ++ [.releaseGroup group release.reclaimed]) release.heap

/-- An episode with given pending work was conducted: first the pending snapshot was
    consumed, and then, if a scan was pending, the heap that was left was scanned. Of the
    work only a collection is pending again, if the scan captured something. -/
structure Conducted (s : CollectedHeap H) (pending : PendingWork) (asked : List Consultation)
    (t : CollectedHeap H) : Prop where
  asked : ∃ questions, Tried s.heap s.collector.snapshot questions t.heap ∧
    asked = questions ++ if pending.scan then survey t.heap else []
  snapshot : t.collector.snapshot = if pending.scan then candidates t.heap else none
  pending : t.collector.pending = ⟨false, false, t.collector.snapshot.isSome⟩

theorem consultations_countOf (heap : H) (objects : List ObjectId) :
    Trace.consultations (objects.map (countOf heap)) = counts heap objects := by
  induction objects with
  | nil => rfl
  | cons object objects ih => exact congrArg (_ :: ·) ih

theorem consultations_changed (objects : List ObjectId) :
    Trace.consultations (objects.map fun object => .collector (.changed object)) = [] := by
  induction objects with
  | nil => rfl
  | cons object objects ih => exact ih

theorem consultations_scanned (heap : H) : Trace.consultations (scanned heap) = survey heap := by
  rw [scanned, Trace.consultations_append, Trace.consultations_heap, List.nil_append]
  exact congrArg (_ :: ·) (consultations_countOf heap _)

theorem countP_counts (heap : H) (objects : List ObjectId) :
    (counts heap objects).countP Consultation.asksDetector = 0 := by
  simp [counts, List.countP_eq_zero, Consultation.asksDetector]

theorem countP_survey (heap : H) : (survey heap).countP Consultation.asksDetector = 1 := by
  rw [survey, List.countP_cons_of_pos rfl, countP_counts]

theorem Tried.countP {snapshot : Option Snapshot} {questions : List Consultation}
    (tried : Tried heap snapshot questions next) :
    questions.countP Consultation.asksDetector = 0 := by
  cases tried with
  | nothing => rfl
  | kept => exact countP_counts _ _
  | released => rw [List.countP_append, countP_counts]; rfl

theorem Conducted.countP {pending : PendingWork} {asked : List Consultation}
    (conducted : s.Conducted pending asked t) :
    asked.countP Consultation.asksDetector = if pending.scan then 1 else 0 := by
  obtain ⟨questions, tried, rfl⟩ := conducted.asked
  rw [List.countP_append, tried.countP, Nat.zero_add]
  split
  · exact countP_survey _
  · rfl

theorem Conducted.agrees {pending : PendingWork} {asked : List Consultation}
    (conducted : s.Conducted pending asked t) : t.Agrees := by
  refine ⟨?_, ?_⟩ <;> rw [conducted.pending]
  exact fun wanted => wanted

/-! ### Passes and episodes -/

theorem Pass.tried {o : Outcome (CollectedHeap H) Nat} (pass : s.Pass o) :
    Tried s.heap s.collector.snapshot (Trace.consultations o.trace) o.state.heap := by
  cases pass with
  | nothing empty =>
    rw [empty]
    exact .nothing
  | @consumed snapshot trial release statistics pending tried released recorded =>
    subst tried
    rw [pending]
    simp only [Trace.consultations_append, consultations_countOf, consultations_changed,
      Trace.consultations_collector, Trace.consultations_nil, List.append_nil]
    obtain ⟨unconfirmed, rfl⟩ | ⟨reclamation, nonempty, run, rfl⟩ := releaseConfirmed_eq_ok released
    · simpa only [Trace.consultations_nil, List.append_nil] using Tried.kept unconfirmed
    · simpa only [Trace.consultations_consulted, Trace.consultations_heap] using
        Tried.released rfl nonempty run

theorem Pass.pending {o : Outcome (CollectedHeap H) Nat} (pass : s.Pass o) (agrees : s.Agrees) :
    o.state.collector.pending = { s.collector.pending with collection := false } := by
  cases pass with
  | nothing empty =>
    have unwanted : s.collector.pending.collection = false := by rw [agrees.collection, empty]; rfl
    rw [← unwanted]
  | consumed => rfl

theorem Pass.agrees {o : Outcome (CollectedHeap H) Nat} (pass : s.Pass o) (agrees : s.Agrees) :
    o.state.Agrees := by
  refine ⟨?_, ?_⟩ <;> rw [pass.pending agrees]
  · rw [pass.swept.snapshot]
    rfl
  · exact agrees.scan

theorem Agrees.pass {o : Outcome (CollectedHeap H) Unit} (agrees : s.Agrees)
    (run : s.collectIfPending = .ok o) :
    ∃ answer, s.Pass ⟨answer, o.state, o.trace⟩ := by
  -- Where no collection is wanted, a pass would find no snapshot.
  unfold collectIfPending at run
  split at run
  · obtain ⟨pass, collects, rfl⟩ := Attempt.map_eq_ok_iff.1 run
    exact ⟨pass.answer, pass_of_collect collects⟩
  · rename_i unwanted
    cases run
    rw [agrees.collection, Option.not_isSome_iff_eq_none] at unwanted
    exact ⟨0, .nothing unwanted⟩

theorem scanIfPending_eq_ok {o : Outcome (CollectedHeap H) Unit} (run : s.scanIfPending = .ok o)
    (empty : s.collector.snapshot = none) (settled : s.collector.pending.collection = false) :
    o.state.heap = s.heap ∧
    Trace.consultations o.trace = (if s.collector.pending.scan then survey s.heap else []) ∧
    o.state.collector.snapshot = (if s.collector.pending.scan then candidates s.heap else none) ∧
    o.state.collector.pending =
      ⟨s.collector.pending.rendezvous, false, o.state.collector.snapshot.isSome⟩ := by
  refine ⟨scanIfPending_heap run, ?_⟩
  unfold scanIfPending at run
  split at run
  · rename_i wanted
    rw [if_pos wanted.1, if_pos wanted.1]
    cases scan_of_run run with
    | captured found recorded =>
      refine ⟨?_, found.symm, rfl⟩
      rw [Trace.consultations_append, consultations_scanned]
      exact List.append_nil _
    | foundNothing none recorded =>
      refine ⟨?_, empty.trans none.symm, ?_⟩
      · rw [Trace.consultations_append, consultations_scanned]
        exact List.append_nil _
      · simp [modifyCollector, empty, settled]
  · rename_i unwanted
    have idle : s.collector.pending.scan = false := by
      cases wanted : s.collector.pending.scan with
      | false => rfl
      | true => exact absurd ⟨wanted, by rw [empty]; rfl⟩ unwanted
    cases run
    rw [if_neg (by rw [idle]; decide), if_neg (by rw [idle]; decide)]
    have kept : s.collector.pending =
        ⟨_, s.collector.pending.scan, s.collector.pending.collection⟩ := rfl
    rw [idle, settled] at kept
    exact ⟨rfl, empty, by rw [empty]; exact kept⟩

theorem Agrees.conducted {o : Outcome (CollectedHeap H) Unit} (agrees : s.Agrees)
    (run : s.runEpisode = .ok o) :
    ∃ during, o.trace =
        .collector (.episode s.collector.workers.alive s.collector.pending) :: during ∧
      s.Conducted s.collector.pending (Trace.consultations during)
        (o.state.setPending { o.state.collector.pending with rendezvous := false }) := by
  obtain ⟨statistics, first, second, recorded, takes, scans, state, trace⟩ := runEpisode_eq_ok run
  have opened : (s.modifyCollector ({ · with statistics })).Agrees :=
    ⟨agrees.collection, agrees.scan⟩
  obtain ⟨answer, pass⟩ := opened.pass takes
  have pending : first.state.collector.pending = { s.collector.pending with collection := false } :=
    pass.pending opened
  obtain ⟨same, asked, snapshot, left⟩ := scanIfPending_eq_ok scans pass.swept.snapshot
    (congrArg PendingWork.collection pending)
  rw [pending] at asked snapshot left
  refine ⟨_, trace, ⟨Trace.consultations first.trace, ?_, ?_⟩, ?_, ?_⟩
  · show Tried s.heap s.collector.snapshot _ o.state.heap
    rw [state, same]
    exact pass.tried
  · show _ = _ ++ if _ then survey o.state.heap else []
    rw [Trace.consultations_append, asked, state, same]
  · show o.state.collector.snapshot = if _ then candidates o.state.heap else none
    rw [state, same]
    exact snapshot
  · show { o.state.collector.pending with rendezvous := false } = _
    rw [state, left]
    rfl

theorem AtBarrier.conducted {o : Outcome (CollectedHeap H) Passage} (agrees : s.Agrees)
    (barrier : s.AtBarrier worker o) :
    (o.state.collector.pending = s.collector.pending ∧
      o.state.collector.snapshot = s.collector.snapshot ∧
      o.state.collector.statistics.episodes = s.collector.statistics.episodes ∧
      Trace.consultations o.trace = []) ∨
    (s.collector.pending.rendezvous = true ∧
      o.state.collector.statistics.episodes = s.collector.statistics.episodes + 1 ∧
      ∃ during, o.trace =
          .collector (.episode s.collector.workers.alive s.collector.pending) :: during ∧
        s.Conducted s.collector.pending (Trace.consultations during) o.state) := by
  cases barrier with
  | passes => exact .inl ⟨rfl, rfl, rfl, rfl⟩
  | waits => exact .inl ⟨rfl, rfl, rfl, rfl⟩
  | @completes arrivals episode wanted full ran came =>
    have episodes := congrArg Gate.episodes ((runEpisode_gate s).of_ok ran)
    obtain ⟨during, trace, conducted⟩ := agrees.conducted ran
    exact .inr ⟨wanted, episodes, during, trace,
      conducted.asked, conducted.snapshot, conducted.pending⟩

theorem AtBarrier.agrees {o : Outcome (CollectedHeap H) Passage}
    (barrier : s.AtBarrier worker o) (agrees : s.Agrees) : o.state.Agrees := by
  obtain ⟨pending, snapshot, -, -⟩ | ⟨-, -, during, -, conducted⟩ := barrier.conducted agrees
  · refine ⟨?_, ?_⟩ <;> rw [pending]
    · rw [snapshot]
      exact agrees.collection
    · exact agrees.scan
  · exact conducted.agrees

omit [Reclaimable H] in
theorem Agrees.counted (agrees : s.Agrees) (now : Instant) : (s.counted now).Agrees := by
  refine ⟨(s.collection_pendingAt now).trans agrees.collection, ?_⟩
  show (s.pendingAt now).scan = true → (s.pendingAt now).rendezvous = true
  unfold pendingAt
  split
  · exact fun _ => rfl
  · exact agrees.scan

omit [Reclaimable H] in
theorem Agrees.scheduled (agrees : s.Agrees) : s.schedule.state.Agrees := by
  unfold schedule
  cases pending : s.collector.snapshot with
  | none => exact ⟨agrees.collection, fun _ => rfl⟩
  | some snapshot =>
    refine ⟨?_, fun _ => rfl⟩
    show true = s.collector.snapshot.isSome
    rw [pending]
    rfl

theorem Agrees.turns {o : Outcome (CollectedHeap H) (Except Misuse (Option Passage))}
    (agrees : s.Agrees) (turns : s.Turns part o) : o.state.Agrees := by
  cases turns with
  | added | lost => exact ⟨agrees.collection, agrees.scan⟩
  | scheduled => exact agrees.scheduled
  | collected pass | unmanned pass => exact pass.agrees agrees
  | removed pass => exact ⟨(pass.agrees agrees).collection, (pass.agrees agrees).scan⟩
  | @swept worker now o before room idle wanted pass =>
    have after := pass.agrees (agrees.counted now)
    exact ⟨after.collection, after.scan⟩
  | @arrived worker now o before room left barrier => exact barrier.agrees (agrees.counted now)
  | resumed barrier => exact barrier.agrees ⟨agrees.collection, agrees.scan⟩

theorem Reached.agrees (reached : s.Reached) : s.Agrees := by
  induction reached with
  | created heap config now => exact ⟨rfl, fun scan => nomatch scan⟩
  | ran history part enabled performed ih => exact ih.turns (turns_of_run performed)
  | mutated history heap ih => exact ⟨ih.collection, ih.scan⟩

/-! ### Requests are carried out by sections -/

theorem AtBarrier.parked {o : Outcome (CollectedHeap H) Passage} (barrier : s.AtBarrier worker o) :
    ∃ more, o.state.collector.parked = s.collector.parked ++ more := by
  cases barrier with
  | passes => exact ⟨[], (List.append_nil _).symm⟩
  | waits => exact ⟨[worker], rfl⟩
  | @completes arrivals episode wanted full ran came =>
    have same := congrArg Gate.parked ((runEpisode_gate s).of_ok ran)
    exact ⟨[], same.trans (List.append_nil _).symm⟩

theorem Chronicle.wake {workers done : List WorkerId}
    {o : Outcome (CollectedHeap H) (List WorkerId)} (waits : s.collector.parked = workers ++ done)
    (run : s.wake workers = .ok o) : s.Chronicle (Trace.consultations o.trace) o.state := by
  induction workers generalizing s done o with
  | nil =>
    cases run
    exact .start
  | cons worker workers ih =>
    obtain ⟨first, rest, resumes, others, rfl⟩ := Attempt.andThen_eq_ok_iff.1 run
    obtain ⟨rest, wakes, rfl⟩ := Attempt.map_eq_ok_iff.1 others
    have enabled : s.Enabled (.resume worker) := by
      intro other eq
      cases eq
      rw [waits]
      exact List.mem_cons_self
    -- A call that waits again goes to the end, behind those that are still to be woken.
    obtain ⟨more, parked⟩ := (atBarrier_of_barrier resumes).parked
    have left : first.state.collector.parked = workers ++ (done ++ more) := by
      rw [parked, ← List.append_assoc]
      show s.collector.parked.erase worker ++ more = _
      rw [waits, List.cons_append, List.erase_cons_head]
    have performed : s.run (.resume worker) =
        .ok ⟨.ok (some first.answer), first.state, first.trace⟩ := by
      rw [CollectedHeap.run, resumes]
      rfl
    have others := ih left wakes
    rw [Trace.consultations_append]
    exact (Chronicle.start.ran (.resume worker) enabled performed).trans others

/-- A request is carried out by sections: its own first one, and then those of the
    calls that it wakes. -/
theorem Chronicle.perform {request : Collector.Request}
    {o : Outcome (CollectedHeap H) (Except Misuse Collector.Response)}
    (run : s.perform request = .ok o) : s.Chronicle (Trace.consultations o.trace) o.state := by
  cases request with
  | addWorker worker =>
    cases run
    exact Chronicle.start.ran (.addWorker worker) (by simp [Enabled]) rfl
  | schedule =>
    cases run
    exact Chronicle.start.ran .schedule (by simp [Enabled]) rfl
  | collect =>
    rw [CollectedHeap.perform] at run
    obtain ⟨pass, collects, rfl⟩ := Attempt.map_eq_ok_iff.1 run
    have performed : s.run .collect = .ok ⟨.ok none, pass.state, pass.trace⟩ := by
      rw [CollectedHeap.run, collects]
      rfl
    exact Chronicle.start.ran .collect (by simp [Enabled]) performed
  | removeWorker worker =>
    obtain ⟨removed, removes, rfl⟩ := Attempt.map_eq_ok_iff.1 run
    obtain ⟨first, rest, leaves, follows, rfl⟩ := Attempt.andThen_eq_ok_iff.1 removes
    have enabled : s.Enabled (.removeWorker worker) := by simp [Enabled]
    have after : s.Chronicle (Trace.consultations first.trace) first.state :=
      Chronicle.start.ran _ enabled (Attempt.map_eq_ok_iff.2 ⟨first, leaves, rfl⟩)
    rw [Trace.consultations_append]
    split at follows
    · cases follows
      exact after.trans .start
    · obtain ⟨woken, wakes, rfl⟩ := Attempt.map_eq_ok_iff.1 follows
      exact after.trans (.wake (List.append_nil _).symm wakes)
  | rendezvous worker now =>
    obtain ⟨met, meets, rfl⟩ := Attempt.map_eq_ok_iff.1 run
    obtain ⟨first, rest, arrives, follows, rfl⟩ := Attempt.andThen_eq_ok_iff.1 meets
    have enabled : s.Enabled (.arrive worker now) := by simp [Enabled]
    have after : s.Chronicle (Trace.consultations first.trace) first.state :=
      Chronicle.start.ran _ enabled (Attempt.map_eq_ok_iff.2 ⟨first, arrives, rfl⟩)
    rw [Trace.consultations_append]
    split at follows
    · cases follows
      exact after.trans .start
    · obtain ⟨woken, wakes, rfl⟩ := Attempt.map_eq_ok_iff.1 follows
      exact after.trans (.wake (List.append_nil _).symm wakes)
    · cases follows
      exact after.trans .start

theorem History.reached {entries : List (Entry H)} (history : History entries s) : s.Reached := by
  induction history with
  | created heap config now => exact .created heap config now
  | request history request performed ih => exact (Chronicle.perform performed).reached ih
  | mutated history heap ih => exact ih.mutated heap

/-! ### Episodes of sections -/

/-- What is pending when a section comes to the barrier. At a safepoint the scheduler
    had its turn before, unless the call is one too many. -/
def pendingFor (s : CollectedHeap H) : Collector.Section → PendingWork
  | .arrive _ now =>
    if s.collector.arrivals + 1 ≤ s.collector.workers.alive then s.pendingAt now
    else s.collector.pending
  | .addWorker _ | .removeWorker _ | .schedule | .collect | .resume _ => s.collector.pending

/-- No episode took place: the detector was not asked, and a pending scan is still pending. -/
structure Uneventful (s : CollectedHeap H) (pending : PendingWork) (trace : Trace)
    (t : CollectedHeap H) : Prop where
  episodes : t.collector.statistics.episodes = s.collector.statistics.episodes
  unasked : (Trace.consultations trace).countP Consultation.asksDetector = 0
  kept : pending.scan = true → t.collector.pending.scan = true

theorem Pass.uneventful {o : Outcome (CollectedHeap H) Nat} (pass : s.Pass o) :
    s.Uneventful s.collector.pending o.trace o.state where
  episodes := by
    cases pass with
    | nothing => rfl
    | consumed pending tried released recorded => exact episodes_of_record recorded
  unasked := pass.tried.countP
  kept wanted := by
    obtain ⟨statistics, collection, rest⟩ := pass.swept.rest
    rw [rest]
    exact wanted

/-- In a section no episode takes place, or one is conducted with what is then pending. -/
theorem Turns.conducted {o : Outcome (CollectedHeap H) (Except Misuse (Option Passage))}
    (turns : s.Turns part o) (agrees : s.Agrees) :
    s.Uneventful (s.pendingFor part) o.trace o.state ∨
    ((s.pendingFor part).rendezvous = true ∧
      o.state.collector.statistics.episodes = s.collector.statistics.episodes + 1 ∧
      ∃ before during, o.trace = before ++
          .collector (.episode s.collector.workers.alive (s.pendingFor part)) :: during ∧
        Trace.consultations before = [] ∧
        s.Conducted (s.pendingFor part) (Trace.consultations during) o.state) := by
  cases turns with
  | added =>
    refine .inl ⟨rfl, ?_, id⟩
    simp only [addWorker]
    split <;> rfl
  | scheduled =>
    refine .inl ⟨rfl, rfl, fun wanted => ?_⟩
    unfold schedule
    cases s.collector.snapshot with
    | none => rfl
    | some snapshot => exact wanted
  | collected pass | unmanned pass => exact .inl pass.uneventful
  | @removed worker alive o pass manned =>
    obtain ⟨episodes, unasked, kept⟩ := pass.uneventful
    refine .inl ⟨episodes, ?_, kept⟩
    rw [Trace.consultations_append, List.countP_append, unasked]
    rfl
  | lost excess =>
    rw [pendingFor, if_neg (Nat.not_le_of_lt excess)]
    exact .inl ⟨rfl, rfl, id⟩
  | @swept worker now o before room idle wanted pass silent =>
    rw [pendingFor, if_pos room]
    obtain ⟨episodes, unasked, kept⟩ := pass.uneventful
    refine .inl ⟨episodes, ?_, kept⟩
    rw [Trace.consultations_append, silent]
    exact unasked
  | @arrived worker now o before room left barrier silent =>
    rw [pendingFor, if_pos room]
    obtain ⟨pending, -, episodes, quiet⟩ | ⟨requested, episodes, during, trace, conducted⟩ :=
      barrier.conducted (agrees.counted now)
    · refine .inl ⟨episodes, ?_, fun wanted => ?_⟩
      · rw [Trace.consultations_append, silent, quiet]
        rfl
      · rw [pending]
        exact wanted
    · refine .inr ⟨requested, episodes, before, during, congrArg (before ++ ·) trace, silent, ?_⟩
      exact ⟨conducted.asked, conducted.snapshot, conducted.pending⟩
  | @resumed worker o barrier =>
    have agrees : Agrees (s.modifyCollector fun c =>
        { c with parked := c.parked.erase worker }) := ⟨agrees.collection, agrees.scan⟩
    obtain ⟨pending, -, episodes, quiet⟩ | ⟨requested, episodes, during, trace, conducted⟩ :=
      barrier.conducted agrees
    · refine .inl ⟨episodes, ?_, fun wanted => ?_⟩
      · rw [quiet]
        rfl
      · rw [pending]
        exact wanted
    · refine .inr ⟨requested, episodes, [], during, trace, rfl, ?_⟩
      exact ⟨conducted.asked, conducted.snapshot, conducted.pending⟩

/-- Flags agree with snapshots, and no requested scan is lost.

    Whatever sections ran, and however the heap answered, a collection is wanted exactly
    while a snapshot is pending, and a scan only together with a rendezvous. A scan stays
    wanted until an episode takes place. The episode consumes the pending snapshot, and
    then asks the detector once if a scan is wanted, and otherwise not at all; neither a
    rendezvous nor a scan is wanted after it, and a snapshot is pending exactly if
    its scan found a candidate which still has a count. -/
theorem no_scan_lost (reached : s.Reached) :
    (s.collector.pending.collection = true ↔ s.collector.snapshot ≠ none) ∧
    (s.collector.pending.scan = true → s.collector.pending.rendezvous = true) ∧
    ∀ part outcome, s.run part = .ok outcome →
      s.Uneventful (s.pendingFor part) outcome.trace outcome.state ∨
      ((s.pendingFor part).rendezvous = true ∧
        outcome.state.collector.statistics.episodes = s.collector.statistics.episodes + 1 ∧
        ∃ before during, outcome.trace = before ++
            .collector (.episode s.collector.workers.alive (s.pendingFor part)) :: during ∧
          Trace.consultations before = [] ∧
          s.Conducted (s.pendingFor part) (Trace.consultations during) outcome.state ∧
          (Trace.consultations during).countP Consultation.asksDetector =
            (if (s.pendingFor part).scan then 1 else 0) ∧
          (outcome.state.collector.snapshot ≠ none ↔
            (s.pendingFor part).scan = true ∧
              ∃ object ∈ (Reclaimable.detect outcome.state.heap).candidates.getD [],
                (Reclaimable.refCount? outcome.state.heap object).isSome)) := by
  have agrees := reached.agrees
  refine ⟨?_, agrees.scan, fun part outcome performed => ?_⟩
  · rw [agrees.collection, Option.isSome_iff_ne_none]
  · refine ((turns_of_run performed).conducted agrees).imp_right ?_
    rintro ⟨requested, episodes, before, during, trace, silent, conducted⟩
    refine ⟨requested, episodes, before, during, trace, silent, conducted, conducted.countP, ?_⟩
    rw [conducted.snapshot, ← Snapshot.capture_ne_none_iff]
    cases (s.pendingFor part).scan <;> simp [candidates]

/-- While a snapshot of two objects is pending, the count of one of them changes. Then
    the scheduler requests a scan: the episode releases the other object, asks the
    detector once, and captures the changed object anew. -/
theorem no_scan_lost_stale_snapshot :
    ∃ s : CollectedHeap ScriptedHeap, s.Reached ∧
      s.collector.snapshot.map Snapshot.entries = some [(⟨0⟩, 1), (⟨1⟩, 1)] ∧
      ∃ now outcome, s.pendingFor (.arrive ⟨1, by decide⟩ now) = .all ∧
        s.run (.arrive ⟨1, by decide⟩ now) = .ok outcome ∧
        (∃ asked, s.Conducted .all asked outcome.state ∧
          asked.countP Consultation.asksDetector = 1) ∧
        outcome.state.collector.snapshot ≠ none := by
  let worker : WorkerId := ⟨1, by decide⟩
  let now : Instant := ⟨1, 0, by decide, by decide, by decide⟩
  let pair : ScriptedHeap := ⟨some [⟨0⟩, ⟨1⟩], [(⟨0⟩, 1), (⟨1⟩, 1)], none⟩
  let changed : ScriptedHeap := ⟨some [⟨0⟩, ⟨1⟩], [(⟨1⟩, 2), (⟨0⟩, 1)], none⟩
  let start := (create pair ⟨1, .zero, false⟩ .zero).state
  have view : (start.play [] [.addWorker worker, .schedule, .rendezvous worker .zero]).map
      (fun next => (next.2.collector.snapshot.map Snapshot.entries,
        next.2.pendingFor (.arrive worker now), next.2.collector.statistics.episodes,
        Except.map
          (fun outcome => (outcome.state.heap, outcome.state.collector.statistics.episodes))
          (run { next.2 with heap := changed } (.arrive worker now)))) =
      some (some [(⟨0⟩, 1), (⟨1⟩, 1)], .all, 1,
        .ok (⟨some [⟨0⟩, ⟨1⟩], [(⟨1⟩, 2)], none⟩, 2)) := by cbv
  obtain ⟨⟨entries, s⟩, played, eq⟩ := Option.map_eq_some_iff.1 view
  obtain ⟨captured, pending, before, ran⟩ : _ ∧ _ ∧ _ ∧ _ := by simpa only [Prod.mk.injEq] using eq
  have reached : CollectedHeap.Reached { s with heap := changed } :=
    ((History.created pair ⟨1, .zero, false⟩ .zero).play played).reached.mutated changed
  refine ⟨_, reached, captured, now, ?_⟩
  cases run : run { s with heap := changed } (.arrive worker now) with
  | error fault =>
    rw [run] at ran
    contradiction
  | ok outcome =>
    rw [run] at ran
    obtain ⟨heap, after⟩ : _ ∧ _ := by simpa only [Prod.mk.injEq] using Except.ok.inj ran
    obtain ⟨-, -, episodes⟩ := no_scan_lost reached
    obtain quiet | ⟨-, -, _, during, -, -, conducted, once, found⟩ := episodes _ outcome run
    · exact absurd (before.symm.trans (quiet.episodes.symm.trans after)) (by decide)
    · have pending : ({ s with heap := changed } : CollectedHeap ScriptedHeap).pendingFor
          (.arrive worker now) = .all := pending
      rw [pending] at conducted once found
      rw [heap] at found
      exact ⟨outcome, pending, rfl, ⟨_, conducted, once⟩, found.2 ⟨rfl, ⟨1⟩, by decide, by decide⟩⟩

end CollectedHeap

end RefCycle
