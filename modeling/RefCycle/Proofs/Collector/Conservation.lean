import Mathlib
import RefCycle.Collector.Chronicle
import RefCycle.ScriptedHeap
import RefCycle.Proofs.Collector.Agreement
/-!
# Conservation of candidates

A snapshot stays as it was captured until one pass consumes it, and the counters of a
collector balance: every candidate that was ever captured was handed over for release,
or disqualified, or is pending.

## Main definitions

* `CollectedHeap.Handled` — what a section does about the pending snapshot.
* `CollectedHeap.Tallied` — the counters agree with what the heap was asked.

## Main statements

* `Turns.handled` — a section leaves the snapshot alone, or consumes it, or captures one.
* `Turns.tallied` — a section keeps the counters in agreement.
* `Chronicle.consumed` — what is asked next of a heap is about the pending snapshot.
* `snapshots_balance` — both over whole chronicles.
-/

namespace RefCycle

namespace Consultation

variable {answer : ObjectId → Option Nat} {objects : List ObjectId} {measure : Consultation → Nat}

theorem sum_map_counts (uncounted : ∀ object answer, measure (.count object answer) = 0) :
    ((counts answer objects).map measure).sum = 0 := by
  induction objects with
  | nil => rfl
  | cons object objects ih =>
    rw [counts, List.map_cons, List.map_cons, List.sum_cons, uncounted, Nat.zero_add]
    exact ih

/-- Scans add nothing to what only releases count for. -/
theorem sum_map_survey (uncounted : ∀ object answer, measure (.count object answer) = 0)
    (found : Option (List ObjectId)) (nothing : measure (.detect found) = 0) :
    ((survey found answer).map measure).sum = 0 := by
  rw [survey, List.map_cons, List.sum_cons, nothing, sum_map_counts uncounted]

end Consultation

namespace Snapshot

variable {snapshot : Snapshot} {answer : ObjectId → Option Nat}

theorem confirmed_eq_unchangedRoots (snapshot : Snapshot) (answer : ObjectId → Option Nat) :
    (snapshot.trialDelete answer).confirmed = snapshot.unchangedRoots answer :=
  rfl

/-- A pass hands over the candidates that have the captured counts. -/
theorem sum_handedOver_questions (s : Snapshot) (reclaimed : Nat) :
    ((s.questions answer reclaimed).map Consultation.handedOver).sum =
      (s.unchangedRoots answer).length := by
  rw [questions, List.map_append, List.sum_append, Consultation.sum_map_counts fun _ _ => rfl,
    Nat.zero_add]
  split
  · rename_i unconfirmed
    rw [unconfirmed]
    rfl
  · rfl

theorem sum_reclaimed_questions (s : Snapshot) {reclaimed : Nat}
    (unreclaimed : s.unchangedRoots answer = [] → reclaimed = 0) :
    ((s.questions answer reclaimed).map Consultation.reclaimed).sum = reclaimed := by
  rw [questions, List.map_append, List.sum_append, Consultation.sum_map_counts fun _ _ => rfl,
    Nat.zero_add]
  split
  · exact (unreclaimed ‹_›).symm
  · rfl

/-- A candidate is confirmed or disqualified, and not both. -/
theorem length_trialDelete (snapshot : Snapshot) (answer : ObjectId → Option Nat) :
    (snapshot.trialDelete answer).confirmed.length +
      (snapshot.trialDelete answer).disqualified.length = snapshot.len := by
  simp only [trialDelete, List.length_map, len]
  exact (List.length_eq_length_filter_add _).symm

/-- The candidates that have counts are captured. -/
theorem length_capture (answer : ObjectId → Option Nat) (objects : List ObjectId) :
    ((capture answer objects).map len).getD 0 =
      (Consultation.counts answer objects).countP Consultation.hasCount := by
  have counted : (objects.filterMap fun object => (answer object).map (object, ·)).length =
      (Consultation.counts answer objects).countP Consultation.hasCount := by
    induction objects with
    | nil => rfl
    | cons object objects ih =>
      rw [Consultation.counts, List.map_cons, List.countP_cons, ← Consultation.counts, ← ih]
      cases here : answer object with
      | none => rw [List.filterMap_cons_none (by rw [here]; rfl)]; rfl
      | some count => rw [List.filterMap_cons_some (by rw [here]; rfl)]; rfl
  rw [← counted]
  unfold capture
  dsimp only
  split
  · rename_i empty
    rw [empty]
    rfl
  · rfl

end Snapshot

namespace CollectedHeap

variable {H : Type} [Reclaimable H] {s t : CollectedHeap H} {worker : WorkerId}
  {part : Collector.Section} {asked more : List Consultation} {spare : Nat} {heap : H}
  {pending : Option Snapshot}

/-! ### What is asked about a pending snapshot -/

theorem Tried.eq_of_none {heap next : H} {questions : List Consultation}
    (tried : Tried heap none questions next) : questions = [] ∧ next = heap := by
  cases tried
  exact ⟨rfl, rfl⟩

theorem Tried.eq_questions {heap next : H} {snapshot : Snapshot} {questions : List Consultation}
    (tried : Tried heap (some snapshot) questions next) :
    ∃ reclaimed, questions = snapshot.questions (Reclaimable.refCount? heap) reclaimed := by
  cases tried with
  | kept unconfirmed =>
    rw [Snapshot.confirmed_eq_unchangedRoots] at unconfirmed
    refine ⟨0, ?_⟩
    rw [Snapshot.questions, if_pos unconfirmed, List.append_nil]
    rfl
  | @released _ group release confirmed nonempty run =>
    rw [Snapshot.confirmed_eq_unchangedRoots] at confirmed
    subst confirmed
    refine ⟨release.reclaimed, ?_⟩
    rw [Snapshot.questions, if_neg nonempty]
    rfl

/-- What a section does about the pending snapshot. It asks nothing and leaves it, or
    consumes it, or captures one; and it captures one only where none is pending, be it
    that it has consumed the one that was. -/
inductive Handled (heap : H) : Option Snapshot → List Consultation → CollectedHeap H → Prop where
  | left {pending : Option Snapshot} {t : CollectedHeap H} (same : t.heap = heap)
      (kept : t.collector.snapshot = pending) : Handled heap pending [] t
  | passed {snapshot : Snapshot} {reclaimed : Nat} {t : CollectedHeap H}
      (tried : Tried heap (some snapshot)
        (snapshot.questions (Reclaimable.refCount? heap) reclaimed) t.heap)
      (consumed : t.collector.snapshot = none) :
      Handled heap (some snapshot)
        (snapshot.questions (Reclaimable.refCount? heap) reclaimed) t
  | scanned {t : CollectedHeap H} (same : t.heap = heap)
      (captured : t.collector.snapshot = candidates t.heap) :
      Handled heap none (survey t.heap) t
  | replaced {snapshot : Snapshot} {reclaimed : Nat} {t : CollectedHeap H}
      (tried : Tried heap (some snapshot)
        (snapshot.questions (Reclaimable.refCount? heap) reclaimed) t.heap)
      (captured : t.collector.snapshot = candidates t.heap) :
      Handled heap (some snapshot)
        (snapshot.questions (Reclaimable.refCount? heap) reclaimed ++ survey t.heap) t

/-- The pending snapshot is consumed, if there is one, and nothing else is asked. -/
theorem Handled.of_tried (tried : Tried heap pending asked t.heap)
    (consumed : t.collector.snapshot = none) : Handled heap pending asked t := by
  cases pending with
  | none =>
    obtain ⟨rfl, same⟩ := tried.eq_of_none
    exact .left same consumed
  | some snapshot =>
    obtain ⟨reclaimed, rfl⟩ := tried.eq_questions
    exact .passed tried consumed

/-- The pending snapshot is consumed, if there is one, and what is left is scanned. -/
theorem Handled.of_tried_survey (tried : Tried heap pending asked t.heap)
    (captured : t.collector.snapshot = candidates t.heap) :
    Handled heap pending (asked ++ survey t.heap) t := by
  cases pending with
  | none =>
    obtain ⟨rfl, same⟩ := tried.eq_of_none
    exact .scanned same captured
  | some snapshot =>
    obtain ⟨reclaimed, rfl⟩ := tried.eq_questions
    exact .replaced tried captured

theorem Conducted.handled {pending : PendingWork} (conducted : s.Conducted pending asked t) :
    Handled s.heap s.collector.snapshot asked t := by
  obtain ⟨questions, tried, rfl⟩ := conducted.asked
  have snapshot := conducted.snapshot
  split at snapshot
  · rename_i wanted
    rw [if_pos wanted]
    exact .of_tried_survey tried snapshot
  · rename_i unwanted
    rw [if_neg unwanted, List.append_nil]
    exact .of_tried tried snapshot

theorem AtBarrier.handled {o : Outcome (CollectedHeap H) Passage}
    (barrier : s.AtBarrier worker o) (agrees : s.Agrees) :
    Handled s.heap s.collector.snapshot (Trace.consultations o.trace) o.state := by
  cases barrier with
  | passes | waits => exact .left rfl rfl
  | @completes arrivals episode wanted full ran came =>
    obtain ⟨during, trace, conducted⟩ := agrees.conducted ran
    have same : Trace.consultations episode.trace = Trace.consultations during := by
      rw [trace, Trace.consultations_collector]
    rw [same]
    exact Conducted.handled ⟨conducted.asked, conducted.snapshot, conducted.pending⟩

omit [Reclaimable H] in
theorem consultations_addWorker (worker : WorkerId) :
    Trace.consultations (s.addWorker worker).trace = [] := by
  simp only [addWorker]
  split <;> rfl

theorem Turns.handled {o : Outcome (CollectedHeap H) (Except Misuse (Option Passage))}
    (agrees : s.Agrees) (turns : s.Turns part o) :
    Handled s.heap s.collector.snapshot (Trace.consultations o.trace) o.state := by
  cases turns with
  | added =>
    rw [consultations_addWorker]
    exact .left rfl rfl
  | scheduled | lost => exact .left rfl rfl
  | collected pass | unmanned pass => exact .of_tried pass.tried pass.swept.snapshot
  | removed pass =>
    rw [Trace.consultations_append]
    exact .of_tried (List.append_nil _ ▸ pass.tried) pass.swept.snapshot
  | swept room idle wanted pass silent =>
    rw [Trace.consultations_append, silent]
    exact .of_tried pass.tried pass.swept.snapshot
  | @arrived worker now o before room left barrier silent =>
    rw [Trace.consultations_append, silent]
    have handled := barrier.handled (agrees.counted now)
    exact handled
  | resumed barrier =>
    have handled := barrier.handled ⟨agrees.collection, agrees.scan⟩
    exact handled

/-! ### Counters -/

/-- Counters agree with what the heap was asked and with what is pending, and more
    episodes than scans took place by a given number at least. -/
structure Tallied (asked : List Consultation) (spare : Nat) (pending : Option Snapshot)
    (counters : Statistics) : Prop where
  exchanged : Exchanged asked pending
  scans : counters.scans =
    counters.emptyScans + counters.collections + if pending.isSome then 1 else 0
  episodes : counters.scans + spare ≤ counters.episodes
  reclaimed : counters.reclaimed = (asked.map Consultation.reclaimed).sum
  candidates : Consultation.captured asked =
    (asked.map Consultation.handedOver).sum + counters.disqualified +
      (pending.map Snapshot.len).getD 0

theorem Tallied.unasked {counters : Statistics} (tallied : Tallied asked spare pending counters) :
    Tallied (asked ++ []) spare pending counters :=
  (List.append_nil asked).symm ▸ tallied

/-- The confirmed candidates are handed over, unless there are none; then nothing is
    reclaimed. -/
theorem releaseConfirmed_asked {confirmed : List ObjectId} {release : Outcome H Nat}
    (released : releaseConfirmed heap confirmed = .ok release) :
    (Trace.consultations release.trace =
      if confirmed = [] then [] else [.releaseGroup confirmed release.answer]) ∧
    (confirmed = [] → release.answer = 0) := by
  obtain ⟨empty, rfl⟩ | ⟨reclamation, nonempty, -, rfl⟩ := releaseConfirmed_eq_ok released
  · rw [if_pos empty]
    exact ⟨rfl, fun _ => rfl⟩
  · rw [if_neg nonempty, Trace.consultations_consulted, Trace.consultations_heap]
    exact ⟨rfl, fun empty => absurd empty nonempty⟩

/-- A pass keeps the counters in agreement. -/
theorem Pass.tallied {o : Outcome (CollectedHeap H) Nat} (pass : s.Pass o)
    (tallied : Tallied asked spare s.collector.snapshot s.collector.statistics) :
    Tallied (asked ++ Trace.consultations o.trace) spare o.state.collector.snapshot
      o.state.collector.statistics := by
  cases pass with
  | nothing empty =>
    exact tallied.unasked
  | @consumed snapshot trial release statistics pending tried released recorded =>
    subst tried
    rw [pending] at tallied
    obtain ⟨exchanged, scans, episodes, reclaimed, captured⟩ := tallied
    obtain ⟨handed, unreclaimed⟩ := releaseConfirmed_asked released
    have questions : snapshot.questions (Reclaimable.refCount? s.heap) release.answer =
        counts s.heap snapshot.roots ++ Trace.consultations release.trace := by
      rw [handed]
      rfl
    have split := snapshot.length_trialDelete (Reclaimable.refCount? s.heap)
    rw [Snapshot.confirmed_eq_unchangedRoots] at split unreclaimed
    obtain rfl := Statistics.record_eq_ok recorded
    simp only [Trace.consultations_append, consultations_countOf, consultations_changed,
      Trace.consultations_collector, Trace.consultations_nil, List.append_nil, ← questions]
    refine ⟨exchanged.passed _ _, ?_, episodes, ?_, ?_⟩
    · -- The snapshot that was pending is one more collection.
      show s.collector.statistics.scans + 0 = s.collector.statistics.emptyScans + 0 +
        (s.collector.statistics.collections + 1) + 0
      have scans : s.collector.statistics.scans = s.collector.statistics.emptyScans +
        s.collector.statistics.collections + 1 := scans
      omega
    · rw [List.map_append, List.sum_append, snapshot.sum_reclaimed_questions unreclaimed]
      exact congrArg (· + release.answer) reclaimed
    · rw [exchanged.captured_append, snapshot.captured_questions, List.map_append, List.sum_append,
        snapshot.sum_handedOver_questions, captured]
      simp only [Statistics.add, Statistics.zero, Option.map_some, Option.getD_some,
        Option.map_none, Option.getD_none]
      omega

/-- A scan asks the questions of a survey, and counts itself. -/
theorem Scan.counted {o : Outcome (CollectedHeap H) Unit} (scan : s.Scan o)
    (empty : s.collector.snapshot = none) :
    Trace.consultations o.trace = survey s.heap ∧
    o.state.collector.snapshot = candidates s.heap ∧
    o.state.collector.statistics = s.collector.statistics.add
      { Statistics.zero with
        scans := 1
        emptyScans := if (candidates s.heap).isSome then 0 else 1 } := by
  have asks (record : CollectorRecord) :
      Trace.consultations (scanned s.heap ++ [.collector record]) = survey s.heap := by
    rw [Trace.consultations_append, consultations_scanned]
    exact List.append_nil _
  cases scan with
  | captured found recorded =>
    obtain rfl := Statistics.record_eq_ok recorded
    rw [found]
    exact ⟨asks _, rfl, rfl⟩
  | foundNothing none recorded =>
    obtain rfl := Statistics.record_eq_ok recorded
    rw [none]
    exact ⟨asks _, empty, rfl⟩

/-- A scan keeps the counters in agreement, if an episode was opened for it. -/
theorem Scan.tallied {o : Outcome (CollectedHeap H) Unit} (scan : s.Scan o)
    (empty : s.collector.snapshot = none)
    (tallied : Tallied asked (spare + 1) s.collector.snapshot s.collector.statistics) :
    Tallied (asked ++ Trace.consultations o.trace) spare o.state.collector.snapshot
      o.state.collector.statistics := by
  obtain ⟨asks, snapshot, statistics⟩ := scan.counted empty
  rw [empty] at tallied
  obtain ⟨exchanged, scans, episodes, reclaimed, captured⟩ := tallied
  rw [asks, snapshot, statistics]
  refine ⟨exchanged.scanned _ _, ?_, ?_, ?_, ?_⟩
  · -- The scan was empty, or a snapshot is pending now.
    simp only [Statistics.add, Statistics.zero, Option.isSome_none, Bool.false_eq_true, if_false]
      at scans ⊢
    split <;> omega
  · simp only [Statistics.add, Statistics.zero]
    omega
  · rw [List.map_append, List.sum_append]
    exact congrArg₂ (· + ·) reclaimed
      (Consultation.sum_map_survey (fun _ _ => rfl) _ rfl).symm
  · have found := Snapshot.length_capture (Reclaimable.refCount? s.heap)
      ((Reclaimable.detect s.heap).candidates.getD [])
    have surveyed : Consultation.captured (survey s.heap) = _ := Consultation.captured_survey _
    have handed : ((survey s.heap).map Consultation.handedOver).sum = 0 :=
      Consultation.sum_map_survey (fun _ _ => rfl) _ rfl
    rw [candidates, found, List.map_append, List.sum_append, exchanged.captured_append, captured,
      surveyed, handed]
    simp only [Statistics.add, Statistics.zero, Option.map_none, Option.getD_none]
    omega

/-- An episode that is opened is one to spare. -/
theorem Tallied.opened {counters statistics : Statistics}
    (tallied : Tallied asked spare pending counters)
    (recorded : counters.record { Statistics.zero with episodes := 1 } = .ok statistics) :
    Tallied asked (spare + 1) pending statistics := by
  obtain rfl := Statistics.record_eq_ok recorded
  exact ⟨tallied.exchanged, tallied.scans, Nat.succ_le_succ tallied.episodes, tallied.reclaimed,
    tallied.candidates⟩

/-- An episode keeps the counters in agreement, as it scans at most once. -/
theorem runEpisode_tallied {o : Outcome (CollectedHeap H) Unit} (run : s.runEpisode = .ok o)
    (tallied : Tallied asked spare s.collector.snapshot s.collector.statistics) :
    Tallied (asked ++ Trace.consultations o.trace) spare o.state.collector.snapshot
      o.state.collector.statistics := by
  obtain ⟨statistics, pass, scan, recorded, takes, scans, state, trace⟩ := runEpisode_eq_ok run
  have opened := tallied.opened recorded
  have taken : Tallied (asked ++ Trace.consultations pass.trace) (spare + 1)
      pass.state.collector.snapshot pass.state.collector.statistics := by
    unfold collectIfPending at takes
    split at takes
    · obtain ⟨pass, collects, rfl⟩ := Attempt.map_eq_ok_iff.1 takes
      exact (pass_of_collect collects).tallied opened
    · cases takes
      exact opened.unasked
  rw [state, trace, Trace.consultations_collector, Trace.consultations_append, ← List.append_assoc]
  unfold scanIfPending at scans
  split at scans
  · rename_i wanted
    exact (scan_of_run scans).tallied (Option.isNone_iff_eq_none.1 wanted.2) taken
  · cases scans
    rw [Trace.consultations_nil, List.append_nil]
    exact { taken with episodes := Nat.le_of_succ_le taken.episodes }

theorem AtBarrier.tallied {o : Outcome (CollectedHeap H) Passage} (barrier : s.AtBarrier worker o)
    (tallied : Tallied asked spare s.collector.snapshot s.collector.statistics) :
    Tallied (asked ++ Trace.consultations o.trace) spare o.state.collector.snapshot
      o.state.collector.statistics := by
  cases barrier with
  | passes | waits => exact tallied.unasked
  | completes wanted full ran came => exact runEpisode_tallied ran tallied

/-- A section keeps the counters in agreement. -/
theorem Turns.tallied {o : Outcome (CollectedHeap H) (Except Misuse (Option Passage))}
    (turns : s.Turns part o)
    (tallied : Tallied asked spare s.collector.snapshot s.collector.statistics) :
    Tallied (asked ++ Trace.consultations o.trace) spare o.state.collector.snapshot
      o.state.collector.statistics := by
  cases turns with
  | added =>
    rw [consultations_addWorker]
    exact tallied.unasked
  | scheduled | lost => exact tallied.unasked
  | collected pass | unmanned pass => exact pass.tallied tallied
  | removed pass =>
    rw [Trace.consultations_append]
    exact List.append_nil _ ▸ pass.tallied tallied
  | swept room idle wanted pass silent =>
    rw [Trace.consultations_append, silent]
    exact pass.tallied tallied
  | arrived room left barrier silent =>
    rw [Trace.consultations_append, silent]
    exact barrier.tallied tallied
  | resumed barrier => exact barrier.tallied tallied

/-! ### Chronicles -/

/-- The counters agree with what was asked from the beginning. -/
theorem Chronicle.tallied {config : Config} {now : Instant}
    (chronicle : (create heap config now).state.Chronicle asked s) :
    Tallied asked 0 s.collector.snapshot s.collector.statistics := by
  induction chronicle with
  | start => exact ⟨.nothing, rfl, Nat.le_refl _, rfl, rfl⟩
  | ran before part enabled performed ih => exact (turns_of_run performed).tallied ih
  | mutated before heap ih => exact ih

/-- A pending snapshot stays as it is while nothing is asked; and what is asked next is
    asked to consume it. -/
theorem Chronicle.consumed {snapshot : Snapshot} (chronicle : s.Chronicle more t)
    (reached : s.Reached) (pending : s.collector.snapshot = some snapshot) :
    (more = [] ∧ t.collector.snapshot = some snapshot) ∨
    ∃ u reclaimed rest, s.Chronicle [] u ∧ u.collector.snapshot = some snapshot ∧
      more = snapshot.questions (Reclaimable.refCount? u.heap) reclaimed ++ rest := by
  induction chronicle with
  | start => exact .inl ⟨rfl, pending⟩
  | @ran asked t outcome before part enabled performed ih =>
    obtain ⟨rfl, kept⟩ | ⟨u, reclaimed, rest, waits, frozen, rfl⟩ := ih
    · have handled := (turns_of_run performed).handled (before.reached reached).agrees
      rw [kept] at handled
      rw [List.nil_append]
      generalize Trace.consultations outcome.trace = questions at handled ⊢
      cases handled with
      | left same kept => exact .inl ⟨rfl, kept⟩
      | passed => exact .inr ⟨t, _, [], before, kept, (List.append_nil _).symm⟩
      | replaced => exact .inr ⟨t, _, _, before, kept, rfl⟩
    · exact .inr ⟨u, reclaimed, _, waits, frozen, List.append_assoc ..⟩
  | mutated before heap ih => exact ih

/-- A snapshot is consumed once and as it was captured, and the counters balance.

    Over a whole chronicle scans and passes alternate, and each pass is over what the
    scan before it captured. Each section leaves a pending snapshot alone, or a pass
    looks up each of its candidates once, in the order of capture, and hands over those
    whose counts are unchanged, if there are any. Until then the snapshot is what it
    was, whatever ran and however the heap changed. Every scan was empty, was followed
    by a collection or has its snapshot pending, and belongs to an episode of its own;
    what was reclaimed is what the releases answered; and every candidate that was
    captured was handed over, or disqualified, or is pending. -/
theorem snapshots_balance {config : Config} {now : Instant}
    (chronicle : (create heap config now).state.Chronicle asked s) :
    Exchanged asked s.collector.snapshot ∧
    (∀ part outcome, s.run part = .ok outcome →
      Handled s.heap s.collector.snapshot (Trace.consultations outcome.trace) outcome.state) ∧
    (∀ snapshot more t, s.collector.snapshot = some snapshot → s.Chronicle more t →
      (more = [] ∧ t.collector.snapshot = some snapshot) ∨
      ∃ u reclaimed rest, s.Chronicle [] u ∧ u.collector.snapshot = some snapshot ∧
        more = snapshot.questions (Reclaimable.refCount? u.heap) reclaimed ++ rest) ∧
    s.collector.statistics.scans =
      s.collector.statistics.emptyScans + s.collector.statistics.collections +
        (if s.collector.snapshot.isSome then 1 else 0) ∧
    s.collector.statistics.scans ≤ s.collector.statistics.episodes ∧
    s.collector.statistics.reclaimed = (asked.map Consultation.reclaimed).sum ∧
    Consultation.captured asked =
      (asked.map Consultation.handedOver).sum + s.collector.statistics.disqualified +
        (s.collector.snapshot.map Snapshot.len).getD 0 := by
  have reached : s.Reached := chronicle.reached (.created heap config now)
  obtain ⟨exchanged, scans, episodes, reclaimed, candidates⟩ := chronicle.tallied
  refine ⟨exchanged, ?_, ?_, scans, episodes, reclaimed, candidates⟩
  · intro part outcome performed
    exact (turns_of_run performed).handled reached.agrees
  · intro snapshot more t pending later
    exact later.consumed reached pending

/-- Two objects are captured, and one of them changes. The episode that the scheduler
    then requests hands over the other and captures the changed object anew: of three
    captures one was handed over, one was disqualified and one is pending. -/
theorem snapshots_balance_stale_snapshot :
    ∃ (heap : ScriptedHeap) (config : Config) (now : Instant) (asked : List Consultation)
      (s : CollectedHeap ScriptedHeap),
      (create heap config now).state.Chronicle asked s ∧
      asked = [.detect (some [⟨0⟩, ⟨1⟩]), .count ⟨0⟩ (some 1), .count ⟨1⟩ (some 1),
        .count ⟨0⟩ (some 1), .count ⟨1⟩ (some 2), .releaseGroup [⟨0⟩] 1,
        .detect (some [⟨0⟩, ⟨1⟩]), .count ⟨0⟩ none, .count ⟨1⟩ (some 2)] ∧
      s.collector.snapshot.map Snapshot.entries = some [(⟨1⟩, 2)] ∧
      s.collector.statistics.scans = 0 + 1 + 1 ∧ Consultation.captured asked = 1 + 1 + 1 := by
  let worker : WorkerId := ⟨1, by decide⟩
  let now : Instant := ⟨1, 0, by decide, by decide, by decide⟩
  let pair : ScriptedHeap := ⟨some [⟨0⟩, ⟨1⟩], [(⟨0⟩, 1), (⟨1⟩, 1)], none⟩
  let changed : ScriptedHeap := ⟨some [⟨0⟩, ⟨1⟩], [(⟨1⟩, 2), (⟨0⟩, 1)], none⟩
  let start := (create pair ⟨1, .zero, false⟩ .zero).state
  have view : ((start.attend [] [.addWorker worker, .schedule, .arrive worker .zero]).bind
      fun next => { next.2 with heap := changed }.attend next.1 [.arrive worker now]).map
        (fun next => (next.1, next.2.collector.snapshot.map Snapshot.entries,
          next.2.collector.statistics)) =
      some ([.detect (some [⟨0⟩, ⟨1⟩]), .count ⟨0⟩ (some 1), .count ⟨1⟩ (some 1),
        .count ⟨0⟩ (some 1), .count ⟨1⟩ (some 2), .releaseGroup [⟨0⟩] 1,
        .detect (some [⟨0⟩, ⟨1⟩]), .count ⟨0⟩ none, .count ⟨1⟩ (some 2)],
        some [(⟨1⟩, 2)], ⟨2, 2, 0, 1, 1, 1⟩) := by cbv
  obtain ⟨⟨asked, s⟩, attended, eq⟩ := Option.map_eq_some_iff.1 view
  obtain ⟨⟨first, t⟩, before, after⟩ := Option.bind_eq_some_iff.1 attended
  obtain ⟨asks, pending, counters⟩ : _ ∧ _ ∧ _ := by simpa only [Prod.mk.injEq] using eq
  have chronicle := ((Chronicle.start.attend before).mutated changed).attend after
  obtain ⟨-, -, -, scans, -, -, candidates⟩ := snapshots_balance chronicle
  have found : s.collector.snapshot.isSome := by
    rw [← Option.isSome_map, pending]
    rfl
  have one : (s.collector.snapshot.map Snapshot.len).getD 0 = 1 := by
    obtain ⟨snapshot, here, entries⟩ := Option.map_eq_some_iff.1 pending
    rw [here]
    exact congrArg List.length entries
  refine ⟨pair, _, _, asked, s, chronicle, asks, pending, ?_, ?_⟩
  · rw [scans, counters, if_pos found]
    rfl
  · rw [candidates, counters, one, asks]
    rfl

end CollectedHeap

end RefCycle
