import Mathlib
import RefCycle.Collector.Census
import RefCycle.Proofs.Collector.Step
import RefCycle.Proofs.Heap.Shedding
import RefCycle.Proofs.Heap.Step
/-!
# No object is lost or freed twice

An object disappears in one place only, and every way there reports it and counts it:
in the answer of the call that freed it, or in the statistics of the pass that reclaimed
it. So what was allocated is live or accounted for. Nothing here depends on the counts
of the heap; they may be wrong, or zero while references are left.

## Main definitions

* `CollectedHeap.Reclaims` — what disappeared is what was reported and counted.
* `CollectedHeap.Conserves` — an operation reclaims what disappears.

## Main statements

* `Turns.removes_freed`, `Turns.len` — the account of a call.
* `collect_exact` — the account of a pass.
* `run_conserves` — a section reclaims what disappears in it.
* `Census.Run.objects_conserved` — the account of a run.
-/

namespace RefCycle

namespace Heap

variable {h : Heap} {call : Call} {effect : Effect}

/-! ### Calls -/

theorem filterMap_freed? (objects : List ObjectId) :
    (objects.map Record.freed).filterMap Record.freed? = objects := by
  rw [List.filterMap_map]
  exact List.filterMap_some

theorem filterMap_freedCyclic (objects : List ObjectId) :
    (objects.map Record.freedCyclic).filterMap Record.freed? = objects := by
  rw [List.filterMap_map]
  exact List.filterMap_some

theorem GroupRelease.filterMap_records (release : GroupRelease) :
    release.records.filterMap Record.freed? = release.cyclic ++ release.freed := by
  rw [records, List.filterMap_append, List.filterMap_append, filterMap_freed?,
    filterMap_freedCyclic]
  split <;> rfl

/-- A call that answers how many objects it freed reports each of these once, and no
    other object is gone. -/
theorem Turns.removes_freed {count : Nat} (turns : h.Turns call effect)
    (answer : effect.response = .freed count) :
    h.Removes effect.heap effect.freed ∧ effect.freed.length = count := by
  cases turns with
  | refused | lacking | detected | allocated | retained | linked => contradiction
  | @released object freeing live run =>
    have freed : freeing.records.filterMap Record.freed? = freeing.freed := filterMap_freed? _
    rw [Effect.freed, freed]
    exact ⟨discard_removes run, Response.freed.inj answer⟩
  | @unlinked source target freeing refers run =>
    have freed : freeing.records.filterMap Record.freed? = freeing.freed := filterMap_freed? _
    rw [Effect.freed, freed]
    refine ⟨?_, Response.freed.inj answer⟩
    exact (removes_nil fun p => contains_modify _).append (discard_removes run)
  | @freed _ group release run =>
    rw [Effect.freed, release.filterMap_records, List.length_append]
    exact ⟨releaseGroup_removes run, Response.freed.inj answer⟩

theorem len_push (h : Heap) (o : Object) : (h.push o).len = h.len + 1 := by
  have old : ∀ p ∈ (List.range h.slots.size).map ObjectId.mk,
      (h.push o).contains p = h.contains p := by
    intro p mem
    obtain ⟨i, inside, rfl⟩ := List.mem_map.1 mem
    have other : i ≠ h.slots.size := Nat.ne_of_lt (List.mem_range.1 inside)
    simp [contains, get?_push, other]
  have new : (h.push o).contains ⟨h.slots.size⟩ = true := (contains_push o).2 (.inl rfl)
  rw [len, len, ids, ids, size_slots_push, List.range_succ, List.map_append, List.filter_append,
    List.length_append, List.filter_congr old]
  simp [new]

/-- What was live or is allocated by a call is live afterwards or was freed. -/
theorem Turns.len (turns : h.Turns call effect) :
    effect.heap.len + effect.response.freedCount = h.len + effect.response.allocations := by
  have fewer : ∀ count, effect.response = .freed count → effect.heap.len + count = h.len := by
    intro count answer
    obtain ⟨removes, length⟩ := turns.removes_freed answer
    exact length ▸ removes.len
  cases turns with
  | refused | lacking | detected => rfl
  | allocated => exact h.len_push _
  | retained here => exact len_congr (size_slots_setCount ..) fun p => contains_setCount ..
  | linked live here =>
    refine len_congr ?_ fun p => ?_
    · rw [Heap.linked, size_slots_modify, size_slots_setCount]
    · rw [Heap.linked, contains_modify, contains_setCount]
  | released | unlinked | freed => exact fewer _ rfl

end Heap

/-! ### What a trace reports -/

namespace Trace

variable {first second : Trace}

@[simp]
theorem freed_nil : freed [] = [] :=
  rfl

@[simp]
theorem freed_append : freed (first ++ second) = freed first ++ freed second :=
  List.filterMap_append

@[simp]
theorem freed_collector (record : CollectorRecord) :
    freed (.collector record :: first) = freed first :=
  rfl

@[simp]
theorem freed_consulted (question : Consultation) :
    freed (.consulted question :: first) = freed first :=
  rfl

@[simp]
theorem freed_heap (records : List Heap.Record) :
    freed (records.map .heap) = records.filterMap Heap.Record.freed? := by
  rw [freed, List.filterMap_map]
  rfl

/-- Nothing is freed by looking something up, or by a word about it. -/
theorem freed_map_eq_nil {event : ObjectId → Event} (quiet : ∀ object, (event object).freed? = none)
    (objects : List ObjectId) : freed (objects.map event) = [] := by
  rw [freed, List.filterMap_map, List.filterMap_eq_nil_iff]
  exact fun object _ => quiet object

end Trace

namespace CollectedHeap

variable {order : VisitOrder} {s t u : CollectedHeap Heap} {trace more : Trace} {α β : Type}
  {r : Attempt (CollectedHeap Heap) α}

/-! ### Passes -/

/-- The objects that disappeared are those that were reported, each of them once, and
    as many were counted. -/
structure Reclaims (s t : CollectedHeap Heap) (trace : Trace) : Prop where
  removes : s.heap.Removes t.heap trace.freed
  counted : t.collector.statistics.reclaimed =
    s.collector.statistics.reclaimed + trace.freed.length

theorem reclaims_nothing (heap : t.heap = s.heap)
    (counted : t.collector.statistics.reclaimed = s.collector.statistics.reclaimed)
    (quiet : trace.freed = []) : Reclaims s t trace where
  removes := by
    rw [quiet, heap]
    exact Heap.removes_nil fun _ => rfl
  counted := by
    rw [quiet, counted]
    rfl

theorem Reclaims.trans (first : Reclaims s t trace) (second : Reclaims t u more) :
    Reclaims s u (trace ++ more) where
  removes := by
    rw [Trace.freed_append]
    exact first.removes.append second.removes
  counted := by
    rw [second.counted, first.counted, Trace.freed_append, List.length_append, Nat.add_assoc]

theorem Reclaims.len (reclaims : Reclaims s t trace) :
    t.heap.len + t.collector.statistics.reclaimed =
      s.heap.len + s.collector.statistics.reclaimed := by
  have fewer := reclaims.removes.len
  have counted := reclaims.counted
  omega

theorem reclaimed_of_record {statistics increment sum : Statistics}
    (recorded : statistics.record increment = .ok sum) :
    sum.reclaimed = statistics.reclaimed + increment.reclaimed := by
  rw [Statistics.record_eq_ok recorded]
  rfl

theorem releaseConfirmed_removes {heap : Heap} {confirmed : List ObjectId}
    {o : Outcome Heap Nat} (run : releaseConfirmed heap confirmed = .ok o) :
    heap.Removes o.state o.trace.freed ∧ o.trace.freed.length = o.answer := by
  obtain ⟨-, rfl⟩ | ⟨reclamation, -, released, rfl⟩ := releaseConfirmed_eq_ok run
  · exact ⟨Heap.removes_nil fun _ => rfl, rfl⟩
  · rw [Trace.freed_consulted, Trace.freed_heap]
    simp only [Reclaimable.releaseGroup] at released
    split at released
    · contradiction
    · rename_i release done
      cases released
      rw [release.filterMap_records, List.length_append]
      exact ⟨Heap.releaseGroup_removes done, rfl⟩

/-- A pass answers how many objects it reclaimed, and counts and reports these. -/
theorem Pass.reclaims {o : Outcome (CollectedHeap Heap) Nat} (pass : s.Pass o) :
    Reclaims s o.state o.trace ∧ o.trace.freed.length = o.answer := by
  cases pass with
  | nothing => exact ⟨reclaims_nothing rfl rfl rfl, rfl⟩
  | @consumed snapshot trial release statistics pending tried released recorded =>
    obtain ⟨removes, length⟩ := releaseConfirmed_removes released
    have looked : Trace.freed (snapshot.roots.map (countOf s.heap)) = [] :=
      Trace.freed_map_eq_nil (fun _ => rfl) _
    have kept : Trace.freed (trial.disqualified.map fun object => .collector (.changed object)) =
        [] := Trace.freed_map_eq_nil (fun _ => rfl) _
    have reported (word : CollectorRecord) : Trace.freed (snapshot.roots.map (countOf s.heap) ++
        trial.disqualified.map (fun object => .collector (.changed object)) ++ release.trace ++
        [.collector word]) = release.trace.freed := by
      simp only [Trace.freed_append, looked, kept, Trace.freed_collector, Trace.freed_nil,
        List.nil_append, List.append_nil]
    refine ⟨⟨?_, ?_⟩, ?_⟩ <;> dsimp only <;> rw [reported]
    · exact removes
    · exact length ▸ reclaimed_of_record recorded
    · exact length

/-! ### Operations -/

/-- An operation counts and reports the objects that disappear in it. -/
def Conserves (s : CollectedHeap Heap) (r : Attempt (CollectedHeap Heap) α) : Prop :=
  r.Ensures (fun _ => True) fun o => Reclaims s o.state o.trace

theorem Conserves.andThen {next : α → CollectedHeap Heap → Attempt (CollectedHeap Heap) β}
    (first : s.Conserves r) (second : ∀ a t, Conserves t (next a t)) :
    s.Conserves (r.andThen next) :=
  Attempt.Ensures.andThen first fun a reclaims =>
    (second a.answer a.state).mono fun _ more => reclaims.trans more

theorem Conserves.map {f : α → β} (conserves : s.Conserves r) : s.Conserves (r.map f) :=
  Attempt.Ensures.map conserves

/-- To begin with, some fields may be set that have nothing to do with objects. -/
theorem Conserves.of_same (conserves : t.Conserves r) (heap : t.heap = s.heap)
    (counted : t.collector.statistics = s.collector.statistics) : s.Conserves r :=
  conserves.mono fun _ reclaims =>
    (reclaims_nothing heap (congrArg _ counted) Trace.freed_nil).trans reclaims

theorem done_conserves (answer : α) (s : CollectedHeap Heap) : s.Conserves (.done answer s) :=
  reclaims_nothing rfl rfl rfl

theorem collect_conserves (s : CollectedHeap Heap) : s.Conserves s.collect := by
  cases run : s.collect with
  | error => trivial
  | ok o => exact (pass_of_collect run).reclaims.1

theorem openEpisode_conserves (s : CollectedHeap Heap) : s.Conserves s.openEpisode := by
  refine Attempt.Ensures.bind (fun _ _ => trivial) fun statistics recorded => ?_
  exact reclaims_nothing rfl (reclaimed_of_record recorded) rfl

theorem collectIfPending_conserves (s : CollectedHeap Heap) :
    s.Conserves s.collectIfPending := by
  rw [collectIfPending]
  split
  · exact s.collect_conserves.map
  · exact done_conserves () s

theorem freed_scanned (heap : Heap) : Trace.freed (scanned heap) = [] := by
  simp only [scanned, Trace.freed_append, Trace.freed_heap, Trace.freed_consulted]
  exact Trace.freed_map_eq_nil (fun _ => rfl) _

theorem Scan.reclaims {o : Outcome (CollectedHeap Heap) Unit} (scan : s.Scan o) :
    Reclaims s o.state o.trace := by
  cases scan with
  | captured found recorded =>
    refine reclaims_nothing rfl (reclaimed_of_record recorded) ?_
    rw [Trace.freed_append, freed_scanned]
    rfl
  | foundNothing empty recorded =>
    refine reclaims_nothing rfl (reclaimed_of_record recorded) ?_
    rw [Trace.freed_append, freed_scanned]
    rfl

theorem scanIfPending_conserves (s : CollectedHeap Heap) : s.Conserves s.scanIfPending := by
  rw [scanIfPending]
  split
  · cases run : s.scan with
    | error => trivial
    | ok o => exact (scan_of_run run).reclaims
  · exact done_conserves () s

theorem runEpisode_conserves (s : CollectedHeap Heap) : s.Conserves s.runEpisode := by
  apply s.openEpisode_conserves.andThen
  intro _ t
  apply t.collectIfPending_conserves.andThen
  intro _ u
  exact u.scanIfPending_conserves

theorem leave_conserves (s : CollectedHeap Heap) (passage : Passage) :
    s.Conserves (s.leave passage) := by
  rw [leave]
  split
  · trivial
  · exact (done_conserves passage _).of_same rfl rfl

theorem barrier_conserves (s : CollectedHeap Heap) (worker : WorkerId) :
    s.Conserves (s.barrier worker) := by
  rw [barrier]
  split
  · split
    · exact reclaims_nothing rfl rfl rfl
    · apply s.runEpisode_conserves.andThen
      intro _ t
      exact (leave_conserves _ .completed).of_same rfl rfl
  · exact s.leave_conserves .passed

theorem countSafepoint_conserves (s : CollectedHeap Heap) (now : Instant) :
    s.Conserves (s.countSafepoint now) := by
  rw [countSafepoint]
  dsimp only
  split
  · exact reclaims_nothing rfl rfl rfl
  · exact (done_conserves () _).of_same rfl rfl

theorem collectAtSafepoint_conserves (s : CollectedHeap Heap) (worker : WorkerId) :
    s.Conserves (s.collectAtSafepoint worker) := by
  rw [collectAtSafepoint]
  split
  · split
    · exact reclaims_nothing rfl rfl rfl
    · exact s.collect_conserves.map
  · exact done_conserves () s

theorem arrive_conserves (s : CollectedHeap Heap) (worker : WorkerId) (now : Instant) :
    s.Conserves (s.arrive worker now) := by
  rw [arrive]
  split
  · exact (done_conserves _ _).of_same rfl rfl
  · -- The arrival is counted first.
    refine Conserves.of_same
      (t := s.modifyCollector fun c => { c with arrivals := c.arrivals + 1 }) ?_ rfl rfl
    apply (countSafepoint_conserves _ now).andThen
    intro _ t
    apply (t.collectAtSafepoint_conserves worker).andThen
    intro _ u
    exact (u.barrier_conserves worker).map

theorem deregister_conserves (s : CollectedHeap Heap) (worker : WorkerId) :
    s.Conserves (s.deregister worker) := by
  apply s.collect_conserves.andThen
  intro _ t
  split
  · exact done_conserves _ t
  · exact reclaims_nothing rfl rfl rfl

/-- A section counts and reports the objects that disappear in it. -/
theorem run_conserves (s : CollectedHeap Heap) (part : Collector.Section) :
    s.Conserves (s.run part) := by
  cases part with
  | addWorker worker =>
    refine reclaims_nothing rfl rfl ?_
    show Trace.freed (_ ++ _) = []
    rw [Trace.freed_append]
    split <;> rfl
  | removeWorker worker => exact (s.deregister_conserves worker).map
  | schedule => exact reclaims_nothing rfl rfl rfl
  | collect =>
    rw [CollectedHeap.run]
    exact s.collect_conserves.map
  | arrive worker now => exact (s.arrive_conserves worker now).map
  | resume worker =>
    rw [CollectedHeap.run]
    exact Conserves.map ((barrier_conserves _ worker).of_same rfl rfl)

end CollectedHeap

namespace Census

variable {census : Census}

theorem Run.allocated (run : Run census) :
    census.allocated = census.state.heap.len + census.freed +
      census.state.collector.statistics.reclaimed := by
  induction run with
  | created config now => rfl
  | called run call performed ih =>
    have law := (Heap.turns_of_perform performed).len
    simp only [afterCall]
    omega
  | @ran _ census outcome run part enabled performed ih =>
    have law := ((census.state.run_conserves part).of_ok performed).len
    dsimp only
    omega

/-- The account of a run.

    What was allocated is live, or was freed by a call that answered so, or counted as
    reclaimed. If a call answers how many objects it freed, so many are gone, and it
    reports each of these once and no other. A pass, in whatever state, answers how many
    objects are gone, reports each of them once, and counts as many. -/
theorem Run.objects_conserved [VisitOrder] (run : Run census) :
    census.allocated = census.state.heap.len + census.freed +
      census.state.collector.statistics.reclaimed ∧
    (∀ call effect count, census.state.heap.perform call = .ok effect →
      effect.response = .freed count →
        census.state.heap.Removes effect.heap effect.freed ∧ effect.freed.length = count ∧
        effect.heap.len + count = census.state.heap.len) ∧
    ∀ (s : CollectedHeap Heap) (o : Outcome (CollectedHeap Heap) Nat), s.collect = .ok o →
      s.heap.Removes o.state.heap o.trace.freed ∧ o.trace.freed.length = o.answer ∧
      o.state.heap.len + o.answer = s.heap.len ∧
      o.state.collector.statistics.reclaimed =
        s.collector.statistics.reclaimed + o.answer := by
  refine ⟨run.allocated, fun call effect count performed answer => ?_, fun s o collected => ?_⟩
  · obtain ⟨removes, length⟩ := (Heap.turns_of_perform performed).removes_freed answer
    exact ⟨removes, length, length ▸ removes.len⟩
  · obtain ⟨reclaims, length⟩ := (CollectedHeap.pass_of_collect collected).reclaims
    exact ⟨reclaims.removes, length, length ▸ reclaims.removes.len, length ▸ reclaims.counted⟩

attribute [local instance] VisitOrder.descending

/-- A ring refers to two objects of which one was released once more than it was held, and
    these are freed with it, as long as its members are visited from the last to the first:
    in the other order a count would go below zero. Then one of a pair is released once too
    often and freed, though the other refers to it, and another ring is captured. To release
    the object with the reference to a freed one frees it alone, and a pass takes the ring. -/
theorem objects_conserved_over_released :
    ∃ (start census : Census) (steps : List (Heap.Call ⊕ Collector.Section)),
      start.play steps = some census ∧ @play .ascending start steps = none ∧
      Run census ∧ census.allocated = 8 ∧ census.freed = 5 ∧
      census.state.heap = ⟨#[none, none, none, none, some ⟨1, #[⟨5⟩]⟩, none, some ⟨1, #[⟨7⟩]⟩,
        some ⟨1, #[⟨6⟩]⟩]⟩ ∧
      (∃ effect, census.state.heap.perform (.release ⟨4⟩) = .ok effect ∧
        effect.response = .freed 1 ∧ census.state.heap.Removes effect.heap effect.freed ∧
        effect.heap.len = 2) ∧
      ∃ o : Outcome (CollectedHeap Heap) Nat, census.state.collect = .ok o ∧ o.answer = 2 ∧
        census.state.heap.Removes o.state.heap o.trace.freed ∧ o.state.heap.len = 1 := by
  let worker : WorkerId := ⟨1, by decide⟩
  let start : Census := create ⟨1, .zero, false⟩ .zero
  let steps : List (Heap.Call ⊕ Collector.Section) :=
    [.inl .allocate, .inl .allocate, .inl .allocate, .inl .allocate, .inl (.link ⟨2⟩ ⟨3⟩),
      .inl (.link ⟨3⟩ ⟨2⟩), .inl (.link ⟨2⟩ ⟨1⟩), .inl (.link ⟨3⟩ ⟨0⟩), .inl (.link ⟨0⟩ ⟨1⟩),
      .inl (.release ⟨0⟩), .inl (.release ⟨1⟩), .inl (.release ⟨2⟩), .inl (.release ⟨3⟩),
      .inl (.release ⟨1⟩), .inl (.releaseGroup [⟨3⟩, ⟨2⟩, ⟨3⟩, ⟨9⟩]), .inl .allocate,
      .inl .allocate, .inl (.link ⟨4⟩ ⟨5⟩), .inl (.release ⟨5⟩), .inl (.release ⟨5⟩),
      .inl .allocate, .inl .allocate, .inl (.link ⟨6⟩ ⟨7⟩), .inl (.link ⟨7⟩ ⟨6⟩),
      .inl (.release ⟨6⟩), .inl (.release ⟨7⟩), .inr (.addWorker worker), .inr .schedule,
      .inr (.arrive worker .zero)]
  let heap : Heap := ⟨#[none, none, none, none, some ⟨1, #[⟨5⟩]⟩, none, some ⟨1, #[⟨7⟩]⟩,
    some ⟨1, #[⟨6⟩]⟩]⟩
  have view : (start.play steps).map (fun census =>
      (census.allocated, census.freed, census.state.heap,
        (census.state.heap.perform (.release ⟨4⟩)).map Heap.Effect.response,
        Except.map Outcome.answer census.state.collect)) =
      some (8, 5, heap, .ok (.freed 1), .ok 2) := by cbv
  have halted : @play .ascending start steps = none := by cbv
  obtain ⟨census, played, eq⟩ := Option.map_eq_some_iff.1 view
  obtain ⟨allocated, freed, left, answer, reclaimed⟩ : _ ∧ _ ∧ _ ∧ _ ∧ _ := by
    simpa only [Prod.mk.injEq] using eq
  have run : Run census := (Run.created _ _).play played
  obtain ⟨-, calls, passes⟩ := run.objects_conserved
  obtain ⟨effect, performed, one⟩ := Attempt.exists_of_map_eq_ok answer
  obtain ⟨o, collected, two⟩ := Attempt.exists_of_map_eq_ok reclaimed
  obtain ⟨removes, -, fewer⟩ := calls _ _ _ performed one
  obtain ⟨removes', -, fewer', -⟩ := passes _ _ collected
  have three : census.state.heap.len = 3 := left ▸ (by cbv : heap.len = 3)
  exact ⟨start, census, steps, played, halted, run, allocated, freed, left,
    ⟨effect, performed, one, removes, by omega⟩, o, collected, two, removes', by omega⟩

end Census

end RefCycle
