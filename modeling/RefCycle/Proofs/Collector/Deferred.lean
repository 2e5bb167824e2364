import Mathlib
import RefCycle.Proofs.Collector.Quarantine
import RefCycle.Proofs.Collector.Step
import RefCycle.Proofs.Heap.Accounting
/-!
# Deferred collection

A snapshot is taken while all workers are stopped, and consumed at some later
time, when mutators have gone on. If they only got at objects that were in their
reach, they cannot have touched a candidate, and the pass finds all candidates
as they were.

## Main definitions

* `Shared.Sound` — the books are in order, and a pending snapshot is quarantined.

## Main statements

* `Shared.Sound.called`, `Shared.Sound.ran` — calls and sections keep this.
* `Shared.deferred_collection` — a pass reclaims all candidates and nothing in reach.
-/

namespace RefCycle

namespace Shared

variable {shared : Shared} {call : Heap.Call} {effect : Heap.Effect} {part : Collector.Section}
  {snapshot : Snapshot}

/-- The books are in order, a pending snapshot is quarantined, and the calls that
    wait are counted. -/
structure Sound (shared : Shared) : Prop where
  ledger : shared.ledger.Sound
  quarantined : ∀ snapshot, shared.collector.snapshot = some snapshot →
    snapshot.Quarantined shared.ledger.heap shared.ledger.held
  fits : shared.collector.parked.length ≤ shared.collector.arrivals

theorem Sound.guarded (sound : shared.Sound) : shared.state.Guarded shared.ledger.held :=
  ⟨sound.ledger.balanced, sound.ledger.referenced, sound.quarantined⟩

/-- What is in reach is no candidate. So a call that names only what is in reach
    leaves the candidates as they are. -/
theorem Sound.called {order : VisitOrder} (sound : shared.Sound) (allowed : shared.Allows call)
    (performed : shared.ledger.heap.perform call = .ok effect) :
    (shared.afterCall call effect).Sound := by
  have turns := Heap.turns_of_perform performed
  refine ⟨sound.ledger.turns allowed.1 turns, fun snapshot pending => ?_, sound.fits⟩
  have quarantined := sound.quarantined snapshot pending
  have waits : shared.collector.snapshot ≠ none := fun missing => nomatch missing.symm.trans pending
  have away : ∀ p ∈ call.names, p ∉ snapshot.roots := fun p mem =>
    quarantined.enclosed.not_reachable (allowed.2 waits p mem)
  refine ⟨quarantined.nodup, quarantined.enclosed.perform away performed, ?_⟩
  intro entry mem
  have root : entry.1 ∈ snapshot.roots := List.mem_map_of_mem mem
  have same := turns.frame quarantined.enclosed away entry.1 root
  show effect.heap.refCount? entry.1 = _
  rw [Heap.refCount?, same]
  exact quarantined.captured entry mem

theorem Sound.run_serves [VisitOrder] (sound : shared.Sound) (enabled : shared.Enabled part) :
    (shared.state.run part).Ensures CollectedHeap.Overflow
      (CollectedHeap.Serves shared.ledger.held shared.state ·.state) := by
  apply CollectedHeap.run_serves sound.guarded part
  intro worker eq
  exact Nat.lt_of_lt_of_le (List.length_pos_of_mem (enabled worker eq)) sound.fits

theorem Sound.ran {order : VisitOrder}
    {outcome : Outcome (CollectedHeap Heap) (Except Misuse (Option Passage))}
    (sound : shared.Sound) (enabled : shared.Enabled part)
    (performed : shared.state.run part = .ok outcome) :
    (shared.afterSection outcome.state).Sound := by
  have served := (sound.run_serves enabled).of_ok performed
  have counted := (CollectedHeap.turns_of_run performed).arrivals enabled
    (Nat.add_sub_of_le sound.fits).symm
  refine ⟨?_, served.guarded.quarantined, Nat.le.intro counted.symm⟩
  exact sound.ledger.of_fewer served.less.size (fun _ => le_rfl) served.less.inDegree_le
    served.guarded.balanced served.guarded.referenced

theorem Run.sound (run : Run shared) : shared.Sound := by
  induction run with
  | created history config now =>
    exact ⟨history.sound, fun _ pending => (nomatch pending), Nat.le_refl 0⟩
  | called run call allowed performed ih => exact ih.called allowed performed
  | ran run part enabled performed ih => exact ih.ran enabled performed

/-- Deferred collection is sound and complete for mutators that cannot reach garbage.

    While a snapshot is pending, any section leaves the heap and the snapshot alone,
    or consumes the snapshot in one pass: it finds each candidate with its captured
    count, reclaims all of them, and spares what is in reach. To collect and to
    remove a worker always does the latter. -/
theorem deferred_collection [VisitOrder] (run : Run shared)
    (pending : shared.collector.snapshot = some snapshot) (enabled : shared.Enabled part) :
    (∀ fault, shared.state.run part = .error fault → fault = .statisticsOverflow) ∧
    ∀ outcome, shared.state.run part = .ok outcome →
      (shared.state.Quiet outcome.state ∨
        shared.state.Passed shared.ledger.held snapshot outcome.state) ∧
      ((part = .collect ∨ ∃ worker, part = .removeWorker worker) →
        shared.state.Passed shared.ledger.held snapshot outcome.state) := by
  have sound := run.sound
  have served := sound.run_serves enabled
  refine ⟨fun fault failed => served.of_error failed, fun outcome performed => ⟨?_, fun takes => ?_⟩⟩
  · refine (served.of_ok performed).passed.imp_right fun ⟨other, same, passed⟩ => ?_
    obtain rfl := Option.some.inj (pending.symm.trans same)
    exact passed
  · have consumed := (CollectedHeap.run_consumes sound.guarded takes).of_ok performed
    exact consumed.passed snapshot pending

attribute [local instance] VisitOrder.ascending

/-- An orphaned pair is captured. Then a mutator retains the object that it holds,
    and the pass frees the pair and spares that object. -/
theorem deferred_collection_orphaned_pair :
    ∃ shared : Shared, Run shared ∧ shared.ledger.held ⟨2⟩ = 2 ∧
      shared.collector.snapshot.map Snapshot.entries = some [(⟨0⟩, 1), (⟨1⟩, 1)] ∧
      ∃ outcome, shared.state.run .collect = .ok outcome ∧
        ¬outcome.state.heap.contains ⟨0⟩ ∧ ¬outcome.state.heap.contains ⟨1⟩ ∧
        outcome.state.heap.contains ⟨2⟩ := by
  let calls : List Heap.Call :=
    [.allocate, .allocate, .allocate, .link ⟨0⟩ ⟨1⟩, .link ⟨1⟩ ⟨0⟩, .release ⟨0⟩, .release ⟨1⟩]
  let worker : WorkerId := ⟨1, by decide⟩
  let parts : List Collector.Section := [.addWorker worker, .schedule, .arrive worker .zero]
  let pair : Heap := ⟨#[some ⟨1, #[⟨1⟩]⟩, some ⟨1, #[⟨0⟩]⟩, some ⟨1, #[]⟩]⟩
  let retained : Heap.Effect := ⟨.done, pair.setCount ⟨2⟩ 2, []⟩
  have view : ((Heap.Ledger.empty.play calls).bind fun ledger =>
      (Shared.mk ledger (.create .default .zero)).play parts).map (fun shared =>
        (shared.ledger.heap, shared.ledger.held ⟨2⟩,
          shared.collector.snapshot.map Snapshot.entries,
          ((shared.afterCall (.retain ⟨2⟩) retained).state.run .collect).toBool)) =
      some (pair, 1, some [(⟨0⟩, 1), (⟨1⟩, 1)], true) := by cbv
  obtain ⟨shared, played, eq⟩ := Option.map_eq_some_iff.1 view
  obtain ⟨ledger, called, ran⟩ := Option.bind_eq_some_iff.1 played
  obtain ⟨heap, holds, entries, carried⟩ : _ ∧ _ ∧ _ ∧ _ := by
    simpa only [Prod.mk.injEq] using eq
  have run := (Run.created (Heap.Ledger.Disciplined.empty.play called) .default .zero).play ran
  have reach : shared.InReach ⟨2⟩ := by
    refine .root ?_ (holds ▸ Nat.one_pos)
    rw [heap]
    rfl
  have performed : shared.ledger.heap.perform (.retain ⟨2⟩) = .ok retained := by
    rw [heap]
    rfl
  have later := run.called (.retain ⟨2⟩) ⟨trivial, fun _ => by simpa [Heap.Call.names]⟩ performed
  have twice : (shared.afterCall (.retain ⟨2⟩) retained).ledger.held ⟨2⟩ = 2 := by
    show shared.ledger.held ⟨2⟩ + 1 = 2
    rw [holds]
  obtain ⟨snapshot, pending, captured⟩ := Option.map_eq_some_iff.1 entries
  have enabled : (shared.afterCall (.retain ⟨2⟩) retained).Enabled .collect := by
    intro worker eq
    cases eq
  obtain ⟨-, passes⟩ := deferred_collection later pending enabled
  refine ⟨_, later, twice, entries, ?_⟩
  cases collected : (shared.afterCall (.retain ⟨2⟩) retained).state.run .collect with
  | error fault => simp [collected, Except.toBool] at carried
  | ok outcome =>
    have passed := (passes outcome collected).2 (.inl rfl)
    have roots : snapshot.roots = [⟨0⟩, ⟨1⟩] := by
      rw [Snapshot.roots, captured]
      rfl
    refine ⟨outcome, rfl, passed.freed _ (by simp [roots]), passed.freed _ (by simp [roots]), ?_⟩
    exact (passed.spared ⟨2⟩ (.root rfl (Nat.lt_of_lt_of_eq Nat.two_pos twice.symm))).1

end Shared

end RefCycle
