import RefCycle.Collector.Operations
/-!
# Interleavings of calls

At the level of the lock, a call is a sequence of sections, each of which runs
without interruption, and any other section may run between two of them. A call
that waits may come to the barrier again at any time, whether it was woken or
not, so every order in which woken calls take the lock is included.

## Main definitions

* `Collector.Section` — the sections of calls, as data.
* `CollectedHeap.run` — runs a section.
* `RefCycle.Floor` — a collector with the register of its workers.
* `Floor.Allows` — the rules that workers keep to.
* `Floor.Interleaving` — any number of allowed sections run, from a new collector on.
* `Floor.play` — runs sections in order.

## Main statements

* `Interleaving.play` — playing sections goes on with an interleaving.

## Design notes

A collector counts workers and does not know them. Rules about workers, such as
that each has at most one call at a rendezvous and stays registered during it,
are therefore stated against the register.
-/

namespace RefCycle

namespace Collector

/-- A section of a call to a collector. All calls but those to a rendezvous have
    one section. -/
inductive Section where
  | addWorker (worker : WorkerId)
  | removeWorker (worker : WorkerId)
  | schedule
  | collect
  /-- A call to a rendezvous arrives, at a given reading of the clock. -/
  | arrive (worker : WorkerId) (now : Instant)
  /-- A call that waits comes to the barrier again. -/
  | resume (worker : WorkerId)
  deriving DecidableEq

/-- The worker whose call to a rendezvous a section is part of. -/
def Section.caller : Section → Option WorkerId
  | .arrive worker _ | .resume worker => some worker
  | .addWorker _ | .removeWorker _ | .schedule | .collect => none

end Collector

namespace CollectedHeap

variable {H : Type} [Reclaimable H]

/-- Runs a section. Answers what happened to the call, if it is one to a rendezvous. -/
def run (s : CollectedHeap H) :
    Collector.Section → Attempt (CollectedHeap H) (Except Misuse (Option Passage))
  | .addWorker worker => Attempt.map (fun _ => .ok none) (.ok (s.addWorker worker))
  | .removeWorker worker => (s.deregister worker).map (Except.map fun _ => none)
  | .schedule => Attempt.map (fun _ => .ok none) (.ok s.schedule)
  | .collect => s.collect.map fun _ => .ok none
  | .arrive worker now => (s.arrive worker now).map (Except.map some)
  | .resume worker => (s.resume worker).map fun passage => .ok (some passage)

end CollectedHeap

/-- A collected heap, and what is known about the workers of its collector. -/
structure Floor (H : Type) where
  state : CollectedHeap H
  register : List WorkerId
  /-- How many episodes there were when the last call of a worker arrived. -/
  since : WorkerId → Nat

namespace Floor

variable {H : Type} [Reclaimable H]

/-- Whether a call of a worker is at the rendezvous. -/
def InRendezvous (floor : Floor H) (worker : WorkerId) : Prop :=
  worker ∈ floor.state.collector.parked

instance (floor : Floor H) (worker : WorkerId) : Decidable (floor.InRendezvous worker) :=
  inferInstanceAs (Decidable (worker ∈ floor.state.collector.parked))

/-- Only registered workers call, each at most once at a time, and nobody is taken
    off the register during a call. To remove a worker from an empty register is
    allowed, though it is a misuse. -/
def Allows (floor : Floor H) : Collector.Section → Prop
  | .removeWorker worker =>
    (worker ∈ floor.register ∨ floor.register = []) ∧
      ∀ other, floor.InRendezvous other → other ∈ floor.register.erase worker
  | .arrive worker _ => worker ∈ floor.register ∧ ¬floor.InRendezvous worker
  | .resume worker => floor.InRendezvous worker
  | .addWorker _ | .schedule | .collect => True

instance (floor : Floor H) (part : Collector.Section) : Decidable (floor.Allows part) :=
  match part with
  | .removeWorker worker =>
    inferInstanceAs (Decidable ((worker ∈ floor.register ∨ floor.register = []) ∧
      ∀ other ∈ floor.state.collector.parked, other ∈ floor.register.erase worker))
  | .arrive worker _ =>
    inferInstanceAs (Decidable (worker ∈ floor.register ∧ ¬floor.InRendezvous worker))
  | .resume worker => inferInstanceAs (Decidable (floor.InRendezvous worker))
  | .addWorker _ | .schedule | .collect => .isTrue trivial

/-- The floor after a section that left a given state. -/
def after (floor : Floor H) (part : Collector.Section) (state : CollectedHeap H) : Floor H where
  state := state
  register :=
    match part with
    | .addWorker worker => worker :: floor.register
    | .removeWorker worker => floor.register.erase worker
    | .schedule | .collect | .arrive _ _ | .resume _ => floor.register
  since :=
    match part with
    | .arrive worker _ => fun other =>
      if other = worker then floor.state.collector.statistics.episodes else floor.since other
    | .addWorker _ | .removeWorker _ | .schedule | .collect | .resume _ => floor.since

/-- A floor comes about from a new collector by any number of sections, between
    which the heap may change in any way. -/
inductive Interleaving : Floor H → Prop where
  | created (heap : H) (config : Config) (now : Instant) :
      Interleaving ⟨(CollectedHeap.create heap config now).state, [], fun _ => 0⟩
  | ran {floor : Floor H}
      {outcome : Outcome (CollectedHeap H) (Except Misuse (Option Passage))}
      (history : Interleaving floor) (part : Collector.Section) (allowed : floor.Allows part)
      (performed : floor.state.run part = .ok outcome) :
      Interleaving (floor.after part outcome.state)
  | mutated {floor : Floor H} (history : Interleaving floor) (heap : H) :
      Interleaving { floor with state := { floor.state with heap } }

/-- Runs sections in order, as long as each is allowed and meets no fault. -/
def play (floor : Floor H) : List Collector.Section → Option (Floor H)
  | [] => some floor
  | part :: parts =>
    if floor.Allows part then
      match floor.state.run part with
      | .error _ => none
      | .ok outcome => (floor.after part outcome.state).play parts
    else none

/-- Playing sections goes on with an interleaving. -/
theorem Interleaving.play {floor next : Floor H} {parts : List Collector.Section}
    (history : Interleaving floor) (played : floor.play parts = some next) :
    Interleaving next := by
  induction parts generalizing floor with
  | nil =>
    cases played
    exact history
  | cons part parts ih =>
    rw [Floor.play] at played
    split at played
    · split at played
      · contradiction
      · exact ih (history.ran part ‹_› ‹_›) played
    · contradiction

end Floor

end RefCycle
