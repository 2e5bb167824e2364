import RefCycle.Event
import RefCycle.Fault
/-!
# Outcomes of operations

An operation of a collector either meets a fault, which ends the run, or leaves
an answer, a new state and the events that happened on the way.

## Main definitions

* `RefCycle.Outcome` — answer, state and trace.
* `RefCycle.Attempt` — an outcome or a fault.
* `Attempt.andThen` — one operation after another, with one trace.

## Main statements

* `Attempt.andThen_eq_ok_iff` — a sequence succeeds if both parts do.
-/

namespace RefCycle

/-- What an operation leaves behind. -/
structure Outcome (σ α : Type) where
  answer : α
  state : σ
  trace : Trace

/-- An operation that may meet a fault. -/
abbrev Attempt (σ α : Type) := Except Fault (Outcome σ α)

namespace Attempt

variable {σ α β : Type}

/-- Nothing happens, and the answer is known. -/
def done (answer : α) (state : σ) : Attempt σ α :=
  .ok ⟨answer, state, []⟩

/-- Goes on from the state and the answer that an operation left. -/
def andThen (first : Attempt σ α) (next : α → σ → Attempt σ β) : Attempt σ β :=
  match first with
  | .error fault => .error fault
  | .ok a =>
    match next a.answer a.state with
    | .error fault => .error fault
    | .ok b => .ok ⟨b.answer, b.state, a.trace ++ b.trace⟩

def map (f : α → β) (first : Attempt σ α) : Attempt σ β :=
  match first with
  | .error fault => .error fault
  | .ok a => .ok ⟨f a.answer, a.state, a.trace⟩

/-- A sequence of two operations succeeds if each does where it starts. -/
theorem andThen_eq_ok_iff {first : Attempt σ α} {next : α → σ → Attempt σ β} {r : Outcome σ β} :
    first.andThen next = .ok r ↔
      ∃ a b, first = .ok a ∧ next a.answer a.state = .ok b ∧
        r = ⟨b.answer, b.state, a.trace ++ b.trace⟩ := by
  constructor
  · intro h
    cases first with
    | error => contradiction
    | ok a =>
      simp only [andThen] at h
      split at h
      · contradiction
      · exact ⟨a, _, rfl, ‹_›, (Except.ok.inj h).symm⟩
  · rintro ⟨a, b, rfl, hb, rfl⟩
    simp only [andThen, hb]

/-- Changing the answer does not change whether an operation succeeds. -/
theorem map_eq_ok_iff {f : α → β} {first : Attempt σ α} {r : Outcome σ β} :
    first.map f = .ok r ↔ ∃ a, first = .ok a ∧ r = ⟨f a.answer, a.state, a.trace⟩ := by
  cases first <;> simp [map, eq_comm]

end Attempt

end RefCycle
