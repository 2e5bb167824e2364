import RefCycle.Session.Basic
/-!
# Histories of a session

## Main definitions

* `Session.Later` — one session comes about from another by commands.
* `Session.carryOut` — carries out commands and keeps the last state.

## Main statements

* `Later.carryOut` — carrying out commands goes on with a history.
-/

namespace RefCycle.Session

/-- A session comes about from another by a number of commands. -/
inductive Later (s : Session) : Session → Prop where
  | refl : Later s s
  | step [VisitOrder] {t : Session} {outcome : Outcome Session Answer} (history : Later s t)
      (command : Command) (performed : t.perform command = .ok outcome) : Later s outcome.state

/-- Carries out commands in order, as long as they meet no fault. -/
def carryOut [VisitOrder] (s : Session) : List Command → Option Session
  | [] => some s
  | command :: commands =>
    match s.perform command with
    | .error _ => none
    | .ok outcome => outcome.state.carryOut commands

/-- Carrying out commands goes on with a history. -/
theorem Later.carryOut {order : VisitOrder} {s t u : Session} {commands : List Command}
    (history : s.Later t) (done : t.carryOut commands = some u) : s.Later u := by
  induction commands generalizing t with
  | nil =>
    cases done
    exact history
  | cons command commands ih =>
    rw [Session.carryOut] at done
    split at done
    · contradiction
    · exact ih (history.step command ‹_›) done

end RefCycle.Session
