import RefCycle.Session.Basic
/-!
# Performing sessions

A session is performed command after command, until there are no more or one of them meets
a fault. It may visit the objects of sets in any order; if none is given, in order of age.

## Main definitions

* `Session.Report` — what is known after a command.
* `Session.performAll` — carries out commands until one meets a fault.
* The instance of `RefCycle.VisitOrder` for those who do not give one.
-/

namespace RefCycle.Session

/-- What is known after a command. -/
inductive Report where
  | performed (outcome : Outcome Session Answer)
  | halted (fault : Fault)

/-- Carries out commands in order. A fault ends the session. -/
def performAll [VisitOrder] (s : Session) : List Command → List Report
  | [] => []
  | command :: commands =>
    match s.perform command with
    | .error fault => [.halted fault]
    | .ok outcome => .performed outcome :: outcome.state.performAll commands

instance : VisitOrder :=
  .ascending

end RefCycle.Session
