import RefCycle.Collector.Request
/-!
# The installed collector

A program has at most one collector at a time for all of its workers. It is
installed before the first worker registers and uninstalled after the last one
is removed; calls outside of that window are misuse.

## Main definitions

* `RefCycle.Installation` — a heap and the collector which is installed for it,
  if there is one.
* `Installation.install`, `Installation.uninstall` — the two ends of the window.
* `Installation.Request`, `Installation.perform` — a call of any kind: to one end
  of the window, or to the installed collector.

## Design notes

Calls that wait at a rendezvous hold on to their collector. If it is
uninstalled under them, nobody can complete that rendezvous any more, and they
wait for ever; `stranded` lists them.
-/

namespace RefCycle

/-- A heap, and the collector that is installed for it. -/
structure Installation (H : Type) where
  /-- The heap. It stays when the collector goes. -/
  heap : H
  collector : Option Collector
  /-- The workers whose calls wait in collectors that are gone. -/
  stranded : List WorkerId

namespace Installation

variable {H : Type}

def bare (heap : H) : Installation H :=
  ⟨heap, none, []⟩

def isInstalled (s : Installation H) : Bool :=
  s.collector.isSome

def waiting (s : Installation H) : List WorkerId :=
  s.stranded ++ (s.collector.map Collector.parked).getD []

/-- Puts a collected heap in the place of the heap and its collector. -/
def put (s : Installation H) (collected : CollectedHeap H) : Installation H :=
  { s with heap := collected.heap, collector := some collected.collector }

/-- Installs a new collector, unless there is one. -/
def install [Reclaimable H] (s : Installation H) (config : Config) (now : Instant) :
    Outcome (Installation H) (Except Misuse Unit) :=
  match s.collector with
  | some _ => ⟨.error .alreadyInstalled, s, []⟩
  | none =>
    let created := CollectedHeap.create s.heap config now
    ⟨.ok (), s.put created.state, created.trace ++ [.collector .installed]⟩

/-- Uninstalls the collector. That is misuse if workers are still registered, but
    the collector is gone all the same. -/
def uninstall (s : Installation H) : Outcome (Installation H) (Except Misuse Unit) :=
  match s.collector with
  | none => ⟨.error .notInstalled, s, []⟩
  | some collector =>
    let without := { s with collector := none, stranded := s.stranded ++ collector.parked }
    if collector.workers.alive = 0 then
      ⟨.ok (), without, [.collector (.uninstalled collector.statistics)]⟩
    else
      ⟨.error (.workersLeft collector.workers.alive), without, []⟩

/-- A call of any kind. -/
inductive Request where
  | install (config : Config) (now : Instant)
  | uninstall
  | collector (request : Collector.Request)
  deriving DecidableEq

/-- Carries out a request to the installed collector. -/
def forward [Reclaimable H] (s : Installation H) (request : Collector.Request) :
    Attempt (Installation H) (Except Misuse Collector.Response) :=
  match s.collector with
  | none => .done (.error .missingCollector) s
  | some collector =>
    match CollectedHeap.perform ⟨s.heap, collector⟩ request with
    | .error fault => .error fault
    | .ok outcome => .ok ⟨outcome.answer, s.put outcome.state, outcome.trace⟩

def perform [Reclaimable H] (s : Installation H) :
    Request → Attempt (Installation H) (Except Misuse Collector.Response)
  | .install config now => Attempt.map (Except.map fun () => .done) (.ok (s.install config now))
  | .uninstall => Attempt.map (Except.map fun () => .done) (.ok s.uninstall)
  | .collector request => s.forward request

end Installation

end RefCycle
