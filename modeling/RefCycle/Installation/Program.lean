import Mathlib.Logic.Function.Basic
import RefCycle.Installation
/-!
# Programs with several heaps

A program may install a collector for one of its heaps, uninstall it, and install
another one for the same heap or for a different one. Calls that waited when a collector
was uninstalled stay in it. The program goes on after misuse and also after faults.

Beside it stands a collector that is called by its owner.

## Main definitions

* `RefCycle.Program` — heaps, the installed collector, and those that are gone.
* `Program.perform` — a call of any kind, by way of `Installation.perform`.
* `Program.play` — calls in order, while heaps change and calls that wait are woken.
* `RefCycle.Owned` — heaps, and a collector for one of them that is not installed.
* `Owned.play` — the same for its owner, who has no use for the ends of a window.
* `Program.unseen` — the steps of a program for one who does not see the collectors that
  are gone.

## Design notes

What a fault leaves of a heap and its collector is not known here. It is some function
of what there was before, and everything is said for any such function.
-/

namespace RefCycle

/-- What faults leave of a heap and its collector. -/
structure Wreckage (H : Type) where
  /-- After a request that met a fault. -/
  request : CollectedHeap H → Collector.Request → CollectedHeap H
  /-- After a call that waited came to the barrier and met a fault. -/
  resume : CollectedHeap H → WorkerId → CollectedHeap H

/-- A program with its heaps. -/
structure Program (ι H : Type) where
  heaps : ι → H
  /-- The place of the heap for which a collector was last installed. -/
  site : ι
  /-- The collector that is installed. -/
  collector : Option Collector
  /-- The collectors that were uninstalled, each with the place of its heap. -/
  retired : List (ι × Collector)

/-- Heaps, and a collector for one of them that is called by its owner. -/
structure Owned (ι H : Type) where
  heaps : ι → H
  site : ι
  collector : Collector

namespace Program

/-- What any collector can be asked. -/
inductive Errand where
  | request (request : Collector.Request)
  | statistics
  deriving DecidableEq

/-- A call that concerns the installed collector. -/
inductive Call (ι : Type) where
  /-- Install a collector for the heap in a place. -/
  | install (site : ι) (config : Config) (now : Instant)
  | uninstall
  | isInstalled
  | errand (errand : Errand)
  deriving DecidableEq

inductive Answer where
  | response (response : Collector.Response)
  | flag (installed : Bool)
  | statistics (statistics : Statistics)
  deriving DecidableEq

/-- Why a call did not return. -/
inductive Panic where
  | misused (misuse : Misuse)
  | halted (fault : Fault)
  deriving DecidableEq

abbrev Reply := Except Panic Answer

def Reply.ofResponse : Except Misuse Collector.Response → Reply
  | .error misuse => .error (.misused misuse)
  | .ok response => .ok (.response response)

/-- A call that was made, with its reply and what it reported. -/
structure Entry (κ : Type) where
  call : κ
  reply : Reply
  trace : Trace

/-- What happens to a program. -/
inductive Step (ι H : Type) where
  | call (call : Call ι)
  /-- The heaps change in any way. -/
  | mutate (act : (ι → H) → ι → H)
  /-- A call that waits in a collector that is gone comes to the barrier again. -/
  | stir (index : Nat) (worker : WorkerId)

/-- Takes steps in order, and puts together what they answer. -/
def chain {σ τ α : Type} (step : σ → τ → List α × σ) (s : σ) : List τ → List α × σ
  | [] => ([], s)
  | t :: ts =>
    let rest := chain step (step s t).2 ts
    ((step s t).1 ++ rest.1, rest.2)

/-- A program that has not installed a collector yet. -/
def bare {ι H : Type} (heaps : ι → H) (site : ι) : Program ι H :=
  ⟨heaps, site, none, []⟩

/-- The heap for which there is a collector, or was one, as an installation. -/
def installation {ι H : Type} (p : Program ι H) : Installation H where
  heap := p.heaps p.site
  collector := p.collector
  stranded := p.retired.flatMap fun r => r.2.parked

variable {ι H : Type} [DecidableEq ι]

/-- Goes on with an installation. If its collector is gone, it is kept for those that
    wait in it. -/
def goOn (p : Program ι H) (s : Installation H) : Program ι H where
  heaps := Function.update p.heaps p.site s.heap
  site := p.site
  collector := s.collector
  retired := p.retired ++
    match p.collector, s.collector with
    | some collector, none => [(p.site, collector)]
    | _, _ => []

/-- Goes on after a request that met a fault. -/
def wrecked (wreckage : Wreckage H) (p : Program ι H) : Installation.Request → Program ι H
  | .collector request =>
    match p.collector with
    | none => p
    | some collector =>
      p.goOn (p.installation.put (wreckage.request ⟨p.heaps p.site, collector⟩ request))
  | .install _ _ | .uninstall => p

variable [Reclaimable H]

/-- Makes a request to the installation. -/
def ask (wreckage : Wreckage H) (p : Program ι H) (request : Installation.Request) :
    Outcome (Program ι H) Reply :=
  match p.installation.perform request with
  | .error fault => ⟨.error (.halted fault), p.wrecked wreckage request, []⟩
  | .ok outcome => ⟨.ofResponse outcome.answer, p.goOn outcome.state, outcome.trace⟩

/-- Carries out a call. A collector is installed for any of the heaps, if there is none. -/
def perform (wreckage : Wreckage H) (p : Program ι H) : Call ι → Outcome (Program ι H) Reply
  | .install site config now =>
    let aimed := if p.installation.isInstalled then p else { p with site }
    aimed.ask wreckage (.install config now)
  | .uninstall => p.ask wreckage .uninstall
  | .isInstalled => ⟨.ok (.flag p.installation.isInstalled), p, []⟩
  | .errand (.request request) => p.ask wreckage (.collector request)
  | .errand .statistics =>
    match p.collector with
    | none => ⟨.error (.misused .missingCollector), p, []⟩
    | some collector => ⟨.ok (.statistics collector.statistics), p, []⟩

/-- Puts a heap and a collector that is gone in their places. -/
def putBack (p : Program ι H) (index : Nat) (site : ι) (s : CollectedHeap H) : Program ι H :=
  { p with
    heaps := Function.update p.heaps site s.heap
    retired := p.retired.set index (site, s.collector) }

/-- The call of a worker comes to the barrier again, if it waits in a collector that is
    gone. -/
def stir (wreckage : Wreckage H) (p : Program ι H) (index : Nat) (worker : WorkerId) :
    Program ι H :=
  match p.retired[index]? with
  | none => p
  | some (site, collector) =>
    let s : CollectedHeap H := ⟨p.heaps site, collector⟩
    if worker ∈ collector.parked then
      match s.resume worker with
      | .error _ => p.putBack index site (wreckage.resume s worker)
      | .ok outcome => p.putBack index site outcome.state
    else p

/-- Takes a step, and answers the call that was made. -/
def step (wreckage : Wreckage H) (p : Program ι H) :
    Step ι H → List (Entry (Call ι)) × Program ι H
  | .call call =>
    let outcome := p.perform wreckage call
    ([⟨call, outcome.answer, outcome.trace⟩], outcome.state)
  | .mutate act => ([], { p with heaps := act p.heaps })
  | .stir index worker => ([], p.stir wreckage index worker)

/-- Takes steps in order, and answers the calls that were made. -/
def play (wreckage : Wreckage H) (p : Program ι H) (steps : List (Step ι H)) :
    List (Entry (Call ι)) × Program ι H :=
  chain (step wreckage) p steps

/-- A step for one who does not see the collectors that are gone. What a call that waits
    in one of them does to the heaps is something that happens to the heaps. -/
def unseenStep (wreckage : Wreckage H) (p : Program ι H) : Step ι H → Step ι H
  | .stir index worker => .mutate fun _ => (p.stir wreckage index worker).heaps
  | .call call => .call call
  | .mutate act => .mutate act

/-- The steps of a program for one who does not see the collectors that are gone. -/
def unseen (wreckage : Wreckage H) (p : Program ι H) : List (Step ι H) → List (Step ι H)
  | [] => []
  | step :: steps => p.unseenStep wreckage step :: (p.step wreckage step).2.unseen wreckage steps

end Program

namespace Owned

variable {ι H : Type} [DecidableEq ι]

/-- The heap and its collector. -/
def collected (o : Owned ι H) : CollectedHeap H :=
  ⟨o.heaps o.site, o.collector⟩

def put (o : Owned ι H) (s : CollectedHeap H) : Owned ι H :=
  { o with heaps := Function.update o.heaps o.site s.heap, collector := s.collector }

/-- The program that has installed the collector, when others are gone. -/
def installed (o : Owned ι H) (retired : List (ι × Collector)) : Program ι H :=
  ⟨o.heaps, o.site, some o.collector, retired⟩

variable [Reclaimable H]

/-- A new collector for one of the heaps. -/
def create (heaps : ι → H) (site : ι) (config : Config) (now : Instant) : Owned ι H :=
  ⟨heaps, site, (CollectedHeap.create (heaps site) config now).state.collector⟩

def perform (wreckage : Wreckage H) (o : Owned ι H) :
    Program.Errand → Outcome (Owned ι H) Program.Reply
  | .request request =>
    match o.collected.perform request with
    | .error fault => ⟨.error (.halted fault), o.put (wreckage.request o.collected request), []⟩
    | .ok outcome => ⟨.ofResponse outcome.answer, o.put outcome.state, outcome.trace⟩
  | .statistics => ⟨.ok (.statistics o.collector.statistics), o, []⟩

/-- Takes a step, and answers the errand that was done. Calls that have to do with windows
    are not for a collector, and there are no others that are gone. -/
def step (wreckage : Wreckage H) (o : Owned ι H) :
    Program.Step ι H → List (Program.Entry Program.Errand) × Owned ι H
  | .call (.errand errand) =>
    let outcome := o.perform wreckage errand
    ([⟨errand, outcome.answer, outcome.trace⟩], outcome.state)
  | .mutate act => ([], { o with heaps := act o.heaps })
  | .call (.install ..) | .call .uninstall | .call .isInstalled | .stir .. => ([], o)

def play (wreckage : Wreckage H) (o : Owned ι H) (steps : List (Program.Step ι H)) :
    List (Program.Entry Program.Errand) × Owned ι H :=
  Program.chain (step wreckage) o steps

end Owned

end RefCycle
