import RefCycle.Heap.Call
import RefCycle.Session.Bench
import RefCycle.Session.Command
/-!
# Sessions

A session carries out commands one after the other: on a heap, on the collector
that is installed for it, and on snapshots that were taken by hand. A command
which names an object or a worker by zero calls nothing.

## Main definitions

* `RefCycle.Session` — the state between commands.
* `Session.perform` — carries out one command.

## Design notes

The clock of a session is only read by safepoints. It moves by one nanosecond
from each of them to the next, so any time has passed between two safepoints
but never much of it.
-/

namespace RefCycle

/-- The state of a session. -/
structure Session where
  installation : Installation Bench
  /-- The snapshots taken by hand; an attempt that captured nothing has a place, too. -/
  snapshots : Array (Option Snapshot)
  clock : Instant

/-- What a command leads to. -/
structure Answer where
  reply : Reply
  released : List WorkerId

namespace Session

def bare : Session where
  installation := .bare (.fresh false)
  snapshots := #[]
  clock := .zero

/-- A session with a collector that nobody installed. -/
def withCollector [VisitOrder] (scripted : Bool) (config : Config) : Outcome Session Unit :=
  let created := CollectedHeap.create (Bench.fresh scripted) config .zero
  { answer := ()
    state := { bare with installation := bare.installation.put created.state }
    trace := created.trace }

def bench (s : Session) : Bench :=
  s.installation.heap

def setBench (s : Session) (bench : Bench) : Session :=
  { s with installation := { s.installation with heap := bench } }

def setCounted (s : Session) (counted : Heap) : Session :=
  s.setBench { s.bench with counted }

/-- A reply without consequences. -/
def reply (s : Session) (reply : Reply) : Attempt Session Answer :=
  .done ⟨reply, []⟩ s

/-- Goes on with the object that a raw value names. -/
def withObject (s : Session) (raw : Nat) (next : ObjectId → Attempt Session Answer) :
    Attempt Session Answer :=
  match ObjectId.ofRaw? raw with
  | some object => next object
  | none => s.reply .null

/-- Goes on with the objects that raw values name. -/
def withObjects (s : Session) (raws : List Nat) (next : List ObjectId → Attempt Session Answer) :
    Attempt Session Answer :=
  match raws.mapM ObjectId.ofRaw? with
  | some objects => next objects
  | none => s.reply .null

/-- Goes on with the worker that a raw value names. -/
def withWorker (s : Session) (raw : Nat) (next : WorkerId → Attempt Session Answer) :
    Attempt Session Answer :=
  match WorkerId.ofRaw? raw with
  | some worker => next worker
  | none => s.reply .null

/-! ### Mutators -/

/-- The reply to an answer of the reference-counted heap. -/
def replyOfHeap : Heap.Response → Reply
  | .done => .done
  | .allocated object => .object object
  | .freed count => .number count
  | .candidates objects => .objects? objects
  | .refused refusal => .refused refusal

/-- Makes a call to the reference-counted heap. -/
def mutate [VisitOrder] (s : Session) (call : Heap.Call) : Attempt Session Answer :=
  match s.bench.counted.perform call with
  | .error fault => .error fault
  | .ok effect =>
    .ok ⟨⟨replyOfHeap effect.response, []⟩, s.setCounted effect.heap,
      effect.records.map .heap⟩

def build (s : Session) (shape : Heap.Shape) (size keep : Nat) : Attempt Session Answer :=
  match s.bench.counted.build shape size keep with
  | .error (.halted fault) => .error fault
  | .error (.refused refusal) => s.reply (.refused refusal)
  | .ok built =>
    .ok ⟨⟨.span built.first built.last, []⟩, s.setCounted built.heap, built.records.map .heap⟩

def references (s : Session) (object : ObjectId) : Attempt Session Answer :=
  match s.bench.counted.references object with
  | .error refusal => s.reply (.refused refusal)
  | .ok objects => s.reply (.objects objects)

/-! ### Questions to the selected heap -/

def count [VisitOrder] (s : Session) (object : ObjectId) : Attempt Session Answer :=
  .ok ⟨⟨.number? (Reclaimable.refCount? s.bench object), []⟩, s,
    [CollectedHeap.countOf s.bench object]⟩

def detect [VisitOrder] (s : Session) : Attempt Session Answer :=
  let detection := Reclaimable.detect s.bench
  .ok ⟨⟨.objects? detection.candidates, []⟩, s,
    .consulted (.detect detection.candidates) :: detection.records.map .heap⟩

def releaseGroup [VisitOrder] (s : Session) (group : List ObjectId) : Attempt Session Answer :=
  match Reclaimable.releaseGroup s.bench group with
  | .error fault => .error fault
  | .ok release =>
    .ok ⟨⟨.number release.reclaimed, []⟩, s.setBench release.heap,
      .consulted (.releaseGroup group release.reclaimed) :: release.records.map .heap⟩

/-- Takes a snapshot by hand. -/
def capture [VisitOrder] (s : Session) (group : List ObjectId) : Attempt Session Answer :=
  let snapshot? := Snapshot.capture (Reclaimable.refCount? s.bench) group
  .ok ⟨⟨.snapshot? snapshot?, []⟩, { s with snapshots := s.snapshots.push snapshot? },
    group.map (CollectedHeap.countOf s.bench)⟩

/-- Compares a snapshot that was taken by hand. -/
def trial [VisitOrder] (s : Session) (slot : Nat) : Attempt Session Answer :=
  match s.snapshots[slot]?.join with
  | none => s.reply (.trial? none)
  | some snapshot =>
    .ok ⟨⟨.trial? (snapshot.trialDelete (Reclaimable.refCount? s.bench)), []⟩, s,
      snapshot.roots.map (CollectedHeap.countOf s.bench)⟩

/-- Changes the script of the scripted heap. -/
def rescript (s : Session) (f : ScriptedHeap → ScriptedHeap) : Attempt Session Answer :=
  (s.setBench { s.bench with scripted := s.bench.scripted.map f }).reply .done

/-! ### The collector -/

/-- The answer to a call that a collector answered. -/
def answerOf : Except Misuse Collector.Response → Answer
  | .error misuse => ⟨.misuse misuse, []⟩
  | .ok .done => ⟨.done, []⟩
  | .ok (.removed released) => ⟨.done, released⟩
  | .ok (.reclaimed count) => ⟨.number count, []⟩
  | .ok (.rendezvous r) => ⟨.passage r.passage, r.released⟩

/-- Makes a call to the installed collector, or to one end of its window. -/
def call [VisitOrder] (s : Session) (request : Installation.Request) : Attempt Session Answer :=
  match s.installation.perform request with
  | .error fault => .error fault
  | .ok outcome =>
    .ok ⟨answerOf outcome.answer, { s with installation := outcome.state }, outcome.trace⟩

def look (s : Session) (answer : Collector → Reply) : Attempt Session Answer :=
  match s.installation.collector with
  | none => s.reply (.misuse .missingCollector)
  | some collector => s.reply (answer collector)

/-- Moves the clock. It stops at the last instant. -/
def moveClock (s : Session) : Session :=
  match s.clock.after? .nanosecond with
  | .ok clock => { s with clock }
  | .error _ => s

/-- Lets a worker come to one safepoint. -/
def safepoint [VisitOrder] (s : Session) (worker : WorkerId) : Attempt Session Answer :=
  let moved := s.moveClock
  moved.call (.collector (.rendezvous worker moved.clock))

def hasReturned : Reply → Bool
  | .passage .passed => true
  | .passage .completed => true
  | _ => false

/-- Lets a worker come to safepoints until a call does not return. -/
def safepoints [VisitOrder] (worker : WorkerId) : Nat → Session → Attempt Session Answer
  | 0, s => s.reply (.passage .passed)
  | 1, s => s.safepoint worker
  | times + 2, s =>
    (s.safepoint worker).andThen fun answer s =>
      if hasReturned answer.reply then
        (safepoints worker (times + 1) s).map fun last =>
          { last with released := answer.released ++ last.released }
      else
        .done answer s

/-- Installs a collector. Where none is installed, its heap is a fresh one. -/
def install [VisitOrder] (s : Session) (scripted : Bool) (config : Config) :
    Attempt Session Answer :=
  let prepared := if s.installation.isInstalled then s else s.setBench (.fresh scripted)
  prepared.call (.install config prepared.clock)

/-- The count of an object in the heap of the installed collector. Without a
    collector, it does not matter whether the raw value names an object. -/
def countInHeap [VisitOrder] (s : Session) (raw : Nat) : Attempt Session Answer :=
  if s.installation.isInstalled then s.withObject raw s.count
  else s.reply (.misuse .missingCollector)

def perform [VisitOrder] (s : Session) : Command → Attempt Session Answer
  | .allocate => s.mutate .allocate
  | .build shape size keep => s.build shape size keep
  | .retain object => s.withObject object fun o => s.mutate (.retain o)
  | .release object => s.withObject object fun o => s.mutate (.release o)
  | .link source target =>
    s.withObject source fun a => s.withObject target fun b => s.mutate (.link a b)
  | .unlink source target =>
    s.withObject source fun a => s.withObject target fun b => s.mutate (.unlink a b)
  | .contains object => s.withObject object fun o => s.reply (.flag (s.bench.counted.contains o))
  | .references object => s.withObject object s.references
  | .len => s.reply (.len s.bench.counted.len)
  | .count object => s.withObject object s.count
  | .detect => s.detect
  | .releaseGroup group => s.withObjects group s.releaseGroup
  | .capture group => s.withObjects group s.capture
  | .trial slot => s.trial slot
  | .setCandidates none => s.rescript fun script => { script with candidates := none }
  | .setCandidates (some group) =>
    s.withObjects group fun objects =>
      s.rescript fun script => { script with candidates := some objects }
  | .setCount object count =>
    s.withObject object fun o => s.rescript fun script => script.setCount o count
  | .setResult result => s.rescript fun script => { script with result }
  | .addWorker worker => s.withWorker worker fun w => s.call (.collector (.addWorker w))
  | .removeWorker worker => s.withWorker worker fun w => s.call (.collector (.removeWorker w))
  | .schedule => s.call (.collector .schedule)
  | .collect => s.call (.collector .collect)
  | .rendezvous worker times => s.withWorker worker fun w => safepoints w times s
  | .statistics => s.look fun collector => .statistics collector.statistics
  | .config => s.look fun collector => .config collector.config
  | .countInHeap object => s.countInHeap object
  | .install scripted config => s.install scripted config
  | .uninstall => s.call .uninstall
  | .isInstalled => s.reply (.flag s.installation.isInstalled)

end Session

end RefCycle
