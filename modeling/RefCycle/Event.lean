import RefCycle.Config
import RefCycle.Heap.Record
import RefCycle.PendingWork
import RefCycle.Statistics
/-!
# Events

What happens during an operation, in order: log records of the collector and of
its heap, and what the collector asked the heap with the answers it got. The
log is the part of the events that are records; the questions are kept so that
statements about a collector can speak of them.

## Main definitions

* `RefCycle.CollectorRecord` — what a collector reports.
* `RefCycle.Consultation` — a question to the heap with its answer.
* `RefCycle.Event`, `RefCycle.Trace` — both, and sequences of them.
* `Event.line` — the log line of a record, with level and target.
-/

namespace RefCycle

/-- How detailed a log record is. -/
inductive Level where
  | debug
  | trace
  deriving DecidableEq

def Level.text : Level → String
  | .debug => "DEBUG"
  | .trace => "TRACE"

/-- An event that a collector reports. -/
inductive CollectorRecord where
  | created (config : Config)
  | firstWorker (worker : WorkerId)
  | added (worker : WorkerId) (alive : Nat)
  | removed (worker : WorkerId) (alive : Nat)
  | scheduled (pending : PendingWork)
  | scanDue (tick : UInt32)
  | spared (worker : WorkerId)
  | waiting (worker : WorkerId) (arrivals alive : Nat)
  | episode (alive : Nat) (pending : PendingWork)
  | captured (candidates : Nat)
  | foundNothing
  | changed (object : ObjectId)
  | collected (candidates confirmed disqualified reclaimed : Nat)
  | installed
  | uninstalled (statistics : Statistics)
  deriving DecidableEq

namespace CollectorRecord

def level : CollectorRecord → Level
  | .created _ | .scheduled _ | .episode _ _ | .captured _ | .foundNothing
  | .collected _ _ _ _ | .installed | .uninstalled _ => .debug
  | .firstWorker _ | .added _ _ | .removed _ _ | .scanDue _ | .spared _ | .waiting _ _ _
  | .changed _ => .trace

def text : CollectorRecord → String
  | .created config => "creating cycle collector with " ++ config.text
  | .firstWorker worker => worker.text ++ " is the first worker"
  | .added worker alive => "added " ++ worker.text ++ ", " ++ toString alive ++ " alive"
  | .removed worker alive => "removed " ++ worker.text ++ ", " ++ toString alive ++ " alive"
  | .scheduled pending => "collection scheduled: " ++ pending.text
  | .scanDue tick => "scan due at tick " ++ toString tick.toNat
  | .spared worker => "leaving pending collection to a worker other than " ++ worker.text
  | .waiting worker arrivals alive =>
    worker.text ++ " waiting at rendezvous (" ++ toString arrivals ++ "/" ++ toString alive ++ ")"
  | .episode alive pending =>
    "rendezvous of " ++ toString alive ++ " worker(s), pending " ++ pending.text
  | .captured candidates => "captured " ++ toString candidates ++ " cycle candidate(s)"
  | .foundNothing => "scan found no cycle candidates"
  | .changed object => object.text ++ " changed since the scan, keeping it"
  | .collected candidates confirmed disqualified reclaimed =>
    "collected " ++ toString candidates ++ " candidate(s): " ++ toString confirmed ++
    " confirmed, " ++ toString disqualified ++ " disqualified, " ++ toString reclaimed ++
    " object(s) reclaimed"
  | .installed => "global cycle collector initialized"
  | .uninstalled statistics =>
    "global cycle collector deinitialized, " ++ statistics.text

end CollectorRecord

/-- A question that a collector asked its heap, with the answer. -/
inductive Consultation where
  | detect (candidates : Option (List ObjectId))
  | count (object : ObjectId) (answer : Option Nat)
  | releaseGroup (group : List ObjectId) (reclaimed : Nat)
  deriving DecidableEq

/-- A question as transcripts name it, such as `release 5,6`. -/
def Consultation.text : Consultation → String
  | .detect _ => "detect"
  | .count object _ => "count " ++ toString object.raw
  | .releaseGroup group _ =>
    "release " ++ ",".intercalate (group.map fun object => toString object.raw)

/-- Something that happened during an operation. -/
inductive Event where
  | heap (record : Heap.Record)
  | collector (record : CollectorRecord)
  | consulted (consultation : Consultation)
  deriving DecidableEq

/-- What happened, in order. -/
abbrev Trace := List Event

namespace Event

def level? : Event → Option Level
  | .heap _ => some .trace
  | .collector record => some record.level
  | .consulted _ => none

def line? : Event → Option String
  | .heap record => some (Level.trace.text ++ " heap: " ++ record.text)
  | .collector record => some (record.level.text ++ " cycles: " ++ record.text)
  | .consulted _ => none

def consultation? : Event → Option Consultation
  | .consulted consultation => some consultation
  | .heap _ | .collector _ => none

def freed? : Event → Option ObjectId
  | .heap record => record.freed?
  | .collector _ | .consulted _ => none

end Event

end RefCycle
