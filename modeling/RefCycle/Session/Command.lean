import RefCycle.Heap.Shape
import RefCycle.Installation
/-!
# Commands and replies

## Main definitions

* `RefCycle.Command` — what a session can be told to do. Objects and workers are
  named by raw values, which may turn out to name nothing.
* `RefCycle.Reply` — what a session answers.
-/

namespace RefCycle

/-- What a session can be told to do. -/
inductive Command where
  | allocate
  /-- Build a graph of a shape, and hold the first few of its objects. -/
  | build (shape : Heap.Shape) (size keep : Nat)
  | retain (object : Nat)
  | release (object : Nat)
  | link (source target : Nat)
  | unlink (source target : Nat)
  | contains (object : Nat)
  | references (object : Nat)
  | len
  | count (object : Nat)
  | detect
  | releaseGroup (group : List Nat)
  | capture (group : List Nat)
  | trial (slot : Nat)
  | setCandidates (group : Option (List Nat))
  | setCount (object : Nat) (count : Option Nat)
  | setResult (result : Option Nat)
  | addWorker (worker : Nat)
  | removeWorker (worker : Nat)
  | schedule
  | collect
  /-- Let a worker come to so many safepoints, as long as it does not wait. -/
  | rendezvous (worker times : Nat)
  | statistics
  | config
  | countInHeap (object : Nat)
  | install (scripted : Bool) (config : Config)
  | uninstall
  | isInstalled

/-- What a session answers. -/
inductive Reply where
  | done
  | flag (value : Bool)
  | number (value : Nat)
  | number? (value : Option Nat)
  | object (object : ObjectId)
  | span (first last : ObjectId)
  | objects (objects : List ObjectId)
  /-- These objects, or none worth a list. -/
  | objects? (objects : Option (List ObjectId))
  | len (count : Nat)
  | snapshot? (snapshot : Option Snapshot)
  | trial? (trial : Option TrialDeletion)
  | passage (passage : Passage)
  | statistics (statistics : Statistics)
  | config (config : Config)
  /-- A raw value that was given names nothing. -/
  | null
  | refused (refusal : Heap.Refusal)
  | misuse (misuse : Misuse)

end RefCycle
