/-!
# Identities of objects and workers

An object is known by its place in the order of allocation, a worker by a
number which its runtime picked. Both are exchanged with the outside as raw
numbers, where zero stands for "no identity"; `ofRaw?` and `raw` convert
between the two, and no identity has the raw value zero.

## Main definitions

* `RefCycle.ObjectId`, `RefCycle.WorkerId` — the two kinds of identity.
* `ObjectId.raw`, `ObjectId.ofRaw?`, `WorkerId.ofRaw?` — raw numbers.
* `ObjectId.text`, `WorkerId.text` — the form in messages, in hexadecimal.
-/

namespace RefCycle

/-- A natural number in lower-case hexadecimal, marked by `0x`. -/
def hexadecimal (n : Nat) : String :=
  "0x" ++ String.ofList (Nat.toDigits 16 n)

/-- The identity of an object. The first object to be allocated has index zero. -/
structure ObjectId where
  /-- How many objects were allocated before this one. -/
  index : Nat
  deriving DecidableEq

namespace ObjectId

/-- The raw value of an object. Counting from one keeps zero free for "no object". -/
def raw (object : ObjectId) : Nat :=
  object.index + 1

/-- The object with a given raw value, if that value is not zero. -/
def ofRaw? : Nat → Option ObjectId
  | 0 => none
  | index + 1 => some ⟨index⟩

/-- An object as messages name it, such as `#obj<0x1f>`. -/
def text (object : ObjectId) : String :=
  "#obj<" ++ hexadecimal object.raw ++ ">"

/-- An object as a value of its type, such as `ObjectRef(31)`. -/
def debugText (object : ObjectId) : String :=
  "ObjectRef(" ++ toString object.raw ++ ")"

/-- Objects in the order of their raw values. Repetitions are kept. -/
def sort (objects : List ObjectId) : List ObjectId :=
  objects.mergeSort fun a b => a.index ≤ b.index

@[simp] theorem raw_pos (object : ObjectId) : 0 < object.raw :=
  Nat.succ_pos _

@[simp] theorem ofRaw?_raw (object : ObjectId) : ofRaw? object.raw = some object :=
  rfl

/-- Raw values tell objects apart. -/
theorem raw_inj {a b : ObjectId} : a.raw = b.raw ↔ a = b := by
  cases a; cases b; simp [raw]

/-- An object is what its raw value reads as, and zero reads as nothing. -/
theorem ofRaw?_eq_some_iff {n : Nat} {object : ObjectId} :
    ofRaw? n = some object ↔ n = object.raw := by
  cases n with
  | zero => simp [ofRaw?, raw]
  | succ n => cases object; simp [ofRaw?, raw]

end ObjectId

/-- The identity of a worker. It is only compared and shown. -/
structure WorkerId where
  /-- The number which the runtime gave to the worker. -/
  raw : Nat
  raw_pos : 0 < raw
  deriving DecidableEq

namespace WorkerId

/-- The worker with a given raw value, if that value is not zero. -/
def ofRaw? (n : Nat) : Option WorkerId :=
  if h : 0 < n then some ⟨n, h⟩ else none

/-- A worker as messages name it, such as `worker<0x1f>`. -/
def text (worker : WorkerId) : String :=
  "worker<" ++ hexadecimal worker.raw ++ ">"

/-- A worker as a value of its type, such as `WorkerId(31)`. -/
def debugText (worker : WorkerId) : String :=
  "WorkerId(" ++ toString worker.raw ++ ")"

/-- Workers in the order of their raw values. Repetitions are kept. -/
def sort (workers : List WorkerId) : List WorkerId :=
  workers.mergeSort fun a b => a.raw ≤ b.raw

@[simp] theorem ofRaw?_raw (worker : WorkerId) : ofRaw? worker.raw = some worker := by
  simp [ofRaw?, worker.raw_pos]

end WorkerId

end RefCycle
