/-!
# Pending work

What a collector has decided to do but has not done yet: bring every worker to
a rendezvous, scan for cycles, collect a snapshot. The three kinds are
independent, so pending work is a set of them; outside it is a number with one
bit for each kind, and a text with one name for each.

## Main definitions

* `RefCycle.PendingWork` — a set of kinds of work.
* `PendingWork.bits`, `PendingWork.ofBits?`, `PendingWork.truncate` — the
  numbers; `ofBits?` refuses bits without a meaning, `truncate` drops them.
* `union`, `inter`, `sdiff`, `symmDiff`, `compl` — the algebra of sets.
* `PendingWork.text` — the names, lowest bit first.
-/

namespace RefCycle

/-- Kinds of work that are pending. -/
structure PendingWork where
  /-- The next rendezvous must wait for every worker. -/
  rendezvous : Bool
  /-- The next rendezvous must scan for cycles. -/
  scan : Bool
  /-- A snapshot may be collected. -/
  collection : Bool
  deriving DecidableEq

namespace PendingWork

def empty : PendingWork :=
  ⟨false, false, false⟩

def all : PendingWork :=
  ⟨true, true, true⟩

/-- The number of a set: one for a rendezvous, two for a scan, four for a collection. -/
def bits (work : PendingWork) : Nat :=
  work.rendezvous.toNat + 2 * work.scan.toNat + 4 * work.collection.toNat

/-- The kinds of work whose bits a number has; its other bits are dropped. -/
def truncate (n : Nat) : PendingWork :=
  ⟨n.testBit 0, n.testBit 1, n.testBit 2⟩

/-- The set with a given number, if the number has no other bits. -/
def ofBits? (n : Nat) : Option PendingWork :=
  if n < 8 then some (truncate n) else none

/-- Combines two sets kind by kind. -/
def zipWith (f : Bool → Bool → Bool) (a b : PendingWork) : PendingWork :=
  ⟨f a.rendezvous b.rendezvous, f a.scan b.scan, f a.collection b.collection⟩

def union : PendingWork → PendingWork → PendingWork :=
  zipWith (· || ·)

def inter : PendingWork → PendingWork → PendingWork :=
  zipWith (· && ·)

def sdiff : PendingWork → PendingWork → PendingWork :=
  zipWith fun a b => a && !b

def symmDiff : PendingWork → PendingWork → PendingWork :=
  zipWith Bool.xor

def compl (work : PendingWork) : PendingWork :=
  all.sdiff work

/-- Whether the second set lies within the first. -/
def contains (a b : PendingWork) : Bool :=
  a.inter b == b

def intersects (a b : PendingWork) : Bool :=
  a.inter b != empty

/-- The names of the kinds in a set, lowest bit first. -/
def names (work : PendingWork) : List String :=
  (if work.rendezvous then ["NEED_RENDEZVOUS"] else []) ++
  (if work.scan then ["NEED_ROOT_SCAN"] else []) ++
  (if work.collection then ["NEED_COLLECTION"] else [])

/-- A set as messages show it. -/
def text (work : PendingWork) : String :=
  if work = empty then "(empty)" else " | ".intercalate work.names

/-- Numbers and sets correspond, below the first bit without a meaning. -/
theorem ofBits?_eq_some_iff {n : Nat} {work : PendingWork} :
    ofBits? n = some work ↔ n = work.bits := by
  have small : ∀ n < 8, ∀ a b c : Bool,
      truncate n = ⟨a, b, c⟩ → n = (⟨a, b, c⟩ : PendingWork).bits := by decide
  have back : ∀ a b c : Bool, ofBits? (⟨a, b, c⟩ : PendingWork).bits = some ⟨a, b, c⟩ := by decide
  obtain ⟨a, b, c⟩ := work
  refine ⟨fun h => ?_, fun h => h ▸ back a b c⟩
  unfold ofBits? at h
  split at h
  · exact small n ‹_› a b c (Option.some.inj h)
  · contradiction

end PendingWork

end RefCycle
