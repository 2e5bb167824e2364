import RefCycle.Heap.Call
/-!
# Histories of a heap

Which heaps can come about by calls, and what the callers hold.

## Main definitions

* `Heap.Dialogue` — calls were made one after another, and answered.
* `Heap.Later` — one heap comes about from another by calls.
* `Heap.Reached` — a heap comes about from the empty one.
* `Heap.performAll` — makes calls in order and keeps their answers.
* `Heap.makeCalls` — makes calls in order.
* `Heap.Ledger` — a heap with the number of references that mutators hold to
  each object, and of all references ever created.
* `Ledger.Allows` — a call lets go only of a reference that is held.
* `Ledger.Disciplined` — a ledger comes about by calls that are allowed.
* `Ledger.play` — makes calls in order.

## Main statements

* `Dialogue.trans`, `Later.trans` — histories can be put one after the other.
* `dialogue_of_performAll` — making calls is a dialogue.
* `Later.makeCalls` — making calls goes on with a history.
* `Ledger.Disciplined.reached` — the heap of a disciplined ledger is reached.
* `Ledger.Disciplined.play` — playing calls goes on with a disciplined history.

## Design notes

In the histories each call visits objects in an order of its own, so what holds after every
history holds for all orders. The functions make all of their calls in one order.
-/

namespace RefCycle.Heap

/-- Calls were made one after another, starting from a heap, and answered. -/
inductive Dialogue (h : Heap) : List Call → List Response → Heap → Prop where
  | start : Dialogue h [] [] h
  | next [VisitOrder] {calls : List Call} {responses : List Response} {k : Heap}
      {effect : Effect} (dialogue : Dialogue h calls responses k) (call : Call)
      (performed : k.perform call = .ok effect) :
      Dialogue h (calls ++ [call]) (responses ++ [effect.response]) effect.heap

/-- A heap comes about from another by a number of calls. -/
def Later (h k : Heap) : Prop :=
  ∃ calls responses, Dialogue h calls responses k

def Reached (h : Heap) : Prop :=
  Later empty h

section Histories

variable {order : VisitOrder} {h k l : Heap} {calls more : List Call}
  {responses further : List Response} {call : Call} {effect : Effect}

/-- Dialogues can be put one after the other. -/
theorem Dialogue.trans (first : Dialogue h calls responses k)
    (second : Dialogue k more further l) : Dialogue h (calls ++ more) (responses ++ further) l := by
  induction second with
  | start => simpa only [List.append_nil] using first
  | next _ call performed ih =>
    rw [← List.append_assoc, ← List.append_assoc]
    exact ih.next call performed

theorem Dialogue.single (performed : h.perform call = .ok effect) :
    Dialogue h [call] [effect.response] effect.heap :=
  Dialogue.start.next call performed

theorem Later.refl (h : Heap) : Later h h :=
  ⟨[], [], .start⟩

theorem Later.step (history : Later h k) (performed : k.perform call = .ok effect) :
    Later h effect.heap := by
  obtain ⟨calls, responses, dialogue⟩ := history
  exact ⟨_, _, dialogue.next call performed⟩

/-- Histories can be put one after the other. -/
theorem Later.trans (first : Later h k) (second : Later k l) : Later h l := by
  obtain ⟨calls, responses, dialogue⟩ := first
  obtain ⟨more, further, rest⟩ := second
  exact ⟨_, _, dialogue.trans rest⟩

end Histories

/-- Makes calls in order, as long as they meet no fault, and keeps their answers. -/
def performAll [VisitOrder] (h : Heap) : List Call → Except Fault (List Response × Heap)
  | [] => .ok ([], h)
  | call :: calls =>
    match h.perform call with
    | .error fault => .error fault
    | .ok effect =>
      match effect.heap.performAll calls with
      | .error fault => .error fault
      | .ok (responses, last) => .ok (effect.response :: responses, last)

/-- Makes calls in order, as long as they meet no fault. -/
def makeCalls [VisitOrder] (h : Heap) (calls : List Call) : Except Fault Heap :=
  (h.performAll calls).map Prod.snd

section Histories

variable {order : VisitOrder} {h k l : Heap} {calls : List Call} {responses : List Response}

/-- Making calls is a dialogue. -/
theorem dialogue_of_performAll (made : h.performAll calls = .ok (responses, k)) :
    Dialogue h calls responses k := by
  induction calls generalizing h responses with
  | nil =>
    cases made
    exact .start
  | cons call calls ih =>
    rw [Heap.performAll] at made
    split at made
    · contradiction
    · rename_i effect performed
      split at made
      · contradiction
      · rename_i rest last others
        cases made
        exact (Dialogue.single performed).trans (ih others)

/-- Making calls goes on with a history. -/
theorem Later.makeCalls (history : Later h k) (made : k.makeCalls calls = .ok l) : Later h l := by
  cases run : k.performAll calls with
  | error fault => simp [Heap.makeCalls, run, Except.map] at made
  | ok answered =>
    simp only [Heap.makeCalls, run, Except.map, Except.ok.injEq] at made
    exact history.trans ⟨_, _, made ▸ dialogue_of_performAll run⟩

end Histories

/-- A heap with an account of the references to its objects. -/
structure Ledger where
  heap : Heap
  /-- The number of references that mutators hold to an object. -/
  held : ObjectId → Nat
  /-- The number of references that were ever created, by mutators or in objects. -/
  created : Nat

namespace Ledger

def empty : Ledger :=
  ⟨.empty, fun _ => 0, 0⟩

/-- What mutators hold after a call: what is allocated or retained is held once
    more, what is released is held once less. A refused call changes nothing. -/
def heldAfter (ledger : Ledger) : Call → Response → ObjectId → Nat
  | .allocate, .allocated object, p => if p = object then ledger.held p + 1 else ledger.held p
  | .retain object, .done, p => if p = object then ledger.held p + 1 else ledger.held p
  | .release object, .freed _, p => if p = object then ledger.held p - 1 else ledger.held p
  | _, _, p => ledger.held p

/-- How many references were created when a call is answered: one more if an
    object was allocated, retained or linked to. -/
def createdAfter (ledger : Ledger) : Call → Response → Nat
  | .allocate, .allocated _ | .retain _, .done | .link _ _, .done => ledger.created + 1
  | _, _ => ledger.created

def after (ledger : Ledger) (call : Call) (effect : Effect) : Ledger where
  heap := effect.heap
  held := ledger.heldAfter call effect.response
  created := ledger.createdAfter call effect.response

/-- A call is allowed unless it releases a reference that no mutator holds. -/
def Allows (ledger : Ledger) : Call → Prop
  | .release object => 0 < ledger.held object
  | _ => True

instance (ledger : Ledger) (call : Call) : Decidable (ledger.Allows call) :=
  match call with
  | .release object => inferInstanceAs (Decidable (0 < ledger.held object))
  | .allocate | .retain _ | .link _ _ | .unlink _ _ | .detect | .releaseGroup _ => .isTrue trivial

/-- Makes calls in order, as long as each is allowed and meets no fault. -/
def play [VisitOrder] (ledger : Ledger) : List Call → Option Ledger
  | [] => some ledger
  | call :: calls =>
    if ledger.Allows call then
      match ledger.heap.perform call with
      | .error _ => none
      | .ok effect => (ledger.after call effect).play calls
    else none

/-- A ledger comes about by allowed calls. -/
inductive Disciplined : Ledger → Prop where
  | empty : Disciplined empty
  | step [VisitOrder] {ledger : Ledger} {effect : Effect} (history : Disciplined ledger)
      (call : Call) (allowed : ledger.Allows call)
      (performed : ledger.heap.perform call = .ok effect) : Disciplined (ledger.after call effect)

/-- The heap of a disciplined ledger comes about from the empty one. -/
theorem Disciplined.reached {ledger : Ledger} (history : Disciplined ledger) :
    ledger.heap.Reached := by
  induction history with
  | empty => exact .refl _
  | step _ call _ performed ih => exact Later.step ih performed

/-- Playing calls goes on with a disciplined history. -/
theorem Disciplined.play {order : VisitOrder} {ledger next : Ledger} {calls : List Call}
    (history : Disciplined ledger) (played : ledger.play calls = some next) : Disciplined next := by
  induction calls generalizing ledger with
  | nil =>
    cases played
    exact history
  | cons call calls ih =>
    rw [Ledger.play] at played
    split at played
    · split at played
      · contradiction
      · exact ih (history.step call ‹_› ‹_›) played
    · contradiction

end Ledger

end RefCycle.Heap
