import RefCycle.Clock.Instant
/-!
# Timelines

A growing list of instants around the origin of a clock, with the questions
that can be asked about them. Each instant is kept under the place where it was
made, and a move that leaves the range of a clock makes none.

## Main definitions

* `RefCycle.Timeline` — the instants made so far.
* `Timeline.Step`, `Timeline.Reading` — the questions and their answers.
* `Timeline.perform`, `Timeline.performAll` — answering them.
-/

namespace RefCycle

/-- The instants made so far; the clock started at second zero. -/
structure Timeline where
  instants : Array Instant

namespace Timeline

/-- A duration that has not been checked yet. -/
structure Span where
  seconds : Nat
  /-- Nanoseconds, possibly more than a second. -/
  nanos : Nat

def Span.duration? (span : Span) : Except ClockError Duration :=
  Duration.ofParts? span.seconds span.nanos

/-- A question. Instants are named by their places. -/
inductive Step where
  | after (span : Span)
  | before (span : Span)
  | add (place : Nat) (span : Span)
  | advance (place : Nat) (span : Span)
  | since (later earlier : Nat)
  | order (left right : Nat)

/-- An answer. -/
inductive Reading where
  | instant (instant : Instant)
  | duration (duration : Duration)
  | order (ordering : Ordering)
  | unknown
  | error (error : ClockError)

def empty : Timeline :=
  ⟨#[]⟩

/-- Keeps an instant that was made; a failure leaves the timeline alone. -/
def record (timeline : Timeline) : Except ClockError Instant → Reading × Timeline
  | .ok instant => (.instant instant, ⟨timeline.instants.push instant⟩)
  | .error error => (.error error, timeline)

/-- Keeps what becomes of a kept instant in a duration; that one stays where it is. -/
def move (timeline : Timeline) (place : Nat) (span : Span)
    (moved? : Instant → Duration → Except ClockError Instant) : Reading × Timeline :=
  match timeline.instants[place]? with
  | some instant => timeline.record (span.duration?.bind (moved? instant))
  | none => (.unknown, timeline)

/-- What an instant has become once it was moved in its place. -/
def advanced? (instant : Instant) (d : Duration) : Except ClockError Instant :=
  match Instant.advance d instant with
  | .ok _ moved => .ok moved
  | .error error _ => .error error

/-- Answers a question about two kept instants. -/
def relate (timeline : Timeline) (left right : Nat) (answer : Instant → Instant → Reading) :
    Reading × Timeline :=
  match timeline.instants[left]?, timeline.instants[right]? with
  | some a, some b => (answer a b, timeline)
  | _, _ => (.unknown, timeline)

def perform (timeline : Timeline) : Step → Reading × Timeline
  | .after span => timeline.record (span.duration?.bind Instant.zero.after?)
  | .before span => timeline.record (span.duration?.bind Instant.zero.before?)
  | .add place span => timeline.move place span Instant.after?
  | .advance place span => timeline.move place span advanced?
  | .since later earlier => timeline.relate later earlier fun a b => .duration (a.since b)
  | .order left right => timeline.relate left right fun a b => .order (compare a b)

/-- Answers questions in order, each on the timeline that the ones before left. -/
def performAll (timeline : Timeline) : List Step → List Reading
  | [] => []
  | step :: steps =>
    let (reading, next) := timeline.perform step
    reading :: next.performAll steps

end Timeline

end RefCycle
