import RefCycle.Collector.Course
import RefCycle.Session.Transcript
/-!
# Chronicles

What a collector asks its heap over a whole run. A scan asks the detector and then
looks up the candidates that it named; a pass looks up what was captured and hands
the unchanged candidates over for release. All that is said here of these questions is
said by the answers to them, so it can be held against what a collector counted.

## Main definitions

* `CollectedHeap.Chronicle` — sections ran and the heap changed, and these questions
  were asked.
* `Snapshot.questions` — the questions of a pass.
* `RefCycle.Exchanged` — scans and passes alternate, and each pass is over what the scan
  before it captured.
* `Consultation.handedOver`, `Consultation.reclaimed`, `Consultation.captured` — what the
  questions add up to.
* `CollectedHeap.attend` — runs sections in order and answers their questions.

## Main statements

* `Chronicle.trans`, `Chronicle.attend` — chronicles go on.
* `Chronicle.reached` — and stay among the states that come about.
* `Exchanged.captured_append` — what scans capture adds up.
-/

namespace RefCycle

namespace Consultation

/-- How many objects a question hands over for release. -/
def handedOver : Consultation → Nat
  | .releaseGroup group _ => group.length
  | .detect _ | .count _ _ => 0

/-- How many objects were reclaimed by the answer to a question. -/
def reclaimed : Consultation → Nat
  | .releaseGroup _ reclaimed => reclaimed
  | .detect _ | .count _ _ => 0

/-- Whether an object was looked up that has a count. -/
def hasCount : Consultation → Bool
  | .count _ answer => answer.isSome
  | .detect _ | .releaseGroup _ _ => false

/-- How many candidates were captured. After the detector was asked each candidate
    that it named is looked up, and those that have a count are captured. -/
def captured : List Consultation → Nat
  | [] => 0
  | .detect found :: rest => (rest.take (found.getD []).length).countP hasCount + captured rest
  | .count _ _ :: rest | .releaseGroup _ _ :: rest => captured rest

/-- The questions for the counts of objects, where the answers are given. -/
def counts (answer : ObjectId → Option Nat) (objects : List ObjectId) : List Consultation :=
  objects.map fun object => .count object (answer object)

/-- The questions of a scan, where the answers are given. -/
def survey (found : Option (List ObjectId)) (answer : ObjectId → Option Nat) :
    List Consultation :=
  .detect found :: counts answer (found.getD [])

section

variable {answer : ObjectId → Option Nat} {objects : List ObjectId} {more : List Consultation}

theorem captured_counts_append : captured (counts answer objects ++ more) = captured more := by
  induction objects with
  | nil => rfl
  | cons object objects ih => exact ih

theorem captured_survey_append (found : Option (List ObjectId)) :
    captured (survey found answer ++ more) =
      (counts answer (found.getD [])).countP hasCount + captured more := by
  have whole : (counts answer (found.getD []) ++ more).take (found.getD []).length =
      counts answer (found.getD []) :=
    List.take_left' (List.length_map _)
  rw [survey, List.cons_append, captured, whole, captured_counts_append]

/-- A scan captures the candidates that have counts. -/
theorem captured_survey (found : Option (List ObjectId)) :
    captured (survey found answer) = (counts answer (found.getD [])).countP hasCount := by
  have whole : captured (survey found answer ++ []) = _ := captured_survey_append found
  rwa [List.append_nil, captured, Nat.add_zero] at whole

end

end Consultation

namespace Snapshot

/-- The candidates that have the captured counts, in the order in which they were
    captured, where the counts are given. -/
def unchangedRoots (s : Snapshot) (answer : ObjectId → Option Nat) : List ObjectId :=
  (s.entries.filter fun entry => answer entry.1 = some entry.2).map Prod.fst

/-- The questions of a pass, where the answers are given: each candidate is looked up,
    and those that have the captured counts are handed over, unless there are none. -/
def questions (s : Snapshot) (answer : ObjectId → Option Nat) (reclaimed : Nat) :
    List Consultation :=
  Consultation.counts answer s.roots ++
    if s.unchangedRoots answer = [] then [] else [.releaseGroup (s.unchangedRoots answer) reclaimed]

section

open Consultation

variable {answer : ObjectId → Option Nat} {more : List Consultation}

theorem captured_questions_append (s : Snapshot) (reclaimed : Nat) :
    captured (s.questions answer reclaimed ++ more) = captured more := by
  rw [questions, List.append_assoc, captured_counts_append]
  split <;> rfl

/-- A pass captures nothing. -/
theorem captured_questions (s : Snapshot) (reclaimed : Nat) :
    captured (s.questions answer reclaimed) = 0 := by
  have whole : captured (s.questions answer reclaimed ++ []) = _ :=
    s.captured_questions_append reclaimed
  rwa [List.append_nil, captured] at whole

end

end Snapshot

/-- Scans and passes alternate. A scan takes place where no snapshot is pending, and
    captures the candidates that have counts; the pass after it is over that snapshot. -/
inductive Exchanged : List Consultation → Option Snapshot → Prop where
  | nothing : Exchanged [] none
  | scanned {asked : List Consultation} (before : Exchanged asked none)
      (found : Option (List ObjectId)) (answer : ObjectId → Option Nat) :
      Exchanged (asked ++ Consultation.survey found answer)
        (Snapshot.capture answer (found.getD []))
  | passed {asked : List Consultation} {snapshot : Snapshot}
      (before : Exchanged asked (some snapshot)) (answer : ObjectId → Option Nat)
      (reclaimed : Nat) : Exchanged (asked ++ snapshot.questions answer reclaimed) none

open Consultation in
/-- A scan looks up all of its candidates before anything else is asked, so what is asked
    later does not change what it captured. -/
theorem Exchanged.captured_append {asked : List Consultation} {pending : Option Snapshot}
    (exchanged : Exchanged asked pending) (more : List Consultation) :
    captured (asked ++ more) = captured asked + captured more := by
  induction exchanged generalizing more with
  | nothing => exact (Nat.zero_add _).symm
  | scanned before found answer ih =>
    rw [List.append_assoc, ih, ih, captured_survey_append, captured_survey, Nat.add_assoc]
  | passed before answer reclaimed ih =>
    rw [List.append_assoc, ih, ih, Snapshot.captured_questions_append,
      Snapshot.captured_questions, Nat.add_zero]

namespace CollectedHeap

variable {H : Type} [Reclaimable H]

instance (s : CollectedHeap H) (part : Collector.Section) : Decidable (s.Enabled part) :=
  match part with
  | .resume worker => decidable_of_iff (worker ∈ s.collector.parked)
      ⟨fun waits _ eq => Collector.Section.resume.inj eq ▸ waits, fun enabled => enabled worker rfl⟩
  | .addWorker _ | .removeWorker _ | .schedule | .collect | .arrive _ _ =>
    .isTrue fun _ eq => nomatch eq

/-- From a state on, any enabled sections ran, and between them the heap changed in any
    way; meanwhile the collector asked these questions, in this order. -/
inductive Chronicle (s : CollectedHeap H) : List Consultation → CollectedHeap H → Prop where
  | start : Chronicle s [] s
  | ran {asked : List Consultation} {t : CollectedHeap H}
      {outcome : Outcome (CollectedHeap H) (Except Misuse (Option Passage))}
      (before : Chronicle s asked t) (part : Collector.Section) (enabled : t.Enabled part)
      (performed : t.run part = .ok outcome) :
      Chronicle s (asked ++ Trace.consultations outcome.trace) outcome.state
  | mutated {asked : List Consultation} {t : CollectedHeap H} (before : Chronicle s asked t)
      (heap : H) : Chronicle s asked { t with heap }

/-- Runs sections in order, as long as each is enabled and meets no fault, and answers
    what they asked. -/
def attend (s : CollectedHeap H) (asked : List Consultation) :
    List Collector.Section → Option (List Consultation × CollectedHeap H)
  | [] => some (asked, s)
  | part :: parts =>
    if s.Enabled part then
      match s.run part with
      | .error _ => none
      | .ok outcome =>
        outcome.state.attend (asked ++ Trace.consultations outcome.trace) parts
    else none

section

variable {s t u : CollectedHeap H} {asked more : List Consultation}

theorem Chronicle.trans (first : s.Chronicle asked t) (second : t.Chronicle more u) :
    s.Chronicle (asked ++ more) u := by
  induction second with
  | start =>
    rw [List.append_nil]
    exact first
  | ran before part enabled performed ih =>
    rw [← List.append_assoc]
    exact ih.ran part enabled performed
  | mutated before heap ih => exact ih.mutated heap

/-- Attending to sections goes on with a chronicle. -/
theorem Chronicle.attend {parts : List Collector.Section}
    {next : List Consultation × CollectedHeap H} (chronicle : s.Chronicle asked t)
    (attended : t.attend asked parts = some next) : s.Chronicle next.1 next.2 := by
  induction parts generalizing asked t with
  | nil =>
    cases attended
    exact chronicle
  | cons part parts ih =>
    rw [CollectedHeap.attend] at attended
    split at attended
    · split at attended
      · contradiction
      · exact ih (chronicle.ran part ‹_› ‹_›) attended
    · contradiction

theorem Chronicle.reached (chronicle : s.Chronicle asked t) (reached : s.Reached) : t.Reached := by
  induction chronicle with
  | start => exact reached
  | ran before part enabled performed ih => exact ih.ran part enabled performed
  | mutated before heap ih => exact ih.mutated heap

end

end CollectedHeap

end RefCycle
