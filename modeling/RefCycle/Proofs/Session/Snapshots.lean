import Mathlib
import RefCycle.Proofs.Outcome
import RefCycle.Session.History
/-!
# A session keeps its snapshots

Snapshots that were taken by hand stay in their places. Commands may put others behind
them, and nothing else.

## Main definitions

* `Session.Extends` — a session has the snapshots of another, and maybe more behind them.
* `Session.Continues` — an attempt leaves a session that extends the one before it.

## Main statements

* `perform_continues` — any command extends a session.
* `Later.snapshot` — a snapshot stays in its place.
-/

namespace RefCycle.Session

variable {s t u : Session} {r : Attempt Session Answer}

/-- The snapshots of a session are the first ones of another. -/
def Extends (s t : Session) : Prop :=
  s.snapshots.toList <+: t.snapshots.toList

theorem Extends.of_eq (same : t.snapshots = s.snapshots) : s.Extends t := by
  rw [Extends, same]

theorem Extends.refl (s : Session) : s.Extends s :=
  .of_eq rfl

theorem Extends.trans (first : s.Extends t) (second : t.Extends u) : s.Extends u :=
  List.IsPrefix.trans first second

theorem Extends.snapshot {slot : Nat} {snapshot : Option Snapshot} (grows : s.Extends t)
    (here : s.snapshots[slot]? = some snapshot) : t.snapshots[slot]? = some snapshot := by
  rw [← Array.getElem?_toList] at here ⊢
  obtain ⟨bound, rfl⟩ := List.getElem?_eq_some_iff.1 here
  exact List.prefix_iff_getElem?.1 grows slot bound

/-- An attempt leaves a session that extends the one before it, if it leaves one. -/
def Continues (s : Session) (r : Attempt Session Answer) : Prop :=
  r.Ensures (fun _ => True) fun o => s.Extends o.state

theorem Continues.ok {answer : Answer} {trace : Trace} (grows : s.Extends t) :
    s.Continues (.ok ⟨answer, t, trace⟩) :=
  grows

theorem Continues.trans (first : s.Extends t) (second : t.Continues r) : s.Continues r :=
  Attempt.Ensures.mono second fun _ grows => first.trans grows

theorem reply_continues (s : Session) (reply : Reply) : s.Continues (s.reply reply) :=
  .ok (.refl s)

/-! ### Names -/

theorem withObject_continues {raw : Nat} {next : ObjectId → Attempt Session Answer}
    (goesOn : ∀ object, s.Continues (next object)) : s.Continues (s.withObject raw next) := by
  rw [withObject]
  split
  · exact goesOn _
  · exact s.reply_continues .null

theorem withObjects_continues {raws : List Nat} {next : List ObjectId → Attempt Session Answer}
    (goesOn : ∀ objects, s.Continues (next objects)) : s.Continues (s.withObjects raws next) := by
  rw [withObjects]
  split
  · exact goesOn _
  · exact s.reply_continues .null

theorem withWorker_continues {raw : Nat} {next : WorkerId → Attempt Session Answer}
    (goesOn : ∀ worker, s.Continues (next worker)) : s.Continues (s.withWorker raw next) := by
  rw [withWorker]
  split
  · exact goesOn _
  · exact s.reply_continues .null

/-! ### Heaps -/

theorem mutate_continues [VisitOrder] (s : Session) (call : Heap.Call) :
    s.Continues (s.mutate call) := by
  rw [mutate]
  split
  · trivial
  · exact .ok (.of_eq rfl)

theorem build_continues (s : Session) (shape : Heap.Shape) (size keep : Nat) :
    s.Continues (s.build shape size keep) := by
  rw [build]
  split
  · trivial
  · exact s.reply_continues _
  · exact .ok (.of_eq rfl)

theorem references_continues (s : Session) (object : ObjectId) :
    s.Continues (s.references object) := by
  rw [references]
  split <;> exact s.reply_continues _

theorem count_continues [VisitOrder] (s : Session) (object : ObjectId) :
    s.Continues (s.count object) :=
  .ok (.refl s)

theorem releaseGroup_continues [VisitOrder] (s : Session) (group : List ObjectId) :
    s.Continues (s.releaseGroup group) := by
  rw [releaseGroup]
  split
  · trivial
  · exact .ok (.of_eq rfl)

/-- A snapshot is put behind those that were taken before. -/
theorem capture_continues [VisitOrder] (s : Session) (group : List ObjectId) :
    s.Continues (s.capture group) := by
  refine .ok ⟨[Snapshot.capture (Reclaimable.refCount? s.bench) group], ?_⟩
  exact Array.toList_push.symm

theorem trial_continues [VisitOrder] (s : Session) (slot : Nat) : s.Continues (s.trial slot) := by
  rw [trial]
  split
  · exact s.reply_continues _
  · exact .ok (.refl s)

theorem rescript_continues (s : Session) (f : ScriptedHeap → ScriptedHeap) :
    s.Continues (s.rescript f) :=
  .ok (.of_eq rfl)

/-! ### Collectors -/

theorem call_continues [VisitOrder] (s : Session) (request : Installation.Request) :
    s.Continues (s.call request) := by
  rw [call]
  split
  · trivial
  · exact .ok (.of_eq rfl)

theorem look_continues (s : Session) (answer : Collector → Reply) :
    s.Continues (s.look answer) := by
  rw [look]
  split <;> exact s.reply_continues _

theorem moveClock_extends (s : Session) : s.Extends s.moveClock := by
  rw [moveClock]
  split
  · exact .of_eq rfl
  · exact .refl s

theorem safepoint_continues [VisitOrder] (s : Session) (worker : WorkerId) :
    s.Continues (s.safepoint worker) :=
  .trans s.moveClock_extends (s.moveClock.call_continues _)

theorem safepoints_continues [VisitOrder] (worker : WorkerId) (times : Nat) (s : Session) :
    s.Continues (safepoints worker times s) := by
  induction times using Nat.twoStepInduction generalizing s with
  | zero => exact s.reply_continues _
  | one => exact s.safepoint_continues worker
  | more times _ ih =>
    refine Attempt.Ensures.andThen (s.safepoint_continues worker) fun outcome grows => ?_
    dsimp only
    split
    · exact Attempt.Ensures.map (Continues.trans grows (ih outcome.state))
    · exact grows

theorem install_continues [VisitOrder] (s : Session) (scripted : Bool) (config : Config) :
    s.Continues (s.install scripted config) := by
  have prepared :
      s.Extends (if s.installation.isInstalled then s else s.setBench (.fresh scripted)) := by
    split
    · exact .refl s
    · exact .of_eq rfl
  rw [install]
  exact .trans prepared (call_continues _ _)

theorem countInHeap_continues [VisitOrder] (s : Session) (raw : Nat) :
    s.Continues (s.countInHeap raw) := by
  rw [countInHeap]
  split
  · exact withObject_continues s.count_continues
  · exact s.reply_continues _

/-! ### Commands -/

theorem perform_continues [VisitOrder] (s : Session) (command : Command) :
    s.Continues (s.perform command) := by
  cases command with
  | allocate => exact s.mutate_continues .allocate
  | build shape size keep => exact s.build_continues shape size keep
  | retain object | release object => exact withObject_continues fun _ => s.mutate_continues _
  | link source target | unlink source target =>
    exact withObject_continues fun _ => withObject_continues fun _ => s.mutate_continues _
  | contains object => exact withObject_continues fun _ => s.reply_continues _
  | references object => exact withObject_continues s.references_continues
  | len | isInstalled => exact s.reply_continues _
  | count object => exact withObject_continues s.count_continues
  | detect => exact .ok (.refl s)
  | releaseGroup group => exact withObjects_continues s.releaseGroup_continues
  | capture group => exact withObjects_continues s.capture_continues
  | trial slot => exact s.trial_continues slot
  | setCandidates group =>
    cases group with
    | none => exact s.rescript_continues _
    | some group => exact withObjects_continues fun _ => s.rescript_continues _
  | setCount object count => exact withObject_continues fun _ => s.rescript_continues _
  | setResult result => exact s.rescript_continues _
  | addWorker worker | removeWorker worker =>
    exact withWorker_continues fun _ => s.call_continues _
  | schedule => exact s.call_continues (.collector .schedule)
  | collect => exact s.call_continues (.collector .collect)
  | uninstall => exact s.call_continues .uninstall
  | rendezvous worker times => exact withWorker_continues fun w => safepoints_continues w times s
  | statistics | config => exact s.look_continues _
  | countInHeap object => exact s.countInHeap_continues object
  | install scripted config => exact s.install_continues scripted config

theorem Later.grows (later : s.Later t) : s.Extends t := by
  induction later with
  | refl => exact .refl s
  | step _ command performed ih =>
    exact ih.trans ((perform_continues _ command).of_ok performed)

/-- A snapshot stays in its place. -/
theorem Later.snapshot {slot : Nat} {snapshot : Option Snapshot} (later : s.Later t)
    (here : s.snapshots[slot]? = some snapshot) : t.snapshots[slot]? = some snapshot :=
  later.grows.snapshot here

end RefCycle.Session
