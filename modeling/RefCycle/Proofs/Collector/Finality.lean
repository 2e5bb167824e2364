import Mathlib
import RefCycle.Proofs.Collector.Census
import RefCycle.Proofs.Collector.TrialDeletion
import RefCycle.Proofs.Heap.Detection
/-!
# What is freed stays freed

A slot is used once. So an object that is gone from a heap has an identity that no
object will ever have again, and a comparison of counts cannot take another object for
it. Nothing is assumed about the calls: counts may be wrong, and objects may refer to
others that are gone.

## Main definitions

* `Heap.Gone` — an identity was given out, and its object is not live.
* `Heap.Forgotten` — the ways in which a heap says that it does not know an object.

## Main statements

* `Turns.mem_freed_iff` — a call reports what is gone.
* `Dialogue.allocated` — identities are given out in order.
* `Turns.gone`, `Later.gone` — a call, and a history of calls, brings nothing back.
* `freed_for_ever` — what follows for an object that was freed.
-/

namespace RefCycle

theorem Snapshot.mem_disqualified {snapshot : Snapshot} {refCount? : ObjectId → Option Nat}
    {object : ObjectId} :
    object ∈ (snapshot.trialDelete refCount?).disqualified ↔
      ∃ count, (object, count) ∈ snapshot.entries ∧ refCount? object ≠ some count := by
  simp [trialDelete, unchanged]

namespace Heap

variable {h k : Heap} {call : Call} {effect : Effect} {calls : List Call}
  {responses : List Response} {p : ObjectId}

/-! ### Identities are given out in order -/

def Response.allocated? : Response → Option ObjectId
  | .allocated object => some object
  | .done | .freed _ | .candidates _ | .refused _ => none

theorem Call.ne_allocate_of_needs {test : ObjectId → Bool}
    (needed : call.needs.find? test = some p) : call ≠ .allocate := by
  rintro rfl
  simp [Call.needs] at needed

/-- A call gives out the next identity if it allocates, and none otherwise. -/
theorem Turns.allocated? (turns : h.Turns call effect) :
    effect.response.allocated? = if call = .allocate then some ⟨h.slots.size⟩ else none := by
  cases turns with
  | refused missing => exact (if_neg (Call.ne_allocate_of_needs missing)).symm
  | lacking | detected | allocated | retained | linked | released | unlinked | freed => rfl

theorem Turns.size (turns : h.Turns call effect) :
    effect.heap.slots.size = h.slots.size + if call = .allocate then 1 else 0 := by
  cases turns with
  | refused missing => rw [if_neg (Call.ne_allocate_of_needs missing), Nat.add_zero]
  | lacking | detected => rfl
  | allocated => exact size_slots_push ..
  | retained => exact size_slots_setCount ..
  | linked =>
    show (Heap.linked ..).slots.size = h.slots.size
    rw [Heap.linked, size_slots_modify, size_slots_setCount]
  | released live run => exact (discard_shrinks run).size
  | unlinked refers run => exact (discard_shrinks run).size.trans (size_slots_modify ..)
  | freed run => exact (releaseGroup_shrinks run).size

theorem Dialogue.size (dialogue : Dialogue h calls responses k) :
    k.slots.size = h.slots.size + calls.count .allocate := by
  induction dialogue with
  | start => rfl
  | next _ call performed ih =>
    rw [(turns_of_perform performed).size, ih, List.count_append, List.count_singleton,
      Nat.add_assoc]
    simp only [beq_iff_eq]

/-- Identities are given out in order, whatever is freed in between. -/
theorem Dialogue.allocated (dialogue : Dialogue h calls responses k) :
    (responses.filterMap Response.allocated?).map ObjectId.raw =
      List.range' (h.slots.size + 1) (calls.count .allocate) := by
  induction dialogue with
  | start => rfl
  | next dialogue call performed ih =>
    have next := (turns_of_perform performed).allocated?
    rw [dialogue.size] at next
    rw [List.filterMap_append, List.map_append, ih, List.count_append]
    by_cases allocates : call = .allocate
    · rw [if_pos allocates] at next
      subst allocates
      rw [List.count_singleton_self, List.range'_1_concat]
      simp [next, ObjectId.raw]
      omega
    · rw [if_neg allocates] at next
      simp [next, allocates]

/-! ### What is gone -/

/-- An identity was given out, and its object is not live. -/
def Gone (h : Heap) (p : ObjectId) : Prop :=
  p.index < h.slots.size ∧ ¬h.contains p

theorem Gone.shrinks (gone : h.Gone p) (less : Shrinks h k) : k.Gone p :=
  ⟨less.size ▸ gone.1, mt (less.contains p) gone.2⟩

theorem Gone.congr (gone : h.Gone p) (size : k.slots.size = h.slots.size)
    (same : k.contains p = h.contains p) : k.Gone p :=
  ⟨size ▸ gone.1, same ▸ gone.2⟩

/-- A call brings nothing back: to allocate takes a slot that was never used. -/
theorem Turns.gone (turns : h.Turns call effect) (gone : h.Gone p) : effect.heap.Gone p := by
  cases turns with
  | refused | lacking | detected => exact gone
  | allocated =>
    have new : p.index ≠ h.slots.size := Nat.ne_of_lt gone.1
    refine ⟨?_, mt (contains_push _).1 (not_or.2 ⟨new, gone.2⟩)⟩
    exact (size_slots_push ..).symm ▸ Nat.lt_succ_of_lt gone.1
  | retained => exact gone.congr (size_slots_setCount ..) (contains_setCount ..)
  | linked =>
    refine gone.congr ?_ ?_
    · rw [Heap.linked, size_slots_modify, size_slots_setCount]
    · rw [Heap.linked, contains_modify, contains_setCount]
  | released live run => exact gone.shrinks (discard_shrinks run)
  | unlinked refers run =>
    exact (gone.congr (size_slots_modify ..) (contains_modify _)).shrinks (discard_shrinks run)
  | freed run => exact gone.shrinks (releaseGroup_shrinks run)

theorem Later.gone (history : Later h k) (gone : h.Gone p) : k.Gone p := by
  obtain ⟨calls, responses, dialogue⟩ := history
  induction dialogue with
  | start => exact gone
  | next _ call performed ih => exact (turns_of_perform performed).gone ih

/-- A call reports as freed what was live before it and is not live after it. -/
theorem Turns.mem_freed_iff (turns : h.Turns call effect) :
    p ∈ effect.freed ↔ h.contains p ∧ ¬effect.heap.contains p := by
  have freed : ∀ count, effect.response = .freed count →
      (p ∈ effect.freed ↔ h.contains p ∧ ¬effect.heap.contains p) := by
    intro count answer
    have removes := (turns.removes_freed answer).1
    rw [removes.remains_iff, not_and_not_right]
    exact ⟨fun mem => ⟨removes.live p mem, fun _ => mem⟩, fun left => left.2 left.1⟩
  -- No other call reports anything, and what was live stays live.
  cases turns with
  | refused | lacking | detected => simp [Effect.freed, Record.freed?, Heap.detection]
  | allocated =>
    have kept : h.contains p → h.allocate.2.contains p := fun live =>
      (contains_push _).2 (.inr live)
    exact iff_of_false List.not_mem_nil fun gone => gone.2 (kept gone.1)
  | retained => simp [Effect.freed]
  | linked => simp [Effect.freed, Heap.linked]
  | released | unlinked | freed => exact freed _ rfl

/-- What a call frees is gone. -/
theorem Turns.gone_of_freed (turns : h.Turns call effect) (mem : p ∈ effect.freed) :
    effect.heap.Gone p := by
  obtain ⟨live, dead⟩ := turns.mem_freed_iff.1 mem
  obtain ⟨o, ho⟩ := contains_iff.1 live
  have inside := index_lt_of_get? ho
  have size := turns.size
  exact ⟨by omega, dead⟩

/-! ### What a heap says of an object that is gone -/

/-- A heap does not know an object: it has no count, is no candidate, and is confirmed
    by no snapshot; whoever needs it is refused, and no call frees it. -/
structure Forgotten (h : Heap) (p : ObjectId) : Prop where
  dead : h.contains p = false
  uncounted : h.refCount? p = none
  undetected : ∀ objects, h.detectCycles = some objects → p ∉ objects
  references : h.references p = .error (.freed p)
  retain : ∀ [VisitOrder], h.perform (.retain p) = .ok ⟨.refused (.freed p), h, []⟩
  release : ∀ [VisitOrder], h.perform (.release p) = .ok ⟨.refused (.freed p), h, []⟩
  linkFrom : ∀ [VisitOrder] (q), h.perform (.link p q) = .ok ⟨.refused (.freed p), h, []⟩
  linkTo : ∀ [VisitOrder] (q), h.contains q →
    h.perform (.link q p) = .ok ⟨.refused (.freed p), h, []⟩
  unlink : ∀ [VisitOrder] (q), h.perform (.unlink p q) = .ok ⟨.refused (.freed p), h, []⟩
  unfreed : ∀ [VisitOrder] (call effect), h.perform call = .ok effect → p ∉ effect.freed
  disqualified : ∀ snapshot : Snapshot, p ∈ snapshot.roots →
    p ∈ (snapshot.trialDelete h.refCount?).disqualified ∧
      p ∉ (snapshot.trialDelete h.refCount?).confirmed

theorem forgotten_of_not_contains (dead : ¬h.contains p) : h.Forgotten p := by
  have absent : h.get? p = none := by simpa [contains] using dead
  have uncounted : h.refCount? p = none := refCount?_eq_none_iff.2 dead
  exact {
    dead := by simpa using dead
    uncounted
    undetected := by
      intro objects found mem
      obtain ⟨-, rfl⟩ := detectCycles_eq_some_iff.1 found
      exact dead (mem_garbage_iff.1 mem).1
    references := by simp [Heap.references, absent]
    retain := by simp [perform, Heap.retain, uncounted, Effect.ofUpdate]
    release := by simp [perform, Heap.release, dead, Effect.ofFreeing]
    linkFrom := by simp [perform, link, dead, Effect.ofUpdate]
    linkTo := by
      intro _ q live
      simp [perform, link, live, uncounted, Effect.ofUpdate]
    unlink := by simp [perform, Heap.unlink, absent, Effect.ofFreeing]
    unfreed := by
      intro _ call effect performed mem
      exact dead ((turns_of_perform performed).mem_freed_iff.1 mem).1
    disqualified := by
      intro snapshot root
      obtain ⟨count, entry⟩ := Snapshot.mem_roots.1 root
      rw [Snapshot.mem_disqualified, Snapshot.mem_confirmed, uncounted]
      exact ⟨⟨count, entry, by simp⟩, by simp⟩ }

/-- What is freed stays freed.

    Any calls were made, without any rule and in any orders of visits, and so far none met
    a fault. Then the objects that were allocated have the raw values from one on, in
    order. A call frees what it reports as freed; and at any time after it, whatever calls
    follow, the heap does not know what was freed. -/
theorem freed_for_ever [VisitOrder] (dialogue : Dialogue empty calls responses h)
    (performed : h.perform call = .ok effect) (later : Later effect.heap k) :
    (responses.filterMap Response.allocated?).map ObjectId.raw =
      List.range' 1 (calls.count .allocate) ∧
    (∀ p, p ∈ effect.freed ↔ h.contains p ∧ ¬effect.heap.contains p) ∧
    ∀ p ∈ effect.freed, k.Forgotten p := by
  have turns := turns_of_perform performed
  refine ⟨dialogue.allocated, fun p => turns.mem_freed_iff, fun p mem => ?_⟩
  exact forgotten_of_not_contains (later.gone (turns.gone_of_freed mem)).2

attribute [local instance] VisitOrder.ascending

/-- Of a pair, one object was released once more than it was held, though the other
    refers to it. What is allocated afterwards is not taken for it: a snapshot that
    captured it puts it aside, though the new object has the count that it had. -/
theorem freed_for_ever_over_released :
    ∃ (responses : List Response) (h k : Heap) (effect : Effect) (snapshot : Snapshot),
      Dialogue empty [.allocate, .allocate, .link ⟨0⟩ ⟨1⟩, .release ⟨1⟩] responses h ∧
      (responses.filterMap Response.allocated?).map ObjectId.raw = [1, 2] ∧
      Snapshot.capture h.refCount? [⟨1⟩] = some snapshot ∧
      h.perform (.release ⟨1⟩) = .ok effect ∧ effect.heap.edges ⟨0⟩ = [⟨1⟩] ∧
      effect.heap.makeCalls [.allocate, .releaseGroup [⟨1⟩]] = .ok k ∧
      k.refCount? ⟨2⟩ = h.refCount? ⟨1⟩ ∧ k.Forgotten ⟨1⟩ ∧
      snapshot.trialDelete k.refCount? = ⟨[], [⟨1⟩]⟩ := by
  let h : Heap := ⟨#[some ⟨1, #[⟨1⟩]⟩, some ⟨1, #[]⟩]⟩
  let k : Heap := ⟨#[some ⟨1, #[⟨1⟩]⟩, none, some ⟨1, #[]⟩]⟩
  let effect : Effect := ⟨.freed 1, ⟨#[some ⟨1, #[⟨1⟩]⟩, none]⟩, [.freed ⟨1⟩]⟩
  have made : empty.performAll [.allocate, .allocate, .link ⟨0⟩ ⟨1⟩, .release ⟨1⟩] =
      .ok ([.allocated ⟨0⟩, .allocated ⟨1⟩, .done, .freed 0], h) := by cbv
  have performed : h.perform (.release ⟨1⟩) = .ok effect := by cbv
  have called : effect.heap.makeCalls [.allocate, .releaseGroup [⟨1⟩]] = .ok k := by cbv
  have dialogue := dialogue_of_performAll made
  obtain ⟨allocated, freed, forgotten⟩ :=
    freed_for_ever dialogue performed ((Later.refl _).makeCalls called)
  have mem : ⟨1⟩ ∈ effect.freed := (freed ⟨1⟩).2 ⟨rfl, by decide⟩
  exact ⟨_, h, k, effect, ⟨[(⟨1⟩, 1)], by decide⟩, dialogue, allocated, rfl, performed, rfl,
    called, rfl, forgotten ⟨1⟩ mem, rfl⟩

end Heap

end RefCycle
