import Mathlib
import RefCycle.Heap.History
import RefCycle.Proofs.Heap.Enclosure
import RefCycle.Proofs.Heap.Step
/-!
# Accounting

If mutators release only what they hold, the books of a heap stay in order for
ever: every call is carried out, counts are exact, and nothing that is held or
referred to is freed.

## Main definitions

* `Ledger.Sound` — the books of a ledger are in order.

## Main statements

* `Ledger.Sound.carried`, `Ledger.Sound.turns` — an allowed call meets no fault and
  keeps the books.
* `Ledger.Disciplined.sound` — the books of disciplined histories are in order.
* `Ledger.disciplined_accounting` — what this means for counts, references and calls.
-/

namespace RefCycle.Heap

variable {h : Heap} {call : Call} {effect : Effect} {p object source target : ObjectId}

namespace Ledger

variable {ledger : Ledger}

/-- The books of a ledger are in order: counts are exact and positive, and there
    are no more references to any object than were ever created. -/
structure Sound (ledger : Ledger) : Prop where
  balanced : ledger.heap.Balanced ledger.held []
  referenced : ledger.heap.Unreferenced []
  within : ∀ p, ledger.held p + ledger.heap.inDegree p ≤ ledger.created
  size_le : ledger.heap.slots.size ≤ ledger.created

theorem sound_empty : empty.Sound where
  balanced := ⟨fun p count hp => by simp [empty, refCount?] at hp, fun p hp => by
    have degree : Heap.empty.inDegree p = 0 := rfl
    simp [empty, degree] at hp⟩
  referenced := ⟨List.nodup_nil, fun p => by simp [empty, refCount?]⟩
  within _ := Nat.le_refl 0
  size_le := Nat.le_refl 0

theorem after_refused (ledger : Ledger) (call : Call) (refusal : Refusal) :
    ledger.after call ⟨.refused refusal, ledger.heap, []⟩ = ledger := by
  cases call <;> rfl

/-- After an operation that only frees, no object has more references than before. -/
theorem Sound.of_fewer {held : ObjectId → Nat} {k : Heap} (sound : ledger.Sound)
    (size : k.slots.size = ledger.heap.slots.size) (fewer : ∀ p, held p ≤ ledger.held p)
    (degree : ∀ p, k.inDegree p ≤ ledger.heap.inDegree p)
    (balanced : k.Balanced held []) (referenced : k.Unreferenced []) :
    Sound ⟨k, held, ledger.created⟩ where
  balanced := balanced
  referenced := referenced
  within p := (Nat.add_le_add (fewer p) (degree p)).trans (sound.within p)
  size_le := size.trans_le sound.size_le

theorem Sound.allocate (sound : ledger.Sound) :
    Sound ⟨ledger.heap.allocate.2,
      fun p => if p = ledger.heap.allocate.1 then ledger.held p + 1 else ledger.held p,
      ledger.created + 1⟩ where
  balanced := allocate_balanced sound.balanced
  referenced := allocate_unreferenced sound.referenced
  within p := by
    have law := sound.within p
    have degree : ledger.heap.allocate.2.inDegree p = ledger.heap.inDegree p :=
      inDegree_push ledger.heap _ p
    rw [degree]
    dsimp only
    split <;> omega
  size_le := by simpa [Heap.allocate] using sound.size_le

theorem Sound.retain {count : Nat} (sound : ledger.Sound)
    (here : ledger.heap.refCount? object = some count) :
    Sound ⟨ledger.heap.setCount object (count + 1),
      fun p => if p = object then ledger.held p + 1 else ledger.held p, ledger.created + 1⟩ where
  balanced := retain_balanced sound.balanced here
  referenced := sound.referenced.raise object
  within p := by
    have law := sound.within p
    rw [inDegree_setCount]
    dsimp only
    split <;> omega
  size_le := (size_slots_setCount ..).trans_le (Nat.le_succ_of_le sound.size_le)

theorem Sound.link {count : Nat} (sound : ledger.Sound) (live : ledger.heap.contains source)
    (here : ledger.heap.refCount? target = some count) :
    Sound ⟨ledger.heap.linked source target count, ledger.held, ledger.created + 1⟩ where
  balanced := link_balanced sound.balanced live here
  referenced := link_unreferenced sound.referenced count
  within p := by
    have law := sound.within p
    rw [inDegree_linked count live]
    dsimp only
    split <;> omega
  size_le := by
    rw [linked, size_slots_modify, size_slots_setCount]
    exact Nat.le_succ_of_le sound.size_le

/-- An allowed call meets no fault. -/
theorem Sound.carried [VisitOrder] (sound : ledger.Sound) (call : Call)
    (allowed : ledger.Allows call) : ∃ effect, ledger.heap.perform call = .ok effect := by
  cases call with
  | allocate | retain | link | detect => exact ⟨_, rfl⟩
  | release object =>
    obtain ⟨freeing, done, -⟩ := release_balanced sound.balanced sound.referenced allowed
    exact ⟨_, by rw [perform, done, Effect.ofFreeing]⟩
  | unlink source target =>
    cases here : ledger.heap.get? source with
    | none => exact ⟨_, by simp only [perform, unlink, here, Effect.ofFreeing]; rfl⟩
    | some o =>
      by_cases refers : target ∈ ledger.heap.edges source
      · obtain ⟨freeing, done, -⟩ := unlink_balanced sound.balanced sound.referenced refers
        exact ⟨_, by rw [perform, done, Effect.ofFreeing]⟩
      · have lacks : target ∉ o.edges := by rwa [edges_of_get? here, ← Array.mem_def] at refers
        exact ⟨_, by simp only [perform, unlink, here, if_neg lacks, Effect.ofFreeing]; rfl⟩
  | releaseGroup group =>
    obtain ⟨release, done, -⟩ := releaseGroup_balanced sound.balanced sound.referenced group
    exact ⟨_, by simp only [perform, Reclaimable.releaseGroup, done]; rfl⟩

/-- An allowed call keeps the books in order. -/
theorem Sound.turns (sound : ledger.Sound) (allowed : ledger.Allows call)
    (turns : ledger.heap.Turns call effect) : (ledger.after call effect).Sound := by
  cases turns with
  | refused | lacking => rwa [after_refused]
  | detected => exact sound
  | allocated => exact sound.allocate
  | retained here => exact sound.retain here
  | linked live here => exact sound.link live here
  | released live run =>
    -- What a mutator lets go of is due, and dropping what is due balances the books.
    obtain ⟨freeing, done, balanced, referenced⟩ :=
      discard_balanced (sound.balanced.letGo allowed) sound.referenced
    obtain rfl := Except.ok.inj (run.symm.trans done)
    have less := discard_shrinks run
    refine sound.of_fewer less.size (fun p => ?_) less.inDegree_le balanced referenced
    simp only [heldAfter]
    split <;> omega
  | unlinked refers run =>
    obtain ⟨freeing, done, balanced, referenced⟩ :=
      discard_balanced (sound.balanced.takeOut refers) (unlinked_unreferenced sound.referenced)
    obtain rfl := Except.ok.inj (run.symm.trans done)
    have less := discard_shrinks run
    refine sound.of_fewer (less.size.trans (size_slots_modify ..)) (fun p => le_rfl) (fun p => ?_)
      balanced referenced
    exact (less.inDegree_le p).trans (Nat.le.intro (inDegree_unlinked refers p))
  | freed run =>
    obtain ⟨release, done, balanced, referenced⟩ :=
      releaseGroup_balanced sound.balanced sound.referenced _
    obtain rfl := Except.ok.inj (run.symm.trans done)
    have less := releaseGroup_shrinks run
    exact sound.of_fewer less.size (fun p => le_rfl) less.inDegree_le balanced referenced

/-- The books of a disciplined history are in order. -/
theorem Disciplined.sound (history : Disciplined ledger) : ledger.Sound := by
  induction history with
  | empty => exact sound_empty
  | step history call allowed performed ih => exact ih.turns allowed (turns_of_perform performed)

/-- What the books say of a disciplined history.

    The count of each live object is positive, exact, and at most the number of
    references ever created, so that counts and identities fit into a machine word
    as long as that number does. What is held or referred to is live. Any call
    which does not release too much is carried out; it is refused for a freed
    object only if it needs one, which then nobody holds, and changes nothing. -/
theorem disciplined_accounting [VisitOrder] (history : Disciplined ledger) :
    (∀ p count, ledger.heap.refCount? p = some count →
      1 ≤ count ∧ count = ledger.held p + ledger.heap.inDegree p ∧ count ≤ ledger.created) ∧
    ledger.heap.slots.size ≤ ledger.created ∧
    (∀ p, 0 < ledger.held p → ledger.heap.contains p) ∧
    (∀ p q, q ∈ ledger.heap.edges p → ledger.heap.contains q) ∧
    ∀ call, ledger.Allows call → ∃ effect, ledger.heap.perform call = .ok effect ∧
      (∀ p, effect.response = .refused (.freed p) ↔
        call.needs.find? (fun q => !ledger.heap.contains q) = some p) ∧
      (∀ p, effect.response = .refused (.freed p) → ledger.held p = 0) ∧
      (∀ refusal, effect.response = .refused refusal →
        effect.heap = ledger.heap ∧ effect.records = []) := by
  have sound := history.sound
  have held_live : ∀ p, 0 < ledger.held p → ledger.heap.contains p :=
    fun p holds => sound.balanced.live p (by omega)
  refine ⟨fun p count here => ?_, sound.size_le, held_live, fun p q refers => ?_, ?_⟩
  · have law := sound.balanced.counted p count here
    have zero : count ≠ 0 := by
      rintro rfl
      exact absurd ((sound.referenced.mem_iff p).2 here) List.not_mem_nil
    have bound := sound.within p
    rw [List.count_nil] at law
    omega
  · have pos := inDegree_pos_iff.2 ⟨p, refers⟩
    exact sound.balanced.live q (by omega)
  · intro call allowed
    obtain ⟨effect, performed⟩ := sound.carried call allowed
    have refusal := perform_refused_iff performed
    refine ⟨effect, performed, refusal, fun p refused => ?_, fun _ => perform_refused performed⟩
    have missing := List.find?_some ((refusal p).1 refused)
    by_contra holds
    simp [held_live p (Nat.pos_of_ne_zero holds)] at missing

attribute [local instance] VisitOrder.ascending

/-- Two objects that refer to each other after their owner let go of both: the
    books count one reference each, and a group that names a third object besides
    them is released without a fault. -/
theorem disciplined_accounting_orphaned_pair :
    ∃ ledger : Ledger, ledger.Disciplined ∧
      ledger.heap = ⟨#[some ⟨1, #[⟨1⟩]⟩, some ⟨1, #[⟨0⟩]⟩]⟩ ∧
      1 = ledger.held ⟨0⟩ + ledger.heap.inDegree ⟨0⟩ ∧
      ∃ effect, ledger.heap.perform (.releaseGroup [⟨1⟩, ⟨7⟩, ⟨0⟩, ⟨1⟩]) = .ok effect := by
  let calls : List Call :=
    [.allocate, .allocate, .link ⟨0⟩ ⟨1⟩, .link ⟨1⟩ ⟨0⟩, .release ⟨0⟩, .release ⟨1⟩]
  have heap : (empty.play calls).map Ledger.heap =
      some ⟨#[some ⟨1, #[⟨1⟩]⟩, some ⟨1, #[⟨0⟩]⟩]⟩ := by cbv
  obtain ⟨ledger, played, eq⟩ := Option.map_eq_some_iff.1 heap
  have history := Disciplined.empty.play played
  obtain ⟨counts, -, -, -, carried⟩ := disciplined_accounting history
  refine ⟨ledger, history, eq, (counts ⟨0⟩ 1 ?_).2.1, ?_⟩
  · rw [eq]
    rfl
  · obtain ⟨effect, performed, -⟩ := carried (.releaseGroup [⟨1⟩, ⟨7⟩, ⟨0⟩, ⟨1⟩]) trivial
    exact ⟨effect, performed⟩

end Ledger

end RefCycle.Heap
